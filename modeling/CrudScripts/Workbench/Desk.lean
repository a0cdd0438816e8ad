import CrudScripts.Workbench.Element
import CrudScripts.Workbench.Reply

/-!
A desk is where one run of the workbench takes place: the session that outlives the run, the answers
of the form elements, the replies still to come, and what the run has put on the screen and
exchanged with the service. An action works on a desk and may stop, to start over or for a failure;
what it did before stays done.
-/
namespace CrudScripts.Workbench
open CrudScripts.Data

/-- What is kept between the runs of the workbench. A field is absent before the first run. -/
structure Session where
  generated : Option Value := none
  download : Option Value := none
  page : Option Value := none
  entitled : Option Value := none
  statement : Option Value := none
  others : List (String × Value) := []

/-- The place of a run. -/
structure Desk where
  session : Session
  answers : List (String × Value)
  replies : List Reply
  screen : List Element
  exchanges : List (Request × Reply)

inductive Stop where
  | rerun
  | failure (cause : Failure)

def Desk.requests (d : Desk) : List Request := d.exchanges.map (·.1)

abbrev Act := ExceptT Stop (StateM Desk)

def put (e : Element) : Act Unit := modify fun d => { d with screen := d.screen ++ [e] }

def say (kind : TextKind) (content : String) : Act Unit := put (.text kind (.text content))

def fail {α : Type} (cause : Failure) : Act α := throw (.failure cause)

/-- The result of a reader of values; its failure stops the action. -/
def need {α : Type} (result : Except Failure α) : Act α :=
  match result with
  | .ok a => pure a
  | .error cause => fail cause

def startOver {α : Type} : Act α := do
  put .rerun
  throw .rerun

/-- The answer of a form element, or a default. -/
def answer (key : String) (default : Value) : Act Value := do
  return ((← get).answers.lookup key).getD default

def session : Act Session := do return (← get).session

def change (f : Session → Session) : Act Unit := modify fun d => { d with session := f d.session }

/-- The reply to the next request and those after it. When none is left, the call fails. -/
def nextReply : List Reply → Reply × List Reply
  | reply :: rest => (reply, rest)
  | [] => (.callFault "no reply", [])

/-- Sends a request and takes the next reply. -/
def send (request : Request) : Act Reply := do
  let desk ← get
  let (reply, rest) := nextReply desk.replies
  set { desk with replies := rest, exchanges := desk.exchanges ++ [(request, reply)] }
  return reply

/-- Runs an action inside a part of the screen, which is left however the action ends. -/
def inside {α : Type} (region : Region) (action : Act α) : Act α := do
  put (.enter region)
  let result ← try action catch stop => put (.leave region); throw stop
  put (.leave region)
  return result

end CrudScripts.Workbench
