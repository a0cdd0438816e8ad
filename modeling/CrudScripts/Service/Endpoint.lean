import CrudScripts.Data.Json.Writer
import CrudScripts.Service.Archive
import CrudScripts.Service.FileName
import CrudScripts.Service.Request

/-!
The endpoints of the service. A refused request is answered with its reason and status 400; whatever
stops a run after that, or keeps the answer from being written, is answered with status 500 and the
wording of the failure.
-/
namespace CrudScripts.Service
open CrudScripts.Check CrudScripts.Data CrudScripts.Run CrudScripts.Settings

inductive Answer where
  | body (status : Nat) (content : Value)
  /-- An archive with its media type and the header that names it. -/
  | attachment (mediaType disposition : String) (archive : Archive)

def attachmentType : String := "application/zip"

def disposition (name : String) : String := "attachment; filename=\"" ++ name ++ "\""

def refusal (status : Nat) (reason : String) : Answer :=
  .body status (.dict [("error", .text reason)])

def internalError (failure : Failure) : Answer :=
  .body 500 (.dict [("error", .text "An internal server error occurred."),
    ("details", .text failure.message)])

/-- The answer with a body, if a machine can write its text. -/
def bodyAnswer (machine : Machine) (content : Value) : Except Failure Answer :=
  match machine.textFault? (Json.written content) with
  | some failure => .error failure
  | none => .ok (.body 200 content)

/-- Answers a request after it was read: a refused one by its reason, and an accepted one by what
    is made of it. Other failures of reading are not answered. -/
def answerRequest (request : Except Failure GenerationRequest)
    (accepted : GenerationRequest → Except Failure Answer) : Except Failure Answer :=
  match request with
  | .error (.badValue reason) => .ok (refusal 400 reason)
  | .error failure => .error failure
  | .ok r => match accepted r with
    | .ok answer => .ok answer
    | .error failure => .ok (internalError failure)

def rootAnswer : Answer := .body 200 (.dict [("message", .text "API is running")])

def dialectsAnswer : Answer :=
  .body 200 (.dict [("dialects", .list (Dialect.supportedNames.map .text))])

/-- The body of an answer with the table of a statement. -/
def parsedBody (t : Schema.Table) : Value :=
  .dict
    [("status", .text (if t.columns.isEmpty then "partial_success" else "success")),
     ("message", .text ("Parsed " ++ toString t.columns.length ++ " column(s) from table " ++
       t.name ++ ".")),
     ("table", tableValue t)]

/-- The answer with the table of a statement, and nothing generated. -/
def parseAnswer (machine : Machine) (payload : Value) : Except Failure Answer := do
  let payload := if payload.truthy then payload else .dict []
  match ← payload.member "create_sql" with
  | some (.text sql) => match bodyAnswer machine (parsedBody (Schema.parse sql).table) with
    | .ok answer => return answer
    | .error failure => return internalError failure
  | _ => return refusal 400 "Missing required field: create_sql (string)"

/-- The body of an answer with generated scripts. -/
def generatedBody (job : Job) (outcome : Outcome) (entitled : Bool) : Value :=
  let report := outcome.report job
  .dict (Fields.put "pro" (.bool entitled) (report.fields report.scriptMembers))

/-- What is generated for an accepted request. -/
def generateAccepted (config : Config) (checker : Checker) (cookies : Cookies)
    (request : GenerationRequest) : Except Failure Answer := do
  let job ← Job.prepare config request.targets (request.wishes .null)
  let outcome ← job.run checker request.sql
  bodyAnswer config.machine (generatedBody job outcome (← isEntitled config cookies))

/-- The answer with the scripts of a statement. -/
def generateAnswer (config : Config) (checker : Checker) (payload : Value) (cookies : Cookies) :
    Except Failure Answer :=
  answerRequest (readRequest config payload cookies) (generateAccepted config checker cookies)

/-- The scripts of a table under their file names. -/
def namedScripts (table : String) :
    List (Value × String) → Except Failure (List (String × String))
  | [] => .ok []
  | (target, text) :: rest => do
    let label ← targetLabel target
    return (scriptFileName table label, text) :: (← namedScripts table rest)

/-- What is packed for an accepted request. Statements are not checked. -/
def downloadAccepted (config : Config) (checker : Checker) (request : GenerationRequest) :
    Except Failure Answer := do
  let job ← Job.prepare config request.targets (request.wishes (.bool false))
  let outcome ← job.run checker request.sql
  let packed ← archive config.machine (← namedScripts outcome.table.name outcome.scripts)
  return .attachment attachmentType (disposition (archiveName outcome.table.name)) packed

/-- The answer with the scripts of a statement as an archive. -/
def downloadAnswer (config : Config) (checker : Checker) (payload : Value) (cookies : Cookies) :
    Except Failure Answer :=
  answerRequest (readRequest config payload cookies) (downloadAccepted config checker)

end CrudScripts.Service
