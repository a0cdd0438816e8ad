import CrudScripts.Data.Json.Depth
import CrudScripts.Text.Letter
import CrudScripts.Text.Scan

/-!
Requests to the service and what comes back: a response, or a fault of the call itself.
-/
namespace CrudScripts.Workbench
open CrudScripts.Data CrudScripts.Text

inductive Request where
  | post (url : String) (json cookies : Value)
  | get (url : String) (params : Value)

/-- A response of the service, with the address that it came from in the end. With its body comes
    what the reader makes of it: the character that it holds a lone half of a pair of 16-bit units
    as, the text of its complaint where the body is no JSON, and a failure of its own, if there is
    one. -/
structure Response where
  status : Int
  reason : String
  url : String
  headers : List (String × Value)
  body : String
  half : Nat → Char
  complaint : String
  brokenReader : Option String

/-- What comes back from a call. -/
inductive Reply where
  | response (r : Response)
  /-- The call failed with a status error, before there was a response. -/
  | statusFault (text : String)
  | callFault (text : String)
  /-- The call failed with something that is no failure of a request. -/
  | otherFault (name : String)

/-- Why the body of a response has no value. -/
inductive BodyFault where
  | notJson (text : String)
  /-- The reader of the body failed. -/
  | brokenReader (text : String)
  /-- The parts of the body stand too deep inside each other. -/
  | tooDeep

namespace Response

def value (r : Response) : Except BodyFault Value :=
  match r.brokenReader with
  | some text => .error (.brokenReader text)
  | none =>
    if Json.isTooDeep r.body then .error .tooDeep
    else match Json.read r.half r.body with
      | some v => .ok v
      | none => .error (.notJson r.complaint)

/-- The text of a refusal, when the status is one of the request's or of the server's errors. -/
def refusal? (r : Response) : Option String :=
  let text (who : String) : String :=
    toString r.status ++ " " ++ who ++ " Error: " ++ r.reason ++ " for url: " ++ r.url
  if 400 ≤ r.status ∧ r.status < 500 then some (text "Client")
  else if 500 ≤ r.status ∧ r.status < 600 then some (text "Server")
  else none

/-- The header under a name, whatever its case; of several the last one counts. -/
def header? (r : Response) (name : String) : Option Value :=
  (r.headers.reverse.find? fun h => lower h.1 == lower name).map (·.2)

end Response

/-- The file name at the front of a header: the text between quotes after `filename=`. -/
def fileNameAtFront (s : List Char) : Option (List Char) :=
  let mark := "filename=\"".toList
  if mark.isPrefixOf s then
    match takeRun (· != '"') (s.drop mark.length) with
    | some (name, '"' :: _) => some name
    | _ => none
  else none

/-- The file name that a header gives to an attachment. -/
def fileNameIn (header : String) : Option String :=
  (firstMatch fileNameAtFront header.toList).map String.ofList

/-- The file name of the attachment of a response, or a default. A header that is no text cannot be
    searched. -/
def attachmentName (r : Response) (default : String) : Except Failure String :=
  match r.header? "content-disposition" with
  | none => .ok default
  | some (.text header) => .ok ((fileNameIn header).getD default)
  | some other => .error (.unsearchable other.kind)

end CrudScripts.Workbench
