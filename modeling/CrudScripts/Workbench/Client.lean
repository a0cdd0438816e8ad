import CrudScripts.Data.Wording
import CrudScripts.Dialect.Registry
import CrudScripts.Workbench.Desk

/-!
The client of the service. Failures of a call are shown on the screen and become a value with an
`error` field.
-/
namespace CrudScripts.Workbench
open CrudScripts.Data

/-- What the workbench is told about the service when it starts, and how many values can stand
    inside each other in what it shows. -/
structure Client where
  baseUrl : String := "http://localhost:5001/api/v1"
  /-- The name of the cookie that carries the entitlement. -/
  cookieName : String := "SQLGen_Pro"
  nesting : Nat := 980

namespace Client

/-- The wording of a value on the screen or in an address. -/
def shown (client : Client) (v : Value) : Except Failure String := v.display client.nesting

/-- The address of a path at the service. -/
def address (client : Client) (path : String) : String := client.baseUrl ++ "/" ++ path

def endpointUrl (client : Client) (endpoint : Value) : Except Failure String := do
  return client.address (← client.shown endpoint)

/-- The cookie that carries the entitlement, if there is one. -/
def entitlementCookies (client : Client) (entitled : Value) : Value :=
  if entitled.truthy then .dict [(client.cookieName, .text "1")] else .null

end Client

def errorValue (text : String) : Value := .dict [("error", .text text)]

/-- The failure for a body that stands too deep inside itself. -/
def bodyTooDeep : Failure := .tooDeep "decoding a JSON text"

/-- Shows a refusal, and gives the body of the response or, where it has no value, its text. -/
def showRefusal (r : Response) (text : String) : Act Value := do
  say .error ("HTTP error occurred: " ++ text ++ " - Response: " ++ r.body)
  match r.value with
  | .ok v => return v
  | .error .tooDeep => fail bodyTooDeep
  | .error _ => return .dict [("error", .text r.body), ("status_code", .int r.status)]

def showCallFault (text : String) : Act Value := do
  say .error ("Request error occurred: " ++ text)
  return errorValue text

/-- The value of a reply to a request. `onBrokenReader` says what happens when the reader of a body
    fails. -/
def receive (onBrokenReader : Response → String → Act Value) : Reply → Act Value
  | .statusFault _ => fail .unsetReply
  | .callFault text => showCallFault text
  | .otherFault name => fail (.transport name)
  | .response r => match r.refusal? with
    | some text => showRefusal r text
    | none => match r.value with
      | .ok v => return v
      | .error (.notJson text) => showCallFault text
      | .error (.brokenReader text) => onBrokenReader r text
      | .error .tooDeep => fail bodyTooDeep

def showBrokenReader (r : Response) (text : String) : Act Value := do
  say .error ("JSON decode error: " ++ text ++ " - Response: " ++ r.body)
  return .dict [("error", .text "Failed to decode JSON response"), ("raw_response", .text r.body)]

/-- The failure of a request that sends something where its endpoint has no wording: a refused value
    is taken for a reply that cannot be read, but no reply is there to be shown. -/
def unsentFailure : Failure → Failure
  | .badValue _ => .unsetReply
  | failure => failure

def postRequest (client : Client) (endpoint payload cookies : Value) : Act Value := do
  match client.endpointUrl endpoint with
  | .ok url => receive showBrokenReader (← send (.post url payload cookies))
  | .error failure => fail (unsentFailure failure)

/-- Asks an endpoint for a value. A broken reader stops the action. -/
def getRequest (client : Client) (endpoint params : Value) : Act Value := do
  match client.endpointUrl endpoint with
  | .ok url => receive (fun _ text => fail (.badValue text)) (← send (.get url params))
  | .error failure => fail failure

/-- The dialects to offer when the service offers none. -/
def fallbackDialects : List String := Dialect.supportedNames

def listDialects (client : Client) : Act Value := do
  let response ← getRequest client (.text "dialects") .null
  let dialects ← need (response.memberD "dialects" .null)
  return if dialects.truthy then dialects else .list (fallbackDialects.map .text)

/-- Asks the service for the table of a statement. -/
def parseStatement (client : Client) (sql : Value) : Act Value :=
  postRequest client (.text "sql/parse") (.dict [("create_sql", sql)]) .null

/-- What generation is asked for. -/
structure Wish where
  sql : Value
  targets : Value
  routines : Value
  diff : Value
  entitled : Value

/-- The body of a request for generation. -/
def Wish.payload (w : Wish) : Except Failure Value := do
  let targets ← w.targets.elements
  return .dict [("create_sql", w.sql), ("targets", .list targets),
    ("include_procedures", w.routines), ("include_diff", w.diff)]

def generateScripts (client : Client) (w : Wish) : Act Value := do
  let payload ← need w.payload
  postRequest client (.text "sql/generate") payload (client.entitlementCookies w.entitled)

def showDownloadFault (text : String) : Act (Option (String × String)) := do
  say .error ("Download failed: " ++ text)
  return none

/-- Asks the service for an archive of scripts: its content and its file name. -/
def downloadScripts (client : Client) (w : Wish) : Act (Option (String × String)) := do
  let payload ← need w.payload
  let url := client.address "sql/generate/download"
  match ← send (.post url payload (client.entitlementCookies w.entitled)) with
  | .statusFault text => showDownloadFault text
  | .callFault text => showDownloadFault text
  | .otherFault name => fail (.transport name)
  | .response r => match r.refusal? with
    | some text => showDownloadFault text
    | none => return some (r.body, ← need (attachmentName r "scripts.zip"))

end CrudScripts.Workbench
