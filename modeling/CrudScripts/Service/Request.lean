import CrudScripts.Run.Job

/-!
Requests for generation. The parts of a body are read in a fixed order, the first one that is
refused decides, and only then does the entitlement of the request limit its features. A request is
entitled when it carries the configured cookie with the configured value, compared as texts.
-/
namespace CrudScripts.Service
open CrudScripts.Data CrudScripts.Settings

/-- The cookies of a request by name. -/
abbrev Cookies := List (String × String)

/-- The cookie under a name. A name that is no text finds none. -/
def findCookie (cookies : Cookies) : Value → Except Failure (Option String)
  | .text name => .ok (cookies.lookup name)
  | other => if other.isKey then .ok none else .error (.unhashable other.kind)

/-- Whether a request is entitled to every feature. -/
def isEntitled (config : Config) (cookies : Cookies) : Except Failure Bool := do
  let name ← config.setting "entitlement" "cookie_name" (.text "SQLGen_Pro")
  let value ← config.setting "entitlement" "cookie_value" (.text "1")
  let content ← value.display config.machine.nesting
  return (← findCookie cookies name) == some content

/-- What a request asks for, once it is accepted. -/
structure GenerationRequest where
  sql : String
  targets : Value
  features : Script.Features

def readSql (payload : Value) : Except Failure String := do
  match ← payload.member "create_sql" with
  | some (.text sql) => return sql
  | _ => throw (.badValue "Missing required field: create_sql (string)")

/-- The targets of a body: a list of texts, empty when absent. -/
def readTargets (payload : Value) : Except Failure Value := do
  let targets ← payload.memberD "targets" .null
  if !targets.truthy then return .list []
  match targets with
  | .list items =>
    if items.all fun v => v.text?.isSome then return targets
    else throw (.badValue "targets must be a list of dialect names")
  | _ => throw (.badValue "targets must be a list of dialect names")

/-- The features that a body wishes for; what it does not mention it wishes for. -/
def readFeatures (payload : Value) : Except Failure Script.Features := do
  let routines ← payload.memberD "include_procedures" (.bool true)
  let diff ← payload.memberD "include_diff" (.bool true)
  match routines, diff with
  | .bool routines, .bool diff => return ⟨routines, diff⟩
  | _, _ => throw (.badValue "include_procedures and include_diff must be true or false")

/-- The features of a request: its wishes if it is entitled, and none otherwise. -/
def grantedFeatures (entitled : Bool) (wishes : Script.Features) : Script.Features :=
  if entitled then wishes else ⟨false, false⟩

/-- The wishes of an accepted request for a job. -/
def GenerationRequest.wishes (request : GenerationRequest) (check : Value) : Run.Wishes :=
  { routines := .bool request.features.routines, diff := .bool request.features.diff, check }

/-- The request of a body and its cookies. -/
def readRequest (config : Config) (payload : Value) (cookies : Cookies) :
    Except Failure GenerationRequest := do
  if !payload.truthy then throw (.badValue "No JSON data provided")
  let sql ← readSql payload
  let targets ← readTargets payload
  let wishes ← readFeatures payload
  let entitled ← isEntitled config cookies
  return ⟨sql, targets, grantedFeatures entitled wishes⟩

end CrudScripts.Service
