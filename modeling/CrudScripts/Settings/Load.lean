import CrudScripts.Settings.Config

/-!
Loading settings. The sections that generation and entitlement read are checked and completed with
their defaults, relative base directories are resolved against the root of the project, and every
other section is kept as it is.
-/
namespace CrudScripts.Settings
open CrudScripts.Data

def generationDefaults : List (String × Value) :=
  [("default_targets", .list []), ("syntax_check", .bool true)]

def entitlementDefaults : List (String × Value) :=
  [("cookie_name", .text "SQLGen_Pro"), ("cookie_value", .text "1")]

/-- The fields of a section completed with defaults. What counts as absent is an empty section. -/
def completeSection (name : String) (defaults : List (String × Value)) (section? : Option Value) :
    Except Failure (List (String × Value)) :=
  match section? with
  | some (.dict fields) => .ok (Fields.putAll defaults fields)
  | some other =>
    if other.truthy then .error (.badValue ("'" ++ name ++ "' in settings.yaml must be a mapping"))
    else .ok defaults
  | none => .ok defaults

/-- The default targets of settings: a list of texts, empty when absent. -/
def checkedTargets (targets : Value) : Except Failure Value :=
  if targets.truthy then
    match targets with
    | .list items =>
      if items.all fun v => v.text?.isSome then .ok targets
      else .error (.badValue "generation.default_targets must be a list of dialect names")
    | _ => .error (.badValue "generation.default_targets must be a list of dialect names")
  else .ok (.list [])

/-- The settings with their generation and entitlement sections checked and completed. -/
def completeSections (machine : Machine) (settings : List (String × Value)) :
    Except Failure (List (String × Value)) := do
  let generation ← completeSection "generation" generationDefaults (settings.lookup "generation")
  let entitlement ←
    completeSection "entitlement" entitlementDefaults (settings.lookup "entitlement")
  let targets ← checkedTargets ((generation.lookup "default_targets").getD .null)
  let cookie ← ((entitlement.lookup "cookie_value").getD .null).display machine.nesting
  return Fields.putAll settings
    [("generation", .dict (Fields.put "default_targets" targets generation)),
     ("entitlement", .dict (Fields.put "cookie_value" (.text cookie) entitlement))]

/-- A base directory as an absolute path; a value that is no text stays as it is. The steps of a
    relative path are looked up on the way. -/
def resolveDirectory (machine : Machine) : Value → Except Failure Value
  | .text path =>
    if isAbsolute path then .ok (.text path)
    else match (pathSteps path).findSome? machine.stepFault? with
      | some failure => .error failure
      | none => .ok (.text (resolvePath machine.root path))
  | other => .ok other

/-- The fields of base directories with their relative paths resolved. -/
def resolveDirectories (machine : Machine) :
    List (String × Value) → Except Failure (List (String × Value))
  | [] => .ok []
  | (name, path) :: rest => do
    let path ← resolveDirectory machine path
    return (name, path) :: (← resolveDirectories machine rest)

/-- The fields of a value that may be absent. -/
def fieldsIfAny (v : Value) : Except Failure (List (String × Value)) :=
  if v.truthy then v.fields else .ok []

def asLoadFailure : Failure → Failure
  | .badValue message => .loadFailed (.badValue message)
  | other => other

def load (machine : Machine) (settings : Value) : Except Failure Config :=
  let loaded : Except Failure (List (String × Value)) := do
    let settings := if settings.truthy then settings else .dict []
    let directories ← fieldsIfAny (← settings.memberD "base_dirs" .null)
    let resolved ← resolveDirectories machine directories
    let fields ← settings.fields
    completeSections machine (Fields.put "base_dirs" (.dict resolved) fields)
  (loaded.mapError asLoadFailure).map fun sections => { sections, machine }

/-- The configuration of a settings file, which may be missing. -/
def loadFile (machine : Machine) (place : String) (contents : Option Value) :
    Except Failure Config :=
  match contents with
  | some settings => load machine settings
  | none => .error (.missingSettings place)

/-- The configuration that the program starts with; without one it does not start. -/
def start (machine : Machine) (place : String) (contents : Option Value) : Except Failure Config :=
  (loadFile machine place contents).mapError .startAborted

end CrudScripts.Settings
