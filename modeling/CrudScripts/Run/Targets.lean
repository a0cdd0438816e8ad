import CrudScripts.Dialect.Registry
import CrudScripts.Settings.Config
import CrudScripts.Text.Blank

/-!
The targets of a run. The texts among the requested targets that are not blank are taken; if there
are none, the configured default, and if that is empty, every supported dialect. Equal targets are
taken once, where they first stand.
-/
namespace CrudScripts.Run
open CrudScripts.Data CrudScripts.Settings

/-- Whether a requested target is taken: a text that is not blank. -/
def isTarget : Value → Bool
  | .text s => !Text.allBlank s.toList
  | _ => false

/-- The elements of a value that may be absent; whatever counts as absent has none. -/
def elementsIfAny (v : Value) : Except Failure (List Value) :=
  if v.truthy then v.elements else .ok []

/-- The values in order, each once, where it first stands; `taken` are those before. -/
def distinctFrom (taken : List Value) : List Value → List Value
  | [] => []
  | v :: rest =>
    if taken.any v.same then distinctFrom taken rest
    else v :: distinctFrom (taken ++ [v]) rest

/-- The targets for want of requested ones. -/
def defaultTargets (config : Config) : Except Failure (List Value) := do
  let configured ← config.setting "generation" "default_targets" .null
  if configured.truthy then configured.elements
  else return Dialect.supportedNames.map .text

def resolveTargets (config : Config) (requested : Value) : Except Failure (List Value) := do
  let taken := (← elementsIfAny requested).filter isTarget
  let targets ← if taken.isEmpty then defaultTargets config else pure taken
  return distinctFrom [] targets

end CrudScripts.Run
