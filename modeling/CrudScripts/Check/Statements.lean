import CrudScripts.Check.Verdict
import CrudScripts.Script.Parameterized
import CrudScripts.Warning

/-!
Checking the statements of a script. Each statement is shown to the checker once, in order, in the
dialect that its target is checked as. A table without columns has only degenerate statements, and
none of them is checked.
-/
namespace CrudScripts.Check
open CrudScripts.Data CrudScripts.Schema

/-- What checking brings to light: the issues, the consultations of the checker, and the reports. -/
structure Findings where
  issues : List Issue := []
  consulted : List Consultation := []
  warnings : List Warning := []

/-- The issue of a statement, if the checker refuses it. -/
def issueOf (checker : Checker) (target : Value) (statement : String) : Option Issue :=
  (checker statement (Dialect.ofTarget target).checkedAs).error?.map fun error =>
    ⟨target, statement, error⟩

/-- The findings on the statements of a target, in order. -/
def checkStatements (checker : Checker) (target : Value) (statements : List String) : Findings :=
  { issues := statements.filterMap (issueOf checker target)
    consulted := statements.map fun s => (s, (Dialect.ofTarget target).checkedAs) }

/-- The report that statements of a table were refused. -/
def refusalWarnings (target : Value) (t : Table) (count : Nat) : List Warning :=
  if count = 0 then [] else [.failedChecks count target.wording t.name]

/-- The findings on the statements of a table for a target. -/
def checkTable (checker : Checker) (target : Value) (t : Table) : Findings :=
  if t.columns.isEmpty then {}
  else
    let found := checkStatements checker target
      (Script.statementTexts (Dialect.ofTarget target) t)
    { found with warnings := refusalWarnings target t found.issues.length }

end CrudScripts.Check
