import CrudScripts.Check.Statements
import CrudScripts.Run.Report
import CrudScripts.Run.Targets
import CrudScripts.Schema.Parse
import CrudScripts.Script.Assembly
import CrudScripts.Settings.Logging

/-!
Runs: one statement in, one script per target out, with the issues that the checker finds. What a
target gets depends on the table, the features and the checker only, so a run is made of the parts
of its targets in order.
-/
namespace CrudScripts.Run
open CrudScripts.Check CrudScripts.Data CrudScripts.Schema CrudScripts.Settings

/-- What is wished for besides the targets; whatever counts as present is a wish granted. A null
    wish about checking leaves it to the configuration. -/
structure Wishes where
  routines : Value := .bool false
  diff : Value := .bool false
  check : Value := .null

/-- What is to be generated for every statement, the wishes as they were made, and how many values
    can stand inside each other in the wording of a target. -/
structure Job where
  targets : List Value
  routines : Value
  diff : Value
  check : Value
  nesting : Nat

/-- A job for requested targets. -/
def Job.prepare (config : Config) (requested : Value) (wishes : Wishes) : Except Failure Job := do
  joinLog config
  let targets ← resolveTargets config requested
  let check ← match wishes.check with
    | .null => config.setting "generation" "syntax_check" (.bool true)
    | wish => pure wish
  return ⟨targets, wishes.routines, wishes.diff, check, config.machine.nesting⟩

/-- What a run makes of a statement. -/
structure Outcome where
  table : Table
  scripts : List (Value × String)
  issues : List Issue
  warnings : List Warning
  consulted : List Consultation

namespace Job

/-- What the scripts of a job hold besides the three statements. -/
def features (job : Job) : Script.Features := ⟨job.routines.truthy, job.diff.truthy⟩

def script (job : Job) (t : Table) (target : Value) : String :=
  Script.generate (Dialect.ofTarget target) t job.features

/-- What checking the statements of a table for a target brings to light. -/
def findings (job : Job) (checker : Checker) (t : Table) (target : Value) : Findings :=
  if job.check.truthy then checkTable checker target t else {}

def warnings (job : Job) (checker : Checker) (t : Table) (target : Value) : List Warning :=
  (if Dialect.isSupportedTarget target then [] else [.unknownDialect target.wording]) ++
    (job.findings checker t target).warnings

/-- The outcome for a statement that was read. -/
def outcome (job : Job) (checker : Checker) (parsed : Parsed) : Outcome :=
  let findings := job.findings checker parsed.table
  { table := parsed.table
    scripts := job.targets.map fun target => (target, job.script parsed.table target)
    issues := job.targets.flatMap fun target => (findings target).issues
    warnings := parsed.warnings ++ job.targets.flatMap (job.warnings checker parsed.table)
    consulted := job.targets.flatMap fun target => (findings target).consulted }

/-- What stops a run at a target: each is shown, and then looked up. -/
def targetFault? (job : Job) (target : Value) : Option Failure :=
  match target.display job.nesting with
  | .error failure => some failure
  | .ok _ => if target.isKey then none else some (.unhashable target.kind)

/-- Runs a job on a statement. The first target that cannot be shown or looked up stops it. -/
def run (job : Job) (checker : Checker) (sql : String) : Except Failure Outcome :=
  match job.targets.findSome? job.targetFault? with
  | some failure => .error failure
  | none => .ok (job.outcome checker (parse sql))

end Job

namespace Outcome

/-- Whether a run has columns to work with and no issues. -/
def isComplete (o : Outcome) : Bool := !o.table.columns.isEmpty && o.issues.isEmpty

def status (o : Outcome) : String := if o.isComplete then "success" else "partial_success"

def message (o : Outcome) : String :=
  if o.table.columns.isEmpty then
    "No column definitions recognised; generated statements are empty."
  else if o.issues.isEmpty then
    "Generated " ++ toString o.scripts.length ++ " script(s) for table " ++ o.table.name ++ "."
  else
    "Generated " ++ toString o.scripts.length ++ " script(s); " ++ toString o.issues.length ++
      " statement(s) failed the syntax check."

def report (job : Job) (o : Outcome) : Report :=
  { status := o.status
    message := o.message
    table := o.table
    scripts := o.scripts
    issues := o.issues.map Issue.toValue
    extras := [("targets", .list job.targets),
      ("include_procedures", job.routines), ("include_diff", job.diff)] }

end Outcome

end CrudScripts.Run
