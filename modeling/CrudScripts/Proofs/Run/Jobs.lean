import CrudScripts.Proofs.Data.Fields
import CrudScripts.Proofs.Data.Wording
import CrudScripts.Proofs.Run.Targets
import CrudScripts.Run.Job

/-!
Jobs and what they report. A job for names differs from one for other names in its targets only
(`prepare_texts`), and it runs when its targets can be shown and looked up (`run_eq_ok_iff`).
-/
namespace CrudScripts.Run
open CrudScripts.Check CrudScripts.Data CrudScripts.Settings

/-- What a job checks: the wish about it, or the setting for want of one. The log is joined first. -/
def checking (config : Config) (wishes : Wishes) : Except Failure Value := do
  joinLog config
  match wishes.check with
  | .null => config.setting "generation" "syntax_check" (.bool true)
  | wish => pure wish

/-- A job for names that are not blank is made of the names and of the wishes. -/
theorem prepare_texts {names : List String} (given : names ≠ [])
    (nonblank : ∀ name ∈ names, isTarget (.text name) = true) (config : Config) (wishes : Wishes) :
    Job.prepare config (.list (names.map .text)) wishes =
      (checking config wishes).map fun check =>
        ⟨distinctFrom [] (names.map .text), wishes.routines, wishes.diff, check, config.machine.nesting⟩ := by
  unfold Job.prepare checking
  rw [resolveTargets_texts given nonblank]
  cases joinLog config with
  | error failure => rfl
  | ok _ =>
    cases wishes.check with
    | null => cases setting : config.setting "generation" "syntax_check" (.bool true) <;> rfl
    | _ => rfl

theorem isTarget_of_prepare_texts {names : List String} (given : names ≠ [])
    (nonblank : ∀ name ∈ names, isTarget (.text name) = true) {config : Config} {wishes : Wishes} {job : Job}
    (prepared : Job.prepare config (.list (names.map .text)) wishes = .ok job) :
    ∀ target ∈ job.targets, isTarget target = true := by
  rw [prepare_texts given nonblank] at prepared
  intro target member
  cases checked : checking config wishes with
  | error failure =>
    rw [checked] at prepared
    cases prepared
  | ok check =>
    rw [checked] at prepared
    rw [← Except.ok.inj prepared] at member
    obtain ⟨name, inside, rfl⟩ := List.mem_map.mp (of_mem_distinctFrom member).1
    exact nonblank name inside

/-- A target that a job can show and look up. -/
def Job.Takes (job : Job) (target : Value) : Prop := target.HasWording job.nesting ∧ target.isKey = true

theorem targetFault?_eq_none_iff {job : Job} {target : Value} : job.targetFault? target = none ↔ job.Takes target := by
  rw [Job.Takes, ← Value.exists_display_iff, Job.targetFault?]
  cases target.display job.nesting <;> simp

theorem run_eq_ok_iff {job : Job} {checker : Checker} {sql : String} {o : Outcome} :
    job.run checker sql = .ok o ↔
      (∀ target ∈ job.targets, job.Takes target) ∧ o = job.outcome checker (Schema.parse sql) := by
  simp only [← targetFault?_eq_none_iff, ← List.findSome?_eq_none_iff, Job.run]
  cases job.targets.findSome? job.targetFault? <;> simp [eq_comm]

theorem outcome_of_run {job : Job} {checker : Checker} {sql : String} {o : Outcome}
    (ended : job.run checker sql = .ok o) : o = job.outcome checker (Schema.parse sql) :=
  (run_eq_ok_iff.mp ended).2

theorem takes_of_text {target : Value} (text : ∃ name, target = .text name) (job : Job) : job.Takes target := by
  obtain ⟨name, rfl⟩ := text
  exact ⟨.inl ⟨name, rfl⟩, rfl⟩

theorem takes_of_isTarget {target : Value} (taken : isTarget target = true) (job : Job) : job.Takes target := by
  refine takes_of_text ?_ job
  cases target with
  | text name => exact ⟨name, rfl⟩
  | _ => cases taken

/-! ### Fields of a report -/

/-- A field of a report with its scripts in pairs. -/
def Report.field (r : Report) (name : String) : Option Value := (r.fields r.scriptPairs).lookup name

namespace Outcome

variable (job : Job) (o : Outcome)

theorem field_status : (o.report job).field "status" = some (.text o.status) := rfl

theorem field_table : (o.report job).field "table" = some (tableValue o.table) := rfl

theorem field_results : (o.report job).field "results" =
    some (.list (o.scripts.map fun entry => .list [entry.1, .text entry.2])) := rfl

theorem field_issues : (o.report job).field "syntax_issues" = some (.list (o.issues.map Issue.toValue)) := rfl

end Outcome

end CrudScripts.Run
