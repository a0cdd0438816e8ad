import CrudScripts.Proofs.Run.Jobs
import Mathlib.Algebra.GroupWithZero.Nat
import Mathlib.Data.List.Forall2
import Mathlib.Data.List.Nodup

/-!
Runs over several targets. A run is made of the runs over each of its targets alone: it fails when they do and
in the same way, and otherwise its report merges theirs (`run_merges_single_runs`), so what it has for a target
depends on no other target.
-/
namespace CrudScripts.Run
open CrudScripts.Check CrudScripts.Data CrudScripts.Settings

/-- The run of a statement over names: its outcome and its report. -/
def runOver (config : Config) (wishes : Wishes) (checker : Checker) (sql : String) (names : List String) :
    Except Failure (Outcome × Report) := do
  let job ← Job.prepare config (.list (names.map .text)) wishes
  let outcome ← job.run checker sql
  return (outcome, outcome.report job)

/-- The job over names, with a decision about checking and a limit for wordings. -/
def Wishes.jobOver (wishes : Wishes) (check : Value) (nesting : Nat) (names : List String) : Job :=
  ⟨names.map .text, wishes.routines, wishes.diff, check, nesting⟩

/-- The outcome of the run of this job on a statement. -/
def outcomeOver (wishes : Wishes) (check : Value) (nesting : Nat) (checker : Checker) (sql : String)
    (names : List String) : Outcome :=
  (wishes.jobOver check nesting names).outcome checker (Schema.parse sql)

/-- The outcome of a run over names, and its report. -/
def ranOver (wishes : Wishes) (check : Value) (nesting : Nat) (checker : Checker) (sql : String) (names : List String) :
    Outcome × Report :=
  let outcome := outcomeOver wishes check nesting checker sql names
  (outcome, outcome.report (wishes.jobOver check nesting names))

section
variable {names : List String} (given : names ≠ []) (nonblank : ∀ name ∈ names, isTarget (.text name) = true)
  (distinct : names.Nodup)
include given nonblank distinct

/-- Whether a run over names fails, and how, does not depend on the names. -/
theorem runOver_eq (config : Config) (wishes : Wishes) (checker : Checker) (sql : String) :
    runOver config wishes checker sql names = (checking config wishes).map fun check =>
      ranOver wishes check config.machine.nesting checker sql names := by
  have targets : distinctFrom [] (names.map .text) = names.map .text := distinctFrom_texts [] distinct
  unfold runOver
  rw [prepare_texts given nonblank, targets]
  cases checking config wishes with
  | error failure => rfl
  | ok check =>
    let job := wishes.jobOver check config.machine.nesting names
    have taken : ∀ target ∈ job.targets, job.Takes target :=
      List.forall_mem_map.mpr fun name member => takes_of_isTarget (nonblank name member) job
    have ran : job.run checker sql = .ok (job.outcome checker (Schema.parse sql)) := run_eq_ok_iff.mpr ⟨taken, rfl⟩
    change (job.run checker sql >>= fun outcome => pure (outcome, outcome.report job)) = _
    rw [ran]
    rfl

theorem runOver_eq_error_iff {config : Config} {wishes : Wishes} {checker : Checker} {sql : String}
    {failure : Failure} :
    runOver config wishes checker sql names = .error failure ↔ checking config wishes = .error failure := by
  rw [runOver_eq given nonblank distinct]
  cases checking config wishes with
  | error other =>
    constructor <;>
    · intro same
      exact congrArg _ (Except.error.inj same)
  | ok check => exact iff_of_false nofun nofun

theorem runOver_eq_ok_iff {config : Config} {wishes : Wishes} {checker : Checker} {sql : String}
    {ran : Outcome × Report} :
    runOver config wishes checker sql names = .ok ran ↔ ∃ check, checking config wishes = .ok check ∧
      ran = ranOver wishes check config.machine.nesting checker sql names := by
  rw [runOver_eq given nonblank distinct]
  cases checking config wishes with
  | error failure => exact iff_of_false nofun fun ⟨_, other, _⟩ => nomatch other
  | ok check =>
    constructor
    · exact fun same => ⟨check, rfl, (Except.ok.inj same).symm⟩
    · rintro ⟨_, same, rfl⟩
      rw [← Except.ok.inj same]
      rfl

end

/-! ### What a report shows -/

/-- The fields of a report that belong to its run. -/
structure Summary where
  status : String
  table : Value
  results : List Value
  issues : List Value
  dialectCount : Nat
  columnCount : Nat
  issueCount : Nat

/-- A report has the fields of a summary. -/
structure Report.Shows (r : Report) (s : Summary) : Prop where
  status : r.field "status" = some (.text s.status)
  table : r.field "table" = some s.table
  results : r.field "results" = some (.list s.results)
  issues : r.field "syntax_issues" = some (.list s.issues)
  stats : r.field "stats" = some (.dict [("dialects_generated", .int s.dialectCount),
    ("columns_parsed", .int s.columnCount), ("syntax_issue_count", .int s.issueCount)])

/-- A summary that takes others together: what they list is in their order, what they count is added up, and it
    is a success if all of them are. -/
structure Summary.Merges (whole : Summary) (parts : List Summary) : Prop where
  status : whole.status = if ∀ part ∈ parts, part.status = "success" then "success" else "partial_success"
  table : ∀ part ∈ parts, part.table = whole.table
  results : whole.results = parts.flatMap Summary.results
  issues : whole.issues = parts.flatMap Summary.issues
  dialectCount : whole.dialectCount = parts.length
  columnCount : ∀ part ∈ parts, part.columnCount = whole.columnCount
  issueCount : whole.issueCount = (parts.map Summary.issueCount).sum

/-- The summary of an outcome. -/
def Outcome.summary (o : Outcome) : Summary :=
  { status := o.status
    table := tableValue o.table
    results := o.scripts.map fun entry => .list [entry.1, .text entry.2]
    issues := o.issues.map Issue.toValue
    dialectCount := o.scripts.length
    columnCount := o.table.columns.length
    issueCount := (o.issues.map Issue.toValue).length }

theorem shows_summary (job : Job) (o : Outcome) : (o.report job).Shows o.summary where
  status := o.field_status job
  table := o.field_table job
  results := o.field_results job
  issues := o.field_issues job
  stats := rfl

/-! ### Merging -/

theorem filter_flatMap_of_key {α : Type} {names : List String} (distinct : names.Nodup) {name : String}
    (member : name ∈ names) {found : String → List α} (hasKey : α → String → Bool)
    (own : ∀ n, ∀ x ∈ found n, hasKey x name = (n == name)) :
    (names.flatMap found).filter (fun x => hasKey x name) = found name := by
  induction names with
  | nil => cases member
  | cons n names ih =>
    obtain ⟨new, distinct⟩ := List.nodup_cons.mp distinct
    rw [List.flatMap_cons, List.filter_append]
    by_cases same : n = name
    · subst same
      have all : (found n).filter (fun x => hasKey x n) = found n :=
        List.filter_eq_self.mpr fun x inside => by rw [own n x inside, beq_self_eq_true]
      have none : (names.flatMap found).filter (fun x => hasKey x n) = [] := by
        refine List.filter_eq_nil_iff.mpr fun x inside => ?_
        obtain ⟨other, listed, inside⟩ := List.mem_flatMap.mp inside
        rw [own other x inside, beq_iff_eq]
        rintro rfl
        exact new listed
      rw [all, none, List.append_nil]
    · have none : (found n).filter (fun x => hasKey x name) = [] := by
        refine List.filter_eq_nil_iff.mpr fun x inside => ?_
        rw [own n x inside, beq_iff_eq]
        exact same
      rw [none, List.nil_append]
      exact ih distinct ((List.mem_cons.mp member).resolve_left (Ne.symm same))

section
variable (wishes : Wishes) (check : Value) (nesting : Nat) (checker : Checker) (sql : String) (names : List String)

theorem scripts_outcomeOver : (outcomeOver wishes check nesting checker sql names).scripts =
    names.flatMap fun name => (outcomeOver wishes check nesting checker sql [name]).scripts := by
  change ((names.map Value.text).map fun target => _) = names.flatMap fun name => [_]
  rw [List.map_map, List.map_eq_flatMap]
  rfl

theorem issues_outcomeOver : (outcomeOver wishes check nesting checker sql names).issues =
    names.flatMap fun name => (outcomeOver wishes check nesting checker sql [name]).issues := by
  simp only [outcomeOver, Wishes.jobOver, Job.outcome, List.flatMap_map, List.map_cons, List.map_nil,
    List.flatMap_singleton]
  rfl

theorem consulted_outcomeOver : (outcomeOver wishes check nesting checker sql names).consulted =
    names.flatMap fun name => (outcomeOver wishes check nesting checker sql [name]).consulted := by
  simp only [outcomeOver, Wishes.jobOver, Job.outcome, List.flatMap_map, List.map_cons, List.map_nil,
    List.flatMap_singleton]
  rfl

theorem target_of_mem_findings {job : Job} {t : Schema.Table} {target : Value} {issue : Issue}
    (member : issue ∈ (job.findings checker t target).issues) : issue.target = target := by
  unfold Job.findings at member
  split at member
  · unfold checkTable at member
    split at member
    · cases member
    · obtain ⟨statement, -, refused⟩ := List.mem_filterMap.mp member
      obtain ⟨error, -, rfl⟩ := Option.map_eq_some_iff.mp refused
      rfl
  · cases member

/-- What a run has for one of its names is what the run over this name has. -/
theorem filter_outcomeOver {names : List String} (distinct : names.Nodup) {name : String} (member : name ∈ names) :
    (outcomeOver wishes check nesting checker sql names).scripts.filter (fun entry => entry.1.same (.text name)) =
        (outcomeOver wishes check nesting checker sql [name]).scripts ∧
      (outcomeOver wishes check nesting checker sql names).issues.filter (fun issue => issue.target.same (.text name)) =
        (outcomeOver wishes check nesting checker sql [name]).issues := by
  constructor
  · rw [scripts_outcomeOver]
    refine filter_flatMap_of_key distinct member (fun (entry : Value × String) name => entry.1.same (.text name)) ?_
    intro other entry listed
    rw [List.mem_singleton.mp listed]
    rfl
  · rw [issues_outcomeOver]
    refine filter_flatMap_of_key distinct member (fun (issue : Issue) name => issue.target.same (.text name)) ?_
    intro other issue listed
    obtain ⟨target, single, found⟩ := List.mem_flatMap.mp listed
    rw [target_of_mem_findings checker found, List.mem_singleton.mp single]
    rfl

theorem status_eq_success_iff (o : Outcome) : o.status = "success" ↔ o.table.columns ≠ [] ∧ o.issues = [] := by
  unfold Outcome.status Outcome.isComplete
  split <;> simp_all

theorem status_eq_or (o : Outcome) : o.status = "success" ∨ o.status = "partial_success" := by
  unfold Outcome.status
  split
  · exact .inl rfl
  · exact .inr rfl

theorem merges_outcomeOver (given : names ≠ []) : (outcomeOver wishes check nesting checker sql names).summary.Merges
    (names.map fun name => (outcomeOver wishes check nesting checker sql [name]).summary) where
  status := by
    have all : (outcomeOver wishes check nesting checker sql names).status = "success" ↔
        ∀ part ∈ names.map fun name => (outcomeOver wishes check nesting checker sql [name]).summary,
          part.status = "success" := by
      rw [List.forall_mem_map, status_eq_success_iff, issues_outcomeOver, List.flatMap_eq_nil_iff]
      -- All runs have one table, so the run over any name tells whether it has columns.
      obtain ⟨name, listed⟩ := List.exists_mem_of_ne_nil names given
      constructor
      · rintro ⟨columns, none⟩ name listed
        exact (status_eq_success_iff _).mpr ⟨columns, none name listed⟩
      · intro each
        exact ⟨((status_eq_success_iff _).mp (each name listed)).1,
          fun name listed => ((status_eq_success_iff _).mp (each name listed)).2⟩
    split
    · rename_i each
      exact all.mpr each
    · rename_i some
      have other := mt all.mp some
      exact (status_eq_or _).resolve_left other
  table := List.forall_mem_map.mpr fun name _ => rfl
  results := by
    rw [List.flatMap_map, Outcome.summary, scripts_outcomeOver, List.map_flatMap]
    rfl
  issues := by
    rw [List.flatMap_map, Outcome.summary, issues_outcomeOver, List.map_flatMap]
    rfl
  dialectCount := by
    rw [List.length_map]
    change ((names.map Value.text).map _).length = _
    rw [List.length_map, List.length_map]
  columnCount := List.forall_mem_map.mpr fun name _ => rfl
  issueCount := by
    rw [List.map_map]
    change ((outcomeOver wishes check nesting checker sql names).issues.map Issue.toValue).length = _
    rw [List.length_map, issues_outcomeOver, List.length_flatMap]
    refine congrArg List.sum (List.map_congr_left fun name _ => ?_)
    exact (List.length_map _).symm

end

/-- A run over names fails exactly as the runs over each of them do. Otherwise its report merges theirs, the checker
    is consulted as in theirs one after the other, and what it has for a name is what the run over this name has.
    There is a first name, since a run over none is one over the configured targets. -/
theorem run_merges_single_runs (config : Config) (wishes : Wishes) (checker : Checker) (sql : String)
    (first : String) (rest : List String) (nonblank : ∀ name ∈ first :: rest, isTarget (.text name) = true)
    (distinct : (first :: rest).Nodup) :
    (∀ failure, runOver config wishes checker sql (first :: rest) = .error failure ↔
      ∀ name ∈ first :: rest, runOver config wishes checker sql [name] = .error failure) ∧
    ∀ whole report, runOver config wishes checker sql (first :: rest) = .ok (whole, report) →
      ∃ singles summary parts,
        List.Forall₂ (fun name single => runOver config wishes checker sql [name] = .ok single) (first :: rest) singles ∧
        report.Shows summary ∧ List.Forall₂ (fun single part => single.2.Shows part) singles parts ∧
        summary.Merges parts ∧ whole.consulted = singles.flatMap (fun single => single.1.consulted) ∧
        List.Forall₂ (fun name single =>
          whole.scripts.filter (fun entry => entry.1.same (.text name)) = single.1.scripts ∧
          whole.issues.filter (fun issue => issue.target.same (.text name)) = single.1.issues) (first :: rest) singles := by
  have given := List.cons_ne_nil first rest
  have alone (name : String) (member : name ∈ first :: rest) : ∀ n ∈ [name], isTarget (.text n) = true :=
    List.forall_mem_singleton.mpr (nonblank name member)
  constructor
  · intro failure
    rw [runOver_eq_error_iff given nonblank distinct]
    constructor
    · intro failed name member
      exact (runOver_eq_error_iff (List.cons_ne_nil _ _) (alone name member) (List.nodup_singleton _)).mpr failed
    · intro failed
      exact (runOver_eq_error_iff (List.cons_ne_nil _ _) (alone first List.mem_cons_self) (List.nodup_singleton _)).mp
        (failed first List.mem_cons_self)
  · intro whole report ran
    obtain ⟨check, checked, same⟩ := (runOver_eq_ok_iff given nonblank distinct).mp ran
    obtain ⟨rfl, rfl⟩ := Prod.mk.inj same
    refine ⟨(first :: rest).map fun name => ranOver wishes check config.machine.nesting checker sql [name], _, _, ?_,
      shows_summary _ _, ?_, merges_outcomeOver wishes check config.machine.nesting checker sql _ given, ?_, ?_⟩
    · refine List.forall₂_map_right_iff.mpr (List.forall₂_same.mpr fun name member => ?_)
      exact (runOver_eq_ok_iff (List.cons_ne_nil _ _) (alone name member) (List.nodup_singleton _)).mpr
        ⟨check, checked, rfl⟩
    · exact List.forall₂_map_left_iff.mpr (List.forall₂_map_right_iff.mpr
        (List.forall₂_same.mpr fun name _ => shows_summary _ _))
    · rw [consulted_outcomeOver, List.flatMap_map]
      rfl
    · exact List.forall₂_map_right_iff.mpr (List.forall₂_same.mpr fun name member =>
        filter_outcomeOver wishes check config.machine.nesting checker sql distinct member)

/-- Two runs, one of which has issues. -/
theorem run_over_two_merges :
    let run := runOver { sections := [], machine := .plain "/srv/app" String.utf8ByteSize } {}
      (fun _ dialect => if dialect = some "postgres" then .failed "" else .accepted)
      "CREATE TABLE totals (day DATE, amount INT)"
    ∃ whole report singles summary parts, run ["PostgreSQL", "Trino"] = .ok (whole, report) ∧
      List.Forall₂ (fun name single => run [name] = .ok single) ["PostgreSQL", "Trino"] singles ∧
      report.Shows summary ∧ List.Forall₂ (fun single part => single.2.Shows part) singles parts ∧
      summary.Merges parts := by
  intro run
  have ran : ∃ whole report, run ["PostgreSQL", "Trino"] = .ok (whole, report) := ⟨_, _, rfl⟩
  obtain ⟨whole, report, ran⟩ := ran
  obtain ⟨singles, summary, parts, each, shows, partsShow, merges, -, -⟩ :=
    (run_merges_single_runs _ _ _ _ "PostgreSQL" ["Trino"] (by decide) (by decide)).2 whole report ran
  exact ⟨whole, report, singles, summary, parts, ran, each, shows, partsShow, merges⟩

end CrudScripts.Run
