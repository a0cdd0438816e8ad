import CrudScripts.Proofs.Run.Jobs
import CrudScripts.Proofs.Schema.Names
import CrudScripts.Proofs.Script.Addressing

/-!
The key of a report. It is there whenever the table has columns, and it is the one that the statements of all its
scripts compare (`rows_addressed_by_reported_key`).
-/
namespace CrudScripts.Run
open CrudScripts.Check CrudScripts.Data CrudScripts.Dialect CrudScripts.Schema CrudScripts.Script CrudScripts.Text

theorem keyIsInferred_iff (t : Table) :
    t.keyIsInferred = true ↔ t.columns ≠ [] ∧ ∀ c ∈ t.columns, c.isKey = false := by
  have none : t.effectiveKey.isEmpty = false ↔ t.columns ≠ [] := by
    rw [← not_iff_not, Bool.not_eq_false, List.isEmpty_iff, not_not, Table.effectiveKey_eq_nil_iff]
  simp [Table.keyIsInferred, Table.hasDeclaredKey, none]

/-- What a report says about a table: its name, its columns, the key that statements use, and whether this key is
    inferred. -/
def ReportsTable (r : Report) (name : String) (columns : List Column) (keys : List String) (inferred : Bool) : Prop :=
  ∃ table, r.field "table" = some (.dict table) ∧ table.lookup "name" = some (.text name) ∧
    table.lookup "columns" = some (.list (columns.map columnValue)) ∧
    table.lookup "effective_primary_keys" = some (.list (keys.map .text)) ∧
    table.lookup "primary_key_inferred" = some (.bool inferred)

theorem reportsTable_report (job : Job) (o : Outcome) : ReportsTable (o.report job) o.table.name o.table.columns
    (o.table.effectiveKey.map Column.name) o.table.keyIsInferred := by
  refine ⟨_, Outcome.field_table job o, rfl, rfl, ?_, rfl⟩
  rw [List.map_map]
  rfl

/-- How a report and its scripts go together: the key of the table is there if there are columns, and it is
    inferred when no column is flagged; what addresses rows in the script of a target is restricted by the columns
    of this key, in this order. -/
structure AddressedByKey (r : Report) (targets : List Value) (routines : Bool) (name : String) (columns : List Column)
    (keys : List String) (inferred : Bool) (scripts : List (Value × String)) : Prop where
  table : ReportsTable r name columns keys inferred
  keys_eq_nil_iff : keys = [] ↔ columns = []
  inferred_iff : inferred = true ↔ columns ≠ [] ∧ ∀ c ∈ columns, c.isKey = false
  results : r.field "results" = some (.list (scripts.map fun entry => .list [entry.1, .text entry.2]))
  targets : scripts.map Prod.fst = targets
  addresses : ∀ entry ∈ scripts, AddressesBy (Dialect.ofTarget entry.1) routines name
    ((columns.filter fun c => !c.isKey).map Column.name) keys entry.2
  restricted : ∀ entry ∈ scripts, OneLine (Dialect.ofTarget entry.1).name →
    ∀ statement ∈ rowStatements entry.2, ∃ write action, Restricted write keys action statement

/-- A job for names that are not blank runs, and whenever a job has run, the rows of its scripts are addressed by
    the key that it reports. The dialects with routines are five. -/
theorem rows_addressed_by_reported_key (checker : Checker) (sql : String) (job : Job) :
    (∀ config wishes names, names ≠ [] → (∀ name ∈ names, isTarget (.text name) = true) →
      Job.prepare config (.list (names.map .text)) wishes = .ok job → ∃ o, job.run checker sql = .ok o) ∧
    (∀ o, job.run checker sql = .ok o → ∃ name columns keys inferred scripts,
      AddressedByKey (o.report job) job.targets job.routines.truthy name columns keys inferred scripts) ∧
    ∀ target, (Dialect.ofTarget target).routines ≠ none ↔
      ∃ name ∈ ["SQL Server", "MySQL", "MariaDB", "PostgreSQL", "Oracle"], target = .text name := by
  refine ⟨?_, ?_, routines_ne_none_iff⟩
  · intro config wishes names given nonblank prepared
    have targets := isTarget_of_prepare_texts given nonblank prepared
    exact ⟨_, run_eq_ok_iff.mpr ⟨fun target member => takes_of_isTarget (targets target member) job, rfl⟩⟩
  · intro o ran
    obtain rfl := outcome_of_run ran
    have addresses (target : Value) := addressesBy_generate (oneLine_tableName_parse sql)
      (fun c inside => oneLine_of_mem_parse inside) target job.features
    exact ⟨_, _, _, _, _, {
      table := reportsTable_report job _
      keys_eq_nil_iff := by rw [List.map_eq_nil_iff, Table.effectiveKey_eq_nil_iff]
      inferred_iff := keyIsInferred_iff _
      results := Outcome.field_results job _
      targets := by
        rw [Job.outcome, List.map_map]
        exact List.map_id _
      addresses := List.forall_mem_map.mpr fun target _ => addresses target
      restricted := List.forall_mem_map.mpr fun target _ => (addresses target).restricted }⟩

/-- A table without a flagged column, with routines for one of two targets. -/
theorem rows_addressed_by_inferred_key :
    let config : Settings.Config := { sections := [], machine := .plain "/srv/app" String.utf8ByteSize }
    let job : Job := ⟨[.text "PostgreSQL", .text "Trino"], .bool true, .bool false, .bool false, 980⟩
    let checker : Checker := fun _ _ => .accepted
    ∃ o, Job.prepare config (.list (["PostgreSQL", "Trino", "PostgreSQL"].map .text))
        { routines := .bool true, check := .bool false } = .ok job ∧
      job.run checker "CREATE TABLE totals (day DATE, amount INT)" = .ok o ∧
      ∃ name columns keys inferred scripts,
        AddressedByKey (o.report job) job.targets true name columns keys inferred scripts := by
  intro config job checker
  have theory := rows_addressed_by_reported_key checker "CREATE TABLE totals (day DATE, amount INT)" job
  have prepared : Job.prepare config (.list (["PostgreSQL", "Trino", "PostgreSQL"].map .text))
      { routines := .bool true, check := .bool false } = .ok job := rfl
  obtain ⟨o, ran⟩ := theory.1 _ _ _ (by decide) (by decide) prepared
  exact ⟨o, prepared, ran, theory.2.1 o ran⟩

end CrudScripts.Run
