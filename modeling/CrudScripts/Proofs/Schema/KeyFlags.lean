import CrudScripts.Proofs.Schema.Accounting

/-!
The key flags of a table. Reading a statement flags exactly the columns whose names, apart from case, are
among its key names (`parse_isKey_iff`), so columns of one name have one flag (`parse_isKey_eq_of_name`). The
columns that address a row are the flagged ones, or the first column of a table without any; there are none
only where there are no columns (`effectiveKey_eq_nil_iff`).
-/
namespace CrudScripts.Schema
open CrudScripts.Text

/-- A column is flagged when its name is a key name apart from case. -/
theorem flagKeys_eq (names : List String) (columns : List Column) (plain : ∀ column ∈ columns, column.isKey = false) :
    flagKeys names columns =
      columns.map fun column => { column with isKey := decide (∃ key ∈ names, lower key = lower column.name) } := by
  refine List.map_congr_left fun column member => ?_
  have listed : (names.map lower).contains (lower column.name) =
      decide (∃ key ∈ names, lower key = lower column.name) := by
    simp
  rw [← listed]
  cases flagged : (names.map lower).contains (lower column.name) with
  | true => rfl
  | false => exact congrArg (fun flag => { column with isKey := flag }) (plain column member)

theorem length_flagKeys (names : List String) (columns : List Column) :
    (flagKeys names columns).length = columns.length := by simp [flagKeys]

theorem name_flagKeys (names : List String) (columns : List Column) :
    (flagKeys names columns).map Column.name = columns.map Column.name := by
  rw [flagKeys, List.map_map]
  refine List.map_congr_left fun column _ => ?_
  rw [Function.comp_apply]
  split <;> rfl

/-! ### Columns of a reading -/

/-- The columns of a clause come from its column definition, with no flag yet. -/
theorem exists_columnOf_of_mem_yieldOf {clause : List Char} {column : Column}
    (member : column ∈ (yieldOf clause).columns) : ∃ name base tail, column = columnOf name base tail := by
  rcases yieldOf_cases clause with ⟨-, -, given⟩ | ⟨-, -, given⟩ | ⟨-, name, base, tail, -, given⟩
  · rw [given] at member
    cases member
  · rw [given] at member
    cases member
  · rw [given] at member
    exact ⟨name, base, tail, List.mem_singleton.mp member⟩

/-- The columns of a reading: those of its clauses, in order, each flagged when its name is a key name apart
    from case. -/
theorem parse_columns_eq (sql : String) :
    (parse sql).table.columns = ((clausesOf sql).flatMap fun clause => (yieldOf clause).columns).map fun column =>
      { column with isKey := decide (∃ key ∈ (parse sql).table.keyNames, lower key = lower column.name) } := by
  rw [parse_columns]
  refine flagKeys_eq _ _ fun column member => ?_
  obtain ⟨clause, -, given⟩ := List.mem_flatMap.mp member
  obtain ⟨name, base, tail, rfl⟩ := exists_columnOf_of_mem_yieldOf given
  rfl

/-- A column of a reading is flagged exactly when its name is among the key names apart from case. -/
theorem parse_isKey_iff {sql : String} {column : Column} (member : column ∈ (parse sql).table.columns) :
    column.isKey = true ↔ ∃ key ∈ (parse sql).table.keyNames, lower key = lower column.name := by
  rw [parse_columns_eq] at member
  obtain ⟨original, -, rfl⟩ := List.mem_map.mp member
  exact decide_eq_true_iff

/-- Columns of one name apart from case are flagged alike. -/
theorem parse_isKey_eq_of_name {sql : String} {a b : Column} (first : a ∈ (parse sql).table.columns)
    (second : b ∈ (parse sql).table.columns) (same : lower a.name = lower b.name) : a.isKey = b.isKey := by
  rw [Bool.eq_iff_iff, parse_isKey_iff first, parse_isKey_iff second, same]

/-- A column of a reading is what its clause defines, but for the flag. -/
theorem exists_columnOf_of_mem_parse {sql : String} {column : Column} (member : column ∈ (parse sql).table.columns) :
    ∃ name base tail, column = { columnOf name base tail with isKey := column.isKey } := by
  rw [parse_columns_eq] at member
  obtain ⟨original, given, rfl⟩ := List.mem_map.mp member
  obtain ⟨clause, -, given⟩ := List.mem_flatMap.mp given
  obtain ⟨name, base, tail, rfl⟩ := exists_columnOf_of_mem_yieldOf given
  exact ⟨name, base, tail, rfl⟩

/-- The name of a column of a reading is a word. -/
theorem exists_word_of_mem_parse {sql : String} {column : Column} (member : column ∈ (parse sql).table.columns) :
    ∃ name : Word, column.name = String.ofList name.text := by
  obtain ⟨name, base, tail, same⟩ := exists_columnOf_of_mem_parse member
  exact ⟨name, congrArg Column.name same⟩

theorem parse_name_ne_empty {sql : String} {column : Column} (member : column ∈ (parse sql).table.columns) :
    column.name ≠ "" := by
  obtain ⟨name, same⟩ := exists_word_of_mem_parse member
  intro empty
  have letters : name.text = [] := by simpa [same] using congrArg String.toList empty
  exact name.nonempty letters

/-! ### The columns that address a row -/

namespace Table

variable {t : Table}

theorem keyColumns_eq_nil_iff : t.keyColumns = [] ↔ ∀ c ∈ t.columns, c.isKey = false := by
  simp [keyColumns, List.filter_eq_nil_iff]

theorem effectiveKey_of_declared (declared : ∃ c ∈ t.columns, c.isKey = true) : t.effectiveKey = t.keyColumns := by
  have some : t.keyColumns ≠ [] := by
    intro none
    obtain ⟨c, member, flagged⟩ := declared
    rw [keyColumns_eq_nil_iff.mp none c member] at flagged
    cases flagged
  unfold effectiveKey
  split
  · rename_i none _
    exact absurd none some
  · rfl

theorem effectiveKey_of_inferred {first : Column} {rest : List Column} (columns : t.columns = first :: rest)
    (inferred : ∀ c ∈ t.columns, c.isKey = false) : t.effectiveKey = [first.asKey] := by
  unfold effectiveKey
  rw [keyColumns_eq_nil_iff.mpr inferred, columns]

/-- A row can be addressed in every table with columns. -/
theorem effectiveKey_eq_nil_iff : t.effectiveKey = [] ↔ t.columns = [] := by
  by_cases declared : ∃ c ∈ t.columns, c.isKey = true
  · rw [effectiveKey_of_declared declared, keyColumns_eq_nil_iff]
    obtain ⟨c, member, flagged⟩ := declared
    constructor
    · intro none
      rw [none c member] at flagged
      cases flagged
    · intro empty
      rw [empty] at member
      cases member
  · have inferred : ∀ c ∈ t.columns, c.isKey = false := by simpa using declared
    cases columns : t.columns with
    | nil => simp [effectiveKey, keyColumns, columns]
    | cons first rest => simp [effectiveKey_of_inferred columns inferred]

/-- A row is addressed by columns of the table, which may be flagged for it. -/
theorem exists_asKey_of_mem_effectiveKey {key : Column} (member : key ∈ t.effectiveKey) :
    ∃ c ∈ t.columns, c.asKey = key.asKey := by
  unfold effectiveKey at member
  split at member
  · rename_i first rest _ columns
    rw [List.mem_singleton.mp member, columns]
    exact ⟨first, List.mem_cons_self, rfl⟩
  · exact ⟨key, List.mem_of_mem_filter member, rfl⟩

theorem exists_name_of_mem_effectiveKey {key : Column} (member : key ∈ t.effectiveKey) :
    ∃ c ∈ t.columns, c.name = key.name := by
  obtain ⟨c, inside, same⟩ := exists_asKey_of_mem_effectiveKey member
  have name : c.asKey.name = key.asKey.name := congrArg Column.name same
  exact ⟨c, inside, name⟩

theorem nonKeyColumns_of_inferred (inferred : ∀ c ∈ t.columns, c.isKey = false) : t.nonKeyColumns = t.columns := by
  unfold nonKeyColumns
  rw [List.filter_eq_self]
  intro c member
  rw [inferred c member]
  rfl

/-- Something can be assigned in every table but those whose columns are all keys. -/
theorem nonKeyColumns_eq_nil_iff : t.nonKeyColumns = [] ↔ ∀ c ∈ t.columns, c.isKey = true := by
  simp [nonKeyColumns, List.filter_eq_nil_iff]

end Table

end CrudScripts.Schema
