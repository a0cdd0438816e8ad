import CrudScripts.Proofs.Schema.KeyFlags
import CrudScripts.Script.Parameterized

/-!
How the key of a table splits its columns between the statements of a script. What an `INSERT` lists and an
`UPDATE` assigns, and what `UPDATE` and `SELECT` compare, take the columns of a table apart when it has a
flagged column; otherwise all columns are assigned, and the first one is compared too
(`key_flags_split_columns`).
-/
namespace CrudScripts.Script
open CrudScripts.Schema CrudScripts.Text

/-- A list taken apart into two that keep its order; each of its elements is in one of them. -/
inductive Interleaves {α : Type} : List α → List α → List α → Prop where
  | nil : Interleaves [] [] []
  | left {x : α} {a b whole : List α} (rest : Interleaves a b whole) : Interleaves (x :: a) b (x :: whole)
  | right {x : α} {a b whole : List α} (rest : Interleaves a b whole) : Interleaves a (x :: b) (x :: whole)

theorem interleaves_filter {α : Type} (p : α → Bool) (whole : List α) :
    Interleaves (whole.filter fun x => !p x) (whole.filter p) whole := by
  induction whole with
  | nil => exact .nil
  | cons x whole ih =>
    cases holds : p x with
    | true =>
      rw [List.filter_cons_of_neg (by simp [holds]), List.filter_cons_of_pos holds]
      exact ih.right
    | false =>
      rw [List.filter_cons_of_pos (by simp [holds]), List.filter_cons_of_neg (by simp [holds])]
      exact ih.left

/-! ### The columns of a statement -/

/-- The columns that a statement sets. -/
def Statement.assigned : Statement → List String
  | .insert _ values => values.map (·.column)
  | .update _ assignments _ => assignments.map (·.column)
  | .select _ _ | .delete _ _ => []

/-- The columns that a statement compares with values. -/
def Statement.compared : Statement → List String
  | .insert _ _ => []
  | .update _ _ conditions | .select _ conditions | .delete _ conditions => conditions.map (·.column)

theorem map_column_bindFrom (write : String → Nat → String) (start : Nat) (columns : List Column) :
    (bindFrom write start columns).map (·.column) = columns.map Column.name := by
  induction columns generalizing start with
  | nil => rfl
  | cons c columns ih => rw [bindFrom, List.map_cons, ih, List.map_cons]

/-- What is bound to a column is written for its name and some place. -/
theorem exists_value_of_mem_bindFrom {write : String → Nat → String} {start : Nat} {columns : List Column} {b : Binding}
    (member : b ∈ bindFrom write start columns) : ∃ index, b.value = write b.column index := by
  induction columns generalizing start with
  | nil => cases member
  | cons c columns ih =>
    rcases List.mem_cons.mp member with rfl | later
    · exact ⟨start, rfl⟩
    · exact ih later

section
variable (d : Dialect) (t : Table)

theorem assigned_insertStatement : (insertStatement d t).assigned = t.nonKeyColumns.map Column.name :=
  map_column_bindFrom _ _ _

theorem assigned_updateStatement : (updateStatement d t).assigned = t.nonKeyColumns.map Column.name :=
  map_column_bindFrom _ _ _

theorem compared_updateStatement : (updateStatement d t).compared = t.effectiveKey.map Column.name :=
  map_column_bindFrom _ _ _

theorem compared_selectStatement : (selectStatement d t).compared = t.effectiveKey.map Column.name :=
  map_column_bindFrom _ _ _

end

/-- The names of a table's columns taken apart by their flags: every column is in one list, in its order, and
    no name is in both, not even in another case. -/
def SplitByKey (t : Table) (assigned compared : List String) : Prop :=
  ∃ free keyed, Interleaves free keyed t.columns ∧ assigned = free.map Column.name ∧
    compared = keyed.map Column.name ∧ (∀ c ∈ free, c.isKey = false) ∧ (∀ c ∈ keyed, c.isKey = true) ∧
    ∀ a ∈ free, ∀ b ∈ keyed, lower a.name ≠ lower b.name

theorem splitByKey_parse (sql : String) :
    SplitByKey (parse sql).table ((parse sql).table.nonKeyColumns.map Column.name)
      ((parse sql).table.keyColumns.map Column.name) := by
  refine ⟨(parse sql).table.nonKeyColumns, (parse sql).table.keyColumns, interleaves_filter _ _, rfl, rfl, ?_, ?_, ?_⟩
  · intro c member
    simpa using (List.mem_filter.mp member).2
  · intro c member
    exact (List.mem_filter.mp member).2
  · intro a first b second same
    obtain ⟨inside, free⟩ := List.mem_filter.mp first
    obtain ⟨inside', keyed⟩ := List.mem_filter.mp second
    -- Two columns of one name have one flag, so they are on one side.
    have alike := parse_isKey_eq_of_name inside inside' same
    rw [alike, keyed] at free
    cases free

/-- A column is flagged when its name is a key name apart from case. With a flagged column, the statements of
    every dialect assign and compare the two sides of a split of the columns. Without one, they assign all
    columns and compare the first, which the table itself does not flag. -/
theorem key_flags_split_columns (sql : String) (d : Dialect) :
    let t := (parse sql).table
    (∀ c ∈ t.columns, c.isKey = true ↔ ∃ key ∈ t.keyNames, lower key = lower c.name) ∧
      ((∃ c ∈ t.columns, c.isKey = true) →
        SplitByKey t (insertStatement d t).assigned (updateStatement d t).compared ∧
        SplitByKey t (updateStatement d t).assigned (updateStatement d t).compared ∧
        SplitByKey t (updateStatement d t).assigned (selectStatement d t).compared) ∧
      (∀ first rest, t.columns = first :: rest → (∀ c ∈ t.columns, c.isKey = false) →
        (insertStatement d t).assigned = t.columns.map Column.name ∧
        (updateStatement d t).assigned = t.columns.map Column.name ∧
        (updateStatement d t).compared = [first.name] ∧ (selectStatement d t).compared = [first.name] ∧
        t.keyColumns = [] ∧ t.effectiveKey = [first.asKey]) := by
  intro t
  rw [assigned_insertStatement, assigned_updateStatement, compared_updateStatement, compared_selectStatement]
  refine ⟨fun c member => parse_isKey_iff member, ?_, ?_⟩
  · intro declared
    rw [Table.effectiveKey_of_declared declared]
    exact ⟨splitByKey_parse sql, splitByKey_parse sql, splitByKey_parse sql⟩
  · intro first rest columns inferred
    rw [Table.effectiveKey_of_inferred columns inferred, Table.nonKeyColumns_of_inferred inferred]
    exact ⟨rfl, rfl, rfl, rfl, Table.keyColumns_eq_nil_iff.mpr inferred, rfl⟩

end CrudScripts.Script
