import CrudScripts.Proofs.Script.KeySplit

/-!
The lists inside the three statements of a table, and when they are empty. A table with columns always has
something to compare; it has something to insert and to assign exactly when one of its columns is no key
(`statements_complete_iff`). So the statements of a table whose columns are all keys are degenerate, just as
those of a table without columns.
-/
namespace CrudScripts.Script
open CrudScripts.Schema CrudScripts.Text

/-- What stands between the separators of the three statements of a table. -/
structure StatementLists where
  columns : List String
  values : List String
  assignments : List String
  conditions : List String
  selection : List String

namespace StatementLists

/-- The texts of `INSERT`, `UPDATE` and `SELECT` on a table, put together from their lists. -/
def texts (lists : StatementLists) (table : String) : List String :=
  ["INSERT INTO " ++ table ++ " (" ++ join ", " lists.columns ++ ")\nVALUES (" ++ join ", " lists.values ++ ");",
   "UPDATE " ++ table ++ " SET " ++ join ", " lists.assignments ++ " WHERE " ++ join " AND " lists.conditions ++ ";",
   "SELECT * FROM " ++ table ++ " WHERE " ++ join " AND " lists.selection ++ ";"]

/-- No statement lacks what it needs: columns with as many values, assignments, and conditions. -/
structure Complete (lists : StatementLists) : Prop where
  columns : lists.columns ≠ []
  values : lists.values.length = lists.columns.length
  assignments : lists.assignments ≠ []
  conditions : lists.conditions ≠ []
  selection : lists.selection ≠ []

end StatementLists

def statementLists (d : Dialect) (t : Table) : StatementLists where
  columns := (bindPlaceholders d 1 t.nonKeyColumns).map (·.column)
  values := (bindPlaceholders d 1 t.nonKeyColumns).map (·.value)
  assignments := (bindPlaceholders d 1 t.nonKeyColumns).map Binding.equation
  conditions := (bindPlaceholders d (t.nonKeyColumns.length + 1) t.effectiveKey).map Binding.equation
  selection := (bindPlaceholders d 1 t.effectiveKey).map Binding.equation

theorem statementTexts_eq (d : Dialect) (t : Table) : statementTexts d t = (statementLists d t).texts t.name := by
  have gap : ")\nVALUES (" = ")" ++ "\n" ++ "VALUES (" := rfl
  rw [StatementLists.texts, gap]
  simp only [← String.append_assoc]
  rfl

theorem length_bindFrom (write : String → Nat → String) (start : Nat) (columns : List Column) :
    (bindFrom write start columns).length = columns.length := by
  induction columns generalizing start with
  | nil => rfl
  | cons c columns ih => rw [bindFrom, List.length_cons, ih, List.length_cons]

theorem map_bindPlaceholders_ne_nil {α : Type} (f : Binding → α) (d : Dialect) (start : Nat) (columns : List Column) :
    (bindPlaceholders d start columns).map f ≠ [] ↔ columns ≠ [] := by
  rw [← List.length_pos_iff, ← List.length_pos_iff, List.length_map, bindPlaceholders, length_bindFrom]

/-! ### No piece is empty -/

theorem render_ne_empty (style : Dialect.Placeholder) (name : String) (index : Int) : style.render name index ≠ "" := by
  intro empty
  have letters := congrArg String.toList empty
  cases style with
  | atName => simp [Dialect.Placeholder.render] at letters
  | dollarIndex => simp [Dialect.Placeholder.render] at letters
  | questionMark => simp [Dialect.Placeholder.render] at letters
  | colonName => simp [Dialect.Placeholder.render] at letters

theorem value_bindPlaceholders_ne_empty (d : Dialect) (start : Nat) (columns : List Column) :
    ∀ b ∈ bindPlaceholders d start columns, b.value ≠ "" := by
  intro b member
  obtain ⟨index, value⟩ := exists_value_of_mem_bindFrom member
  rw [value]
  exact render_ne_empty d.placeholder b.column index

theorem equation_ne_empty (b : Binding) : b.equation ≠ "" := by
  intro empty
  have letters := congrArg String.toList empty
  simp [Binding.equation] at letters

/-! ### The lists of a table -/

section
variable (d : Dialect) (t : Table)

theorem columns_ne_nil_iff : (statementLists d t).columns ≠ [] ↔ ∃ c ∈ t.columns, c.isKey = false := by
  refine (map_bindPlaceholders_ne_nil _ _ _ _).trans ?_
  rw [ne_eq, Table.nonKeyColumns_eq_nil_iff]
  simp

theorem assignments_ne_nil_iff : (statementLists d t).assignments ≠ [] ↔ (statementLists d t).columns ≠ [] :=
  (map_bindPlaceholders_ne_nil _ _ _ _).trans (map_bindPlaceholders_ne_nil _ _ _ _).symm

theorem conditions_ne_nil_iff : (statementLists d t).conditions ≠ [] ↔ t.columns ≠ [] :=
  (map_bindPlaceholders_ne_nil _ _ _ _).trans (not_congr Table.effectiveKey_eq_nil_iff)

theorem selection_ne_nil_iff : (statementLists d t).selection ≠ [] ↔ t.columns ≠ [] :=
  (map_bindPlaceholders_ne_nil _ _ _ _).trans (not_congr Table.effectiveKey_eq_nil_iff)

theorem length_values : (statementLists d t).values.length = (statementLists d t).columns.length :=
  (List.length_map _).trans (List.length_map _).symm

theorem complete_iff : (statementLists d t).Complete ↔ ∃ c ∈ t.columns, c.isKey = false := by
  constructor
  · intro complete
    exact (columns_ne_nil_iff d t).mp complete.columns
  · intro free
    have listed := (columns_ne_nil_iff d t).mpr free
    obtain ⟨c, member, -⟩ := free
    have some : t.columns ≠ [] := List.ne_nil_of_mem member
    exact ⟨listed, length_values d t, (assignments_ne_nil_iff d t).mpr listed, (conditions_ne_nil_iff d t).mpr some,
      (selection_ne_nil_iff d t).mpr some⟩

theorem piece_ne_empty (named : ∀ c ∈ t.columns, c.name ≠ "") {piece : String}
    (member : piece ∈ (statementLists d t).columns ++ (statementLists d t).values ++ (statementLists d t).assignments ++
      (statementLists d t).conditions ++ (statementLists d t).selection) : piece ≠ "" := by
  simp only [List.mem_append] at member
  rcases member with (((column | value) | assignment) | condition) | selected
  · rw [statementLists, bindPlaceholders, map_column_bindFrom] at column
    obtain ⟨c, inside, rfl⟩ := List.mem_map.mp column
    exact named c (List.mem_of_mem_filter inside)
  · obtain ⟨b, inside, rfl⟩ := List.mem_map.mp value
    exact value_bindPlaceholders_ne_empty d 1 _ b inside
  · obtain ⟨b, -, rfl⟩ := List.mem_map.mp assignment
    exact equation_ne_empty b
  · obtain ⟨b, -, rfl⟩ := List.mem_map.mp condition
    exact equation_ne_empty b
  · obtain ⟨b, -, rfl⟩ := List.mem_map.mp selected
    exact equation_ne_empty b

end

/-- The three statements are the texts of their lists, in which no piece is empty. An `INSERT` has as many values
    as columns, and there is something to compare exactly when the table has columns. Something is inserted and
    assigned exactly when the name of a column is no key name; only then are the statements complete. -/
theorem statements_complete_iff (sql : String) (d : Dialect) :
    let t := (parse sql).table
    let lists := statementLists d t
    let free := ∃ c ∈ t.columns, ∀ key ∈ t.keyNames, lower key ≠ lower c.name
    statementTexts d t = lists.texts t.name ∧
      (∀ piece ∈ lists.columns ++ lists.values ++ lists.assignments ++ lists.conditions ++ lists.selection,
        piece ≠ "") ∧
      lists.values.length = lists.columns.length ∧
      (lists.conditions ≠ [] ↔ t.columns ≠ []) ∧ (lists.selection ≠ [] ↔ t.columns ≠ []) ∧
      (lists.columns ≠ [] ↔ free) ∧ (lists.assignments ≠ [] ↔ free) ∧ (lists.Complete ↔ free) := by
  intro t lists free
  have unflagged : (∃ c ∈ t.columns, c.isKey = false) ↔ free := by
    refine exists_congr fun c => and_congr_right fun member => ?_
    rw [← Bool.not_eq_true, parse_isKey_iff member]
    push Not
    rfl
  have columns : lists.columns ≠ [] ↔ free := (columns_ne_nil_iff d t).trans unflagged
  refine ⟨statementTexts_eq d t, ?_, length_values d t, conditions_ne_nil_iff d t, selection_ne_nil_iff d t, columns,
    (assignments_ne_nil_iff d t).trans columns, (complete_iff d t).trans unflagged⟩
  intro piece member
  exact piece_ne_empty d t (fun c inside => parse_name_ne_empty inside) member

example : statementTexts (Dialect.named "SQLite") (parse "CREATE TABLE t (id INT PRIMARY KEY)").table =
    ["INSERT INTO t ()\nVALUES ();", "UPDATE t SET  WHERE id = :id;", "SELECT * FROM t WHERE id = :id;"] := by
  decide +kernel

end CrudScripts.Script
