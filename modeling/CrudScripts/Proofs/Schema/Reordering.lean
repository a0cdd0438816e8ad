import CrudScripts.Proofs.Schema.Frame
import CrudScripts.Proofs.Schema.KeyFlags

/-!
Statements with their clauses in another order. What a clause declares does not depend on the clauses around it, but
for the flag of its column, and this depends only on which key names there are. So a table with its clauses reordered
has their columns and key names in the new order, and every column has the flag it had (`table_of_reordered`).
-/
namespace CrudScripts.Schema
open CrudScripts.Text

/-- The statement with clauses joined by commas, whatever they are. -/
def Frame.holding (frame : Frame) (clauses : List (List Char)) : String :=
  String.ofList (frame.around (List.intercalate [','] clauses))

/-- The key names that a clause declares. -/
def keyNamesIn (clause : List Char) : List String := (Clause.read (trim clause)).keyNames

/-- The column that a clause declares, flagged when its name is among key names apart from case. -/
def columnIn (keys : List String) (clause : List Char) : Option Column :=
  (Clause.read (trim clause)).column?.map fun column =>
    { column with isKey := decide (∃ key ∈ keys, lower key = lower column.name) }

/-! ### Clauses one by one -/

theorem isKey_of_column?_read {clause : List Char} {column : Column}
    (declared : (Clause.read clause).column? = some column) : column.isKey = false := by
  have given : column ∈ (yieldOf clause).columns := by simp [yieldOf, declared]
  obtain ⟨name, base, tail, rfl⟩ := exists_columnOf_of_mem_yieldOf given
  rfl

/-- Where a blank clause gives nothing it does not matter whether it is read. -/
theorem flatMap_nonblank {α : Type} {f : List Char → List α} (nothing : f [] = []) (clauses : List (List Char)) :
    (clauses.filter fun clause => !clause.isEmpty).flatMap f = clauses.flatMap f := by
  induction clauses with
  | nil => rfl
  | cons clause clauses ih =>
    cases clause with
    | nil => simpa [nothing] using ih
    | cons c clause => simpa using ih

section
variable {clauses : List (List Char)} (whole : ∀ clause ∈ clauses, Whole clause)
include whole

theorem readClauses_intercalate : readClauses (List.intercalate [','] clauses) =
    ((clauses.map trim).filter fun clause => !clause.isEmpty).map Clause.read := by
  rw [readClauses, nonblank_splitTopLevel whole]

theorem flatMap_keyNames_readClauses :
    (readClauses (List.intercalate [','] clauses)).flatMap Clause.keyNames = clauses.flatMap keyNamesIn := by
  rw [readClauses_intercalate whole, List.flatMap_map, flatMap_nonblank (by rfl), List.flatMap_map]
  rfl

theorem filterMap_column?_readClauses :
    (readClauses (List.intercalate [','] clauses)).filterMap Clause.column? =
      clauses.filterMap fun clause => (Clause.read (trim clause)).column? := by
  rw [readClauses_intercalate whole, List.filterMap_eq_flatMap_toList, List.flatMap_map, flatMap_nonblank (by rfl),
    List.flatMap_map, List.filterMap_eq_flatMap_toList]

/-- A statement declares what its clauses declare, in their order. -/
theorem table_holding (frame : Frame) : (parse (frame.holding clauses)).table =
    { name := String.ofList frame.name
      columns := clauses.filterMap (columnIn (clauses.flatMap keyNamesIn))
      keyNames := clauses.flatMap keyNamesIn } := by
  have plain : ∀ column ∈ clauses.filterMap fun clause => (Clause.read (trim clause)).column?,
      column.isKey = false := by
    intro column member
    obtain ⟨clause, -, declared⟩ := List.mem_filterMap.mp member
    exact isKey_of_column?_read declared
  rw [Frame.holding, frame.parse_around]
  simp only [assemble, flatMap_keyNames_readClauses whole, filterMap_column?_readClauses whole,
    flagKeys_eq _ _ plain, List.map_filterMap]
  rfl

end

/-! ### Another order -/

theorem columnIn_congr {keys others : List String} (same : ∀ key, key ∈ keys ↔ key ∈ others) :
    columnIn keys = columnIn others := by
  funext clause
  simp only [columnIn, same]

/-- Whole clauses in any order make a table of one name, with their columns and their key names in that order. Which
    columns are flagged does not depend on the order, so a clause that lists keys may stand anywhere. -/
theorem table_of_reordered (frame : Frame) {clauses reordered : List (List Char)}
    (whole : ∀ clause ∈ clauses, Whole clause) (permuted : reordered.Perm clauses) :
    (parse (frame.holding clauses)).table =
        { name := String.ofList frame.name
          columns := clauses.filterMap (columnIn (clauses.flatMap keyNamesIn))
          keyNames := clauses.flatMap keyNamesIn } ∧
      (parse (frame.holding reordered)).table =
        { name := String.ofList frame.name
          columns := reordered.filterMap (columnIn (clauses.flatMap keyNamesIn))
          keyNames := reordered.flatMap keyNamesIn } := by
  refine ⟨table_holding whole frame, ?_⟩
  have whole' : ∀ clause ∈ reordered, Whole clause := fun clause member => whole clause (permuted.mem_iff.mp member)
  rw [table_holding whole' frame]
  -- Flags ask only which key names there are, and a permutation does not change that.
  have keys (key : String) : key ∈ reordered.flatMap keyNamesIn ↔ key ∈ clauses.flatMap keyNamesIn :=
    (permuted.flatMap_right keyNamesIn).mem_iff
  rw [columnIn_congr keys]

/-- A key clause in front of the columns that it flags, and behind them. -/
theorem table_of_key_clause_moved :
    let frame : Frame :=
      { create := ⟨⟨"CREATE".toList, by decide, by decide, by decide⟩, ⟨⟨[' '], List.all_eq_true.mp rfl⟩, by decide⟩,
          ⟨"TABLE".toList, by decide, by decide, by decide⟩⟩
        gap := ⟨⟨[' '], List.all_eq_true.mp rfl⟩, by decide⟩
        name := "t".toList
        named := by decide
        nameChars := List.all_eq_true.mp rfl
        blanks := ⟨[' '], List.all_eq_true.mp rfl⟩
        trailing := []
        unclosed := by decide }
    let clauses := ["PRIMARY KEY (B,c)".toList, "a INT".toList, "b INT".toList]
    let reordered := ["a INT".toList, "b INT".toList, "PRIMARY KEY (B,c)".toList]
    frame.holding clauses = "CREATE TABLE t (PRIMARY KEY (B,c),a INT,b INT)" ∧
      (∀ clause ∈ clauses, Whole clause) ∧ reordered.Perm clauses ∧
      (parse (frame.holding clauses)).table = ⟨"t", [⟨"a", "INT", false, false, true⟩, ⟨"b", "INT", true, false, true⟩],
        ["B", "c"]⟩ ∧
      (parse (frame.holding reordered)).table = (parse (frame.holding clauses)).table := by
  intro frame clauses reordered
  have whole : ∀ clause ∈ clauses, Whole clause := by
    have key : Whole "PRIMARY KEY (B,c)".toList :=
      Whole.append (a := "PRIMARY KEY ".toList) (whole_of_plain (by simp))
        (@whole_group "B,c".toList (by simp))
    intro clause member
    simp only [clauses, List.mem_cons, List.not_mem_nil, or_false] at member
    rcases member with rfl | rfl | rfl
    · exact key
    · exact whole_of_plain (by simp)
    · exact whole_of_plain (by simp)
  have permuted : reordered.Perm clauses := by decide
  obtain ⟨first, second⟩ := table_of_reordered frame whole permuted
  refine ⟨by decide, whole, permuted, ?_, ?_⟩
  · rw [first]
    decide +kernel
  · rw [first, second]
    decide +kernel

end CrudScripts.Schema
