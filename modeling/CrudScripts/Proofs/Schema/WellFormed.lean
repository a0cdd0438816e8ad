import CrudScripts.Proofs.Schema.ColumnGrammar
import CrudScripts.Proofs.Schema.KeyNames
import CrudScripts.Proofs.Schema.Names
import Mathlib.Data.Finset.Card

/-!
What every reading has, whatever its text: a table with a name, columns with words for names and types, key names without
the marks and separators of a list, and a report for each column whose name an earlier column has (`WellFormed`,
`parse_wellFormed`). Scripts, headings and file names rely on it without looking.
-/
namespace CrudScripts.Schema
open CrudScripts.Text

/-- The text of a type: a word, perhaps with parameters in parentheses glued to it. -/
inductive IsType : List Char → Prop where
  | word (base : Word) : IsType base.text
  | parameters (base : Word) (inside : List Char) (nonempty : inside ≠ []) (closed : ')' ∉ inside) :
    IsType (base.text ++ ('(' :: inside ++ [')']))

/-- A name that a key may have: nothing of the list that it stood in is left around it or inside. -/
structure IsKeyName (key : String) : Prop where
  nonempty : key ≠ ""
  plain : ∀ c ∈ key.toList, c ≠ ',' ∧ c ≠ ')'
  front : Stops isKeyMark key.toList
  rear : Stops isKeyMark key.toList.reverse

def isDuplicateReport : Warning → Bool
  | .duplicateColumn _ _ => true
  | _ => false

/-- The different names of columns, apart from case. -/
def distinctNames (columns : List Column) : Finset String := (columns.map fun column => lower column.name).toFinset

/-- What scripts rely on in a reading. -/
structure WellFormed (parsed : Parsed) : Prop where
  tableName : parsed.table.name ≠ "" ∧ ∀ c ∈ parsed.table.name.toList, isBlank c = false ∧ c ≠ '('
  columnNames : ∀ column ∈ parsed.table.columns, column.name ≠ "" ∧ ∀ c ∈ column.name.toList, isWord c = true
  columnTypes : ∀ column ∈ parsed.table.columns, IsType column.type.toList
  keyNames : ∀ key ∈ parsed.table.keyNames, IsKeyName key
  duplicates : parsed.warnings.countP isDuplicateReport + (distinctNames parsed.table.columns).card =
    parsed.table.columns.length

/-! ### Types -/

theorem isType_columnOf (name base : Word) (tail : List Char) : IsType (columnOf name base tail).type.toList := by
  rw [columnOf, String.toList_ofList]
  rcases (parametersAt_takeParameters tail).1 with ⟨inside, after, -, nonempty, closed, written⟩ | ⟨-, nothing⟩
  · rw [written]
    exact .parameters base inside nonempty closed
  · rw [nothing, List.append_nil]
    exact .word base

theorem isType_of_mem_parse {sql : String} {column : Column} (member : column ∈ (parse sql).table.columns) :
    IsType column.type.toList := by
  obtain ⟨name, base, tail, same⟩ := exists_columnOf_of_mem_parse member
  have type : column.type = (columnOf name base tail).type := by rw [same]
  rw [type]
  exact isType_columnOf name base tail

/-! ### Key names -/

theorem isKeyName_of_word (name : Word) : IsKeyName (String.ofList name.text) := by
  have plain : ∀ c ∈ name.text, c ≠ ',' ∧ c ≠ ')' ∧ isKeyMark c = false := by
    intro c letter
    obtain ⟨-, closing, comma⟩ := plain_of_class (by decide) (name.word c letter)
    exact ⟨comma, closing, isKeyMark_eq ▸ isNameMark_of_isWord (name.word c letter)⟩
  constructor
  · simpa using name.nonempty
  · rw [String.toList_ofList]
    exact fun c letter => ⟨(plain c letter).1, (plain c letter).2.1⟩
  · rw [String.toList_ofList]
    exact fun c first => (plain c (List.mem_of_mem_head? first)).2.2
  · rw [String.toList_ofList]
    exact fun c last => (plain c (List.mem_reverse.mp (List.mem_of_mem_head? last))).2.2

theorem isKeyName_of_mem_keyNames {clause : List Char} {key : String} (listed : key ∈ keyNames clause) : IsKeyName key := by
  obtain ⟨nonempty, front, rear⟩ := ends_of_mem_keyNames listed
  exact ⟨nonempty, plain_of_mem_keyNames listed, front, rear⟩

/-- A clause gives the names that it lists, or the name of its column. -/
theorem isKeyName_of_mem_yieldOf {clause : List Char} {key : String} (given : key ∈ (yieldOf clause).keyNames) :
    IsKeyName key := by
  rcases yieldOf_cases clause with ⟨-, -, yields⟩ | ⟨-, -, yields⟩ | ⟨-, name, base, tail, -, yields⟩
  · rw [yields] at given
    exact isKeyName_of_mem_keyNames given
  · rw [yields] at given
    cases given
  · rw [yields] at given
    rw [List.mem_singleton.mp (List.mem_ite_nil_right.mp given).2]
    exact isKeyName_of_word name

theorem isKeyName_of_mem_parse {sql : String} {key : String} (member : key ∈ (parse sql).table.keyNames) : IsKeyName key := by
  rw [parse_keyNames] at member
  obtain ⟨clause, -, given⟩ := List.mem_flatMap.mp member
  exact isKeyName_of_mem_yieldOf given

/-! ### Columns of one name -/

/-- A name counts as a new one unless it is known; once it is known it is not counted again. -/
theorem card_insert_sdiff (name : String) (names known : Finset String) :
    (insert name names \ known).card = (if name ∈ known then 0 else 1) + (names \ insert name known).card := by
  have later : names \ insert name known = (insert name names \ known).erase name := by
    rw [← Finset.insert_sdiff_insert, Finset.sdiff_insert]
  rw [later]
  by_cases present : name ∈ known
  · rw [if_pos present, Finset.erase_eq_of_notMem (by simp [present]), Nat.zero_add]
  · rw [if_neg present, Nat.add_comm, Finset.card_erase_add_one (by simp [present])]

/-- A column is a duplicate or has a name that is new. -/
theorem length_duplicates (seen : List String) (columns : List Column) :
    (duplicates seen columns).length + (distinctNames columns \ seen.toFinset).card = columns.length := by
  induction columns generalizing seen with
  | nil => simp [duplicates, distinctNames]
  | cons column columns ih =>
    have rest := ih (lower column.name :: seen)
    rw [List.toFinset_cons] at rest
    have named : distinctNames (column :: columns) = insert (lower column.name) (distinctNames columns) := by
      simp [distinctNames]
    rw [named, card_insert_sdiff, List.length_cons]
    simp only [duplicates, List.contains_iff_mem, List.mem_toFinset]
    by_cases known : lower column.name ∈ seen
    · simp only [if_pos known, List.length_cons]
      omega
    · simp only [if_neg known]
      omega

theorem countP_warnings_parse (sql : String) :
    (parse sql).warnings.countP isDuplicateReport = (duplicates [] (parse sql).table.columns).length := by
  obtain ⟨name, parsed⟩ := parse_eq_assemble sql
  have dropped (texts : List (List Char)) :
      (texts.map fun text => Warning.droppedClause (String.ofList text)).countP isDuplicateReport = 0 := by
    simp [isDuplicateReport]
  have repeated (columns : List Column) :
      (columns.map fun c => Warning.duplicateColumn c.name name).countP isDuplicateReport = columns.length := by
    simp [List.countP_map, Function.comp_def, isDuplicateReport]
  rw [parsed]
  simp only [assemble, List.countP_append, dropped, repeated, Nat.zero_add]

/-- Every reading is well formed. -/
theorem parse_wellFormed (sql : String) : WellFormed (parse sql) where
  tableName := by
    obtain ⟨nonempty, run⟩ := run_name_parse sql
    refine ⟨nonempty, fun c letter => ?_⟩
    simpa [isNameChar] using run c letter
  columnNames _ member := ⟨parse_name_ne_empty member, fun _ letter => isWord_of_mem_name_parse member letter⟩
  columnTypes _ := isType_of_mem_parse
  keyNames _ := isKeyName_of_mem_parse
  duplicates := by
    have counted := length_duplicates [] (parse sql).table.columns
    rw [List.toFinset_nil, Finset.sdiff_empty] at counted
    rw [countP_warnings_parse]
    exact counted

/-- Two columns of one name apart from case, and one of another: one report. -/
example : (parse "CREATE TABLE t (Id INT, a TEXT, ID INT, PRIMARY KEY ([Id]))").warnings.countP isDuplicateReport = 1 := by
  decide +kernel

end CrudScripts.Schema
