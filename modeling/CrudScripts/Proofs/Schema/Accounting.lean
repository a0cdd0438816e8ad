import CrudScripts.Proofs.Schema.Grammar
import CrudScripts.Schema.Parse
import Mathlib.Data.List.Basic

/-!
What becomes of each clause of a statement. The columns, the key names and the reports of a reading are
what its clauses give, one clause after the other (`parse_columns`, `parse_keyNames`, `parse_dropped`). A
clause gives one column, or key names without a column, or one report; only a clause that mentions the words
of a key, is no column and has no name in its first group gives nothing at all (`clauses_accounted`).
-/
namespace CrudScripts.Schema
open CrudScripts.Text

/-- The clauses of a statement that are not blank, without the blanks around them. -/
def clausesOf (sql : String) : List (List Char) :=
  ((splitTopLevel (body sql.toList)).map trim).filter fun clause => !clause.isEmpty

/-- What a clause gives to a reading: columns, key names, and the texts of reports. -/
structure Yield where
  columns : List Column := []
  keyNames : List String := []
  dropped : List String := []
deriving DecidableEq

def yieldOf (clause : List Char) : Yield where
  columns := (Clause.read clause).column?.toList
  keyNames := (Clause.read clause).keyNames
  dropped := ((Clause.read clause).unread?.map String.ofList).toList

def droppedText? : Warning → Option String
  | .droppedClause text => some text
  | _ => none

theorem clausesOf_blank {sql : String} (blank : allBlank sql.toList = true) : clausesOf sql = [] := by
  have opened : sql.toList.dropWhile (· != '(') = [] := by
    refine List.dropWhile_eq_nil_iff.mpr fun c member => ?_
    have white : isBlank c = true := List.all_eq_true.mp blank c member
    have other : c ≠ '(' := by rintro rfl; exact absurd white (by decide)
    simpa using other
  simp [clausesOf, body, opened, beforeLastClose, splitTopLevel, piecesFrom]

/-- A reading is made of the readings of its clauses. -/
theorem parse_eq_assemble (sql : String) : ∃ name, parse sql = assemble name ((clausesOf sql).map Clause.read) := by
  cases blank : allBlank sql.toList with
  | true =>
    refine ⟨"Table", ?_⟩
    rw [clausesOf_blank blank, parse, if_pos blank]
    rfl
  | false =>
    refine ⟨tableName sql.toList, ?_⟩
    rw [parse, if_neg (by simp [blank])]
    rfl

/-- The key names of a reading are what its clauses give, in order. -/
theorem parse_keyNames (sql : String) :
    (parse sql).table.keyNames = (clausesOf sql).flatMap fun clause => (yieldOf clause).keyNames := by
  obtain ⟨name, parsed⟩ := parse_eq_assemble sql
  rw [parsed]
  simp only [assemble, List.flatMap_map, yieldOf]

/-- The columns of a reading are what its clauses give, in order, flagged by the key names of all clauses. -/
theorem parse_columns (sql : String) :
    (parse sql).table.columns =
      flagKeys (parse sql).table.keyNames ((clausesOf sql).flatMap fun clause => (yieldOf clause).columns) := by
  obtain ⟨name, parsed⟩ := parse_eq_assemble sql
  rw [parsed]
  simp only [assemble, List.filterMap_map]
  rw [List.filterMap_eq_flatMap_toList]
  rfl

/-- The reports about clauses are what the clauses give, in order. -/
theorem parse_dropped (sql : String) :
    (parse sql).warnings.filterMap droppedText? = (clausesOf sql).flatMap fun clause => (yieldOf clause).dropped := by
  obtain ⟨name, parsed⟩ := parse_eq_assemble sql
  have others (columns : List Column) :
      (columns.map fun c => Warning.duplicateColumn c.name name).filterMap droppedText? = [] := by
    simp [List.filterMap_map, droppedText?]
  have reports (texts : List (List Char)) :
      (texts.map fun text => Warning.droppedClause (String.ofList text)).filterMap droppedText? =
        texts.map String.ofList := by
    simp [List.filterMap_map, droppedText?, Function.comp_def]
  rw [parsed]
  simp only [assemble, List.filterMap_append, others, reports, List.append_nil]
  rw [List.filterMap_map, List.map_filterMap, List.filterMap_eq_flatMap_toList]
  rfl

/-! ### The ways of a clause -/

/-- A clause that gives nothing: it mentions the words of a key, is a key clause or no column, and nothing but
    marks and blanks is between the commas of its first group. -/
def Lost (clause : List Char) : Prop :=
  MentionsKey clause ∧ (KeyShape clause ∨ ¬ IsColumn clause) ∧
    ∀ inside, FirstGroup clause inside → ∀ token ∈ cut ',' inside, ∀ c ∈ trim token, isKeyMark c = true

/-- The three ways in which a clause is accounted for: it gives one column, or key names and no column, or one
    report with its text. -/
inductive Accounted (clause : List Char) : Yield → Prop where
  | column (column : Column) (keyNames : List String) : Accounted clause ⟨[column], keyNames, []⟩
  | keys (keyNames : List String) (nonempty : keyNames ≠ []) : Accounted clause ⟨[], keyNames, []⟩
  | report : Accounted clause ⟨[], [], [String.ofList clause]⟩

theorem not_accounted_empty (clause : List Char) : ¬ Accounted clause {} := by
  intro accounted
  cases accounted with
  | keys _ nonempty => exact nonempty rfl

theorem yieldOf_column {clause : List Char} (key : ¬ KeyShape clause) {name base : Word} {tail : List Char}
    (shape : ColumnShape clause name base tail) :
    yieldOf clause =
      ⟨[columnOf name base tail], if mentionsPrimaryKey clause then [String.ofList name.text] else [], []⟩ := by
  have other : isKeyClause clause = false := by rwa [Bool.eq_false_iff, ne_eq, isKeyClause_iff]
  have read : Clause.read clause = .column (columnOf name base tail) (mentionsPrimaryKey clause) := by
    rw [Clause.read, other, parseColumn_of_shape shape]
    rfl
  rw [yieldOf, read]
  rfl

theorem yieldOf_keys {clause : List Char} (mentions : MentionsKey clause) (other : KeyShape clause ∨ ¬ IsColumn clause) :
    yieldOf clause = ⟨[], keyNames clause, []⟩ := by
  have read : Clause.read clause = .keyList (keyNames clause) := by
    rw [← mentionsPrimaryKey_iff] at mentions
    rw [← isKeyClause_iff, ← parseColumn_isSome_iff] at other
    rw [Clause.read]
    by_cases key : isKeyClause clause = true
    · rw [if_pos key]
    · have unparsed : parseColumn clause = none := by simpa [key] using other
      rw [if_neg key, unparsed]
      exact if_pos mentions
  rw [yieldOf, read]
  rfl

theorem yieldOf_report {clause : List Char} (mentions : ¬ MentionsKey clause) (column : ¬ IsColumn clause) :
    yieldOf clause = ⟨[], [], [String.ofList clause]⟩ := by
  have read : Clause.read clause = .unread clause := by
    rw [← mentionsPrimaryKey_iff] at mentions
    rw [← parseColumn_isSome_iff] at column
    have key : isKeyClause clause = false := by
      rw [Bool.eq_false_iff]
      exact fun key => mentions (mentionsPrimaryKey_of_isKeyClause key)
    have unparsed : parseColumn clause = none := by simpa using column
    rw [Clause.read, key, unparsed]
    exact if_neg mentions
  rw [yieldOf, read]
  rfl

theorem mentionsKey_of_keyShape {clause : List Char} (shape : KeyShape clause) : MentionsKey clause :=
  (mentionsPrimaryKey_iff clause).mp (mentionsPrimaryKey_of_isKeyClause ((isKeyClause_iff clause).mpr shape))

/-- The routes that a clause can take: it gives the names that it lists, or a report, or its column. -/
theorem yieldOf_cases (clause : List Char) :
    (MentionsKey clause ∧ (KeyShape clause ∨ ¬ IsColumn clause) ∧ yieldOf clause = ⟨[], keyNames clause, []⟩) ∨
      (¬ MentionsKey clause ∧ ¬ IsColumn clause ∧ yieldOf clause = ⟨[], [], [String.ofList clause]⟩) ∨
      ¬ KeyShape clause ∧ ∃ name base tail, ColumnShape clause name base tail ∧ yieldOf clause =
        ⟨[columnOf name base tail], if mentionsPrimaryKey clause then [String.ofList name.text] else [], []⟩ := by
  by_cases other : KeyShape clause ∨ ¬ IsColumn clause
  · by_cases mentions : MentionsKey clause
    · exact .inl ⟨mentions, other, yieldOf_keys mentions other⟩
    · have column : ¬ IsColumn clause := other.resolve_left fun key => mentions (mentionsKey_of_keyShape key)
      exact .inr (.inl ⟨mentions, column, yieldOf_report mentions column⟩)
  · obtain ⟨key, column⟩ := not_or.mp other
    obtain ⟨name, base, tail, shape⟩ := not_not.mp column
    exact .inr (.inr ⟨key, name, base, tail, shape, yieldOf_column key shape⟩)

/-- A clause is accounted for in one way, or lost. -/
theorem accounted_yieldOf_iff (clause : List Char) : Accounted clause (yieldOf clause) ↔ ¬ Lost clause := by
  rcases yieldOf_cases clause with ⟨mentions, other, given⟩ | ⟨silent, -, given⟩ | ⟨key, name, base, tail, shape, given⟩
  · rw [given, Lost, ← keyNames_eq_nil_iff]
    cases names : keyNames clause with
    | nil => simpa [mentions, other] using not_accounted_empty clause
    | cons name rest => simpa using Accounted.keys (name :: rest) (by simp)
  · rw [given]
    exact iff_of_true .report fun lost => silent lost.1
  · rw [given]
    exact iff_of_true (.column _ _) fun lost => lost.2.1.elim key fun none => none ⟨name, base, tail, shape⟩

/-- The columns, the key names and the reports about clauses are what the clauses give, in order; and every
    clause is accounted for in exactly one way, but for those that mention the words of a key, are no column and
    have no name in their first group: these give nothing. -/
theorem clauses_accounted (sql : String) :
    (parse sql).table.columns =
        flagKeys (parse sql).table.keyNames ((clausesOf sql).flatMap fun clause => (yieldOf clause).columns) ∧
      (parse sql).table.keyNames = (clausesOf sql).flatMap (fun clause => (yieldOf clause).keyNames) ∧
      (parse sql).warnings.filterMap droppedText? =
        (clausesOf sql).flatMap (fun clause => (yieldOf clause).dropped) ∧
      ∀ clause ∈ clausesOf sql, (Accounted clause (yieldOf clause) ↔ ¬ Lost clause) ∧
        (Lost clause → yieldOf clause = {}) := by
  refine ⟨parse_columns sql, parse_keyNames sql, parse_dropped sql, fun clause _ => ?_⟩
  refine ⟨accounted_yieldOf_iff clause, fun lost => ?_⟩
  rw [yieldOf_keys lost.1 lost.2.1, (keyNames_eq_nil_iff clause).mpr lost.2.2]

example : yieldOf "[Id] INT PRIMARY KEY".toList = {} := by
  decide +kernel

end CrudScripts.Schema
