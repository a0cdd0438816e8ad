import CrudScripts.Proofs.Schema.ColumnHead
import CrudScripts.Proofs.Schema.ConstraintLabel
import CrudScripts.Proofs.Schema.Frame
import CrudScripts.Proofs.Schema.KeyFlags
import Mathlib.Data.List.Basic

/-!
Table constraints among column definitions. Keys, and constraints whose first word is followed by a
parenthesis or a quoted name, give no column. A foreign key without a name is read as a column `FOREIGN`,
and any other constraint but a key behind a bare name as a column `CONSTRAINT`; a table has the columns of
its definitions exactly when it has no such constraint (`ConstrainedTable.columns_eq_iff`).
-/
namespace CrudScripts.Schema
open CrudScripts.Text

/-- A text in parentheses that is not cut. -/
structure Group where
  inside : List Char
  whole : Whole ('(' :: inside ++ [')'])

def Group.text (group : Group) : List Char := '(' :: group.inside ++ [')']

/-- What a foreign key refers to. -/
structure References where
  blanks : Blanks
  word : Keyword "REFERENCES"
  gap : Blanks
  target : List Char
  plain : ∀ c ∈ target, c ≠ '(' ∧ c ≠ ')' ∧ c ≠ ','
  blanks' : Blanks
  group : Group

def References.text (references : References) : List Char :=
  references.blanks.text ++ (references.word.text ++ (references.gap.text ++ (references.target ++
    (references.blanks'.text ++ references.group.text))))

inductive ConstraintKind where
  | primaryKey (words : KeywordPair "PRIMARY" "KEY")
  | unique (word : Keyword "UNIQUE")
  | check (word : Keyword "CHECK")
  | foreignKey (words : KeywordPair "FOREIGN" "KEY") (references : References)

namespace ConstraintKind

variable (kind : ConstraintKind)

/-- The words before the first group of a constraint. -/
def words : ConstraintKind → List Char
  | primaryKey words => words.text
  | unique word => word.text
  | check word => word.text
  | foreignKey words _ => words.text

/-- What follows the first group of a constraint. -/
def tail : ConstraintKind → List Char
  | foreignKey _ references => references.text
  | _ => []

def isKey : ConstraintKind → Bool
  | primaryKey _ => true
  | _ => false

theorem whole_words : Whole kind.words := by
  cases kind with
  | primaryKey words => exact whole_of_pair words
  | unique word => exact whole_of_keyword word
  | check word => exact whole_of_keyword word
  | foreignKey words references => exact whole_of_pair words

theorem whole_tail : Whole kind.tail := by
  cases kind with
  | foreignKey words references =>
    exact (whole_of_blanks references.blanks).append ((whole_of_keyword references.word).append
      ((whole_of_blanks references.gap).append ((whole_of_plain references.plain).append
        ((whole_of_blanks references.blanks').append references.group.whole))))
  | _ => exact whole_nil

theorem stops_isBlank_words (s : List Char) : Stops isBlank (kind.words ++ s) := by
  cases kind with
  | primaryKey words => exact words.stops_isBlank s
  | unique word => exact word.stops_isBlank s
  | check word => exact word.stops_isBlank s
  | foreignKey words references => exact words.stops_isBlank s

/-- A text that begins with another letter does not begin with the words of a key. -/
theorem dropPrimaryKey_of_first {word : String} (keyword : Keyword word) (other : word.toList.head? ≠ some 'P')
    (s : List Char) : dropPrimaryKey (keyword.text ++ s) = none := by
  have spelled := keyword.spells
  obtain ⟨c, rest, first⟩ := List.exists_cons_of_ne_nil keyword.ne_nil
  have letter : keyLetter c ≠ 'P' := by
    rintro same
    rw [Spells, first, List.map_cons] at spelled
    exact other (by rw [← spelled, same]; rfl)
  have none : dropKeyword "PRIMARY".toList (keyword.text ++ s) = none := by
    rw [first, List.cons_append]
    exact if_neg letter
  rw [dropPrimaryKey, dropKeywords_eq, none]
  rfl

theorem dropPrimaryKey_words (other : kind.isKey = false) (s : List Char) : dropPrimaryKey (kind.words ++ s) = none := by
  cases kind with
  | primaryKey words => cases other
  | unique word => exact dropPrimaryKey_of_first word (by decide) s
  | check word => exact dropPrimaryKey_of_first word (by decide) s
  | foreignKey pair references =>
    rw [words, KeywordPair.text_append]
    exact dropPrimaryKey_of_first pair.one (by decide) _

end ConstraintKind

structure TableConstraint where
  label : Option ConstraintLabel
  kind : ConstraintKind
  blanks : Blanks
  group : Group

namespace TableConstraint

variable (constraint : TableConstraint)

/-- What a constraint has behind its name. -/
def body : List Char :=
  constraint.kind.words ++ (constraint.blanks.text ++ (constraint.group.text ++ constraint.kind.tail))

def text : List Char := labelText constraint.label ++ constraint.body

/-- Whether a constraint is taken for a column: a foreign key without a name, or any constraint but a key
    behind a bare name. -/
def readsAsColumn : Bool :=
  match constraint.label, constraint.kind with
  | none, .foreignKey .. => true
  | none, _ => false
  | some label, kind => !kind.isKey && decide label.Bare

def firstWord : List Char :=
  match constraint.label, constraint.kind with
  | some label, _ => label.word.text
  | none, .primaryKey words => words.one.text
  | none, .unique word => word.text
  | none, .check word => word.text
  | none, .foreignKey words _ => words.one.text

def clauseText : ClauseText where
  text := constraint.text
  nonempty := by simp [text, body, Group.text]
  trimmed := by
    constructor
    · rw [text]
      cases constraint.label with
      | none => exact constraint.kind.stops_isBlank_words _
      | some label => exact label.stops_isBlank_text _
    · have closed : isBlank ')' = false := by decide
      rw [text, body]
      cases constraint.kind with
      | foreignKey words references => simp [ConstraintKind.tail, References.text, Group.text, closed]
      | _ => simp [ConstraintKind.tail, Group.text, closed]
  whole := (whole_labelText constraint.label).append (constraint.kind.whole_words.append
    ((whole_of_blanks constraint.blanks).append (constraint.group.whole.append constraint.kind.whole_tail)))

/-! ### Reading a constraint -/

theorem column?_read_of_parseColumn {clause : List Char} (unparsed : parseColumn clause = none) :
    (Clause.read clause).column? = none := by
  rw [Clause.read, unparsed]
  split
  · rfl
  · dsimp only
    split <;> rfl

/-- A constraint whose first word is followed by a parenthesis is no column. -/
theorem column?_read_word {word : String} (keyword : Keyword word) (blanks : Blanks) (s : List Char) :
    (Clause.read (keyword.text ++ (blanks.text ++ '(' :: s))).column? = none :=
  column?_read_of_parseColumn
    (parseColumn_word_stop keyword.toWord blanks (show isWord '(' = false by decide) (by decide) s)

/-- A foreign key without a name is a column definition to its readers. -/
theorem name_read_foreignKey (words : KeywordPair "FOREIGN" "KEY") {s : List Char} (stops : Stops isWord s) :
    (Clause.read (words.text ++ s)).column?.map Column.name = some (String.ofList words.one.text) := by
  let head : ColumnHead := {
    quoting := .bare
    name := words.one.toWord
    unreserved := fun _ => by
      have spelled : words.one.toWord.text.map Char.toUpper = "FOREIGN".toList := words.one.spelled
      rw [spelled]
      decide
    gap := words.gap
    base := words.two.toWord }
  have text : words.text ++ s = head.text s := by
    simp [ColumnHead.text, ColumnHead.quotedName, Quoting.mark, head, Keyword.toWord, KeywordPair.text]
  rw [text, head.read_text stops]
  rfl

/-- A constraint behind a name is taken for a column when the name is bare. -/
theorem name_read_label (label : ConstraintLabel) {s : List Char} (stops : Stops isBlank s)
    (other : dropPrimaryKey s = none) :
    (Clause.read (label.text ++ s)).column?.map Column.name =
      if label.Bare then some (String.ofList label.word.text) else none := by
  by_cases bare : label.Bare
  · obtain ⟨base, tail, -, -, parsed⟩ := label.parseColumn_bare bare s
    rw [Clause.read, label.isKeyClause_eq_false bare stops other, parsed, if_pos bare]
    rfl
  · have quoted : Stops isWord label.name := by simpa [ConstraintLabel.Bare] using bare
    rw [if_neg bare, column?_read_of_parseColumn (label.parseColumn_quoted quoted s)]
    rfl

/-- The column that readers take a constraint for has its first word as a name. -/
theorem name_read :
    (Clause.read constraint.text).column?.map Column.name =
      if constraint.readsAsColumn then some (String.ofList constraint.firstWord) else none := by
  obtain ⟨label, kind, blanks, group⟩ := constraint
  have stops : Stops isWord (blanks.text ++ (group.text ++ kind.tail)) :=
    blanks.stops_text_append (fun _ => isWord_of_isBlank) ((stops_cons _ _ _).mpr (by decide))
  cases label with
  | none =>
    cases kind with
    | primaryKey words =>
      rw [read_primaryKey none words blanks (group.inside ++ [')'])
        (by simp [text, body, labelText, ConstraintKind.words, ConstraintKind.tail, Group.text])]
      rfl
    | unique word => exact congrArg (Option.map Column.name) (column?_read_word word blanks _)
    | check word => exact congrArg (Option.map Column.name) (column?_read_word word blanks _)
    | foreignKey words references =>
      have named := name_read_foreignKey words stops
      simpa [text, body, labelText, ConstraintKind.words, readsAsColumn, firstWord] using named
  | some label =>
    cases key : kind.isKey with
    | true =>
      cases kind with
      | primaryKey words =>
        rw [read_primaryKey (some label) words blanks (group.inside ++ [')'])
          (by simp [text, body, ConstraintKind.words, ConstraintKind.tail, Group.text])]
        rfl
      | _ => cases key
    | false =>
      have named := name_read_label label (kind.stops_isBlank_words _)
        (kind.dropPrimaryKey_words key (blanks.text ++ (group.text ++ kind.tail)))
      simpa [text, body, labelText, readsAsColumn, firstWord, key] using named

end TableConstraint

/-! ### Tables with constraints -/

/-- A column definition with anything that is not cut behind its type word. -/
structure ColumnEntry where
  head : ColumnHead
  tail : List Char
  stops : Stops isWord tail
  solid : Stops isBlank tail.reverse
  whole : Whole tail

namespace ColumnEntry

variable (entry : ColumnEntry)

def clauseText : ClauseText where
  text := entry.head.text entry.tail
  nonempty := entry.head.text_ne_nil entry.tail
  trimmed := by
    refine entry.head.trimmed_text ?_
    by_cases ended : entry.tail = []
    · rw [ended, List.append_nil]
      exact (trimmed_of_solid fun c member => entry.head.base.solid member).2
    · exact (stops_reverse_append ended _).mpr entry.solid
  whole := entry.head.whole_text entry.whole

/-- The column of a definition, not flagged as part of the key. -/
def column : Column := entry.head.column entry.tail

theorem column?_read : (Clause.read entry.clauseText.text).column? = some entry.column :=
  congrArg Clause.column? (entry.head.read_text entry.stops)

end ColumnEntry

inductive TableEntry where
  | column (entry : ColumnEntry)
  | constraint (constraint : TableConstraint)

namespace TableEntry

variable (entry : TableEntry)

def clauseText : TableEntry → ClauseText
  | column entry => entry.clauseText
  | constraint written => written.clauseText

def definition? : TableEntry → Option Column
  | column entry => some entry.column
  | constraint _ => none

/-- Whether a clause is a constraint that is taken for a column. -/
def isMisread : TableEntry → Bool
  | column _ => false
  | constraint written => written.readsAsColumn

/-- The name of the column that a clause is read as. -/
def columnName? : TableEntry → Option String
  | column entry => some (String.ofList entry.head.name.text)
  | constraint written => if written.readsAsColumn then some (String.ofList written.firstWord) else none

theorem name_read_clause : (Clause.read entry.clauseText.text).column?.map Column.name = entry.columnName? := by
  cases entry with
  | column entry => exact congrArg (Option.map Column.name) entry.column?_read
  | constraint constraint => exact constraint.name_read

/-- A clause that is not misread is read as its definition. -/
theorem column?_read (right : entry.isMisread = false) :
    (Clause.read entry.clauseText.text).column? = entry.definition? := by
  cases entry with
  | column entry => exact entry.column?_read
  | constraint constraint =>
    have named := constraint.name_read
    rw [show constraint.readsAsColumn = false from right] at named
    exact Option.map_eq_none_iff.mp named

/-- A misread clause is read as a column that it does not define. -/
theorem isSome_column?_read (wrong : entry.isMisread = true) :
    (Clause.read entry.clauseText.text).column?.isSome = true ∧ entry.definition? = none := by
  cases entry with
  | column entry => cases wrong
  | constraint constraint =>
    have named := constraint.name_read
    rw [show constraint.readsAsColumn = true from wrong, if_pos rfl] at named
    obtain ⟨column, read, -⟩ := Option.map_eq_some_iff.mp named
    exact ⟨Option.isSome_iff_exists.mpr ⟨column, read⟩, rfl⟩

end TableEntry

structure ConstrainedTable where
  frame : Frame
  entries : List (Placed TableEntry)

namespace ConstrainedTable

variable (table : ConstrainedTable)

def sql : String := table.frame.sql TableEntry.clauseText table.entries

/-- The columns that the column definitions of a table define, in order. -/
def definitions : List Column := table.entries.filterMap fun placed => placed.item.definition?

/-- The columns that the clauses of a table are read as, in order. -/
def readings : List Column :=
  table.entries.filterMap fun placed => (Clause.read placed.item.clauseText.text).column?

theorem columns_parse : (parse table.sql).table.columns = flagKeys (parse table.sql).table.keyNames table.readings := by
  rw [sql, table.frame.parse_sql]
  simp only [assemble, List.filterMap_map, Function.comp_def, readings]

/-- Each misread clause adds a column to those that are defined. -/
theorem length_readings :
    table.readings.length = table.definitions.length + table.entries.countP fun placed => placed.item.isMisread := by
  rw [readings, definitions]
  induction table.entries with
  | nil => rfl
  | cons placed entries ih =>
    rw [List.filterMap_cons, List.filterMap_cons, List.countP_cons]
    cases wrong : placed.item.isMisread with
    | false =>
      rw [placed.item.column?_read wrong]
      cases placed.item.definition? with
      | none => simpa using ih
      | some column => simp only [List.length_cons, ih]; simp; omega
    | true =>
      obtain ⟨read, defined⟩ := placed.item.isSome_column?_read wrong
      obtain ⟨column, read⟩ := Option.isSome_iff_exists.mp read
      rw [read, defined]
      simp only [List.length_cons, ih]
      simp
      omega

theorem readings_eq (right : ∀ placed ∈ table.entries, placed.item.isMisread = false) :
    table.readings = table.definitions :=
  List.filterMap_congr fun placed member => placed.item.column?_read (right placed member)

/-- The columns of a table are named after its column definitions and its misread constraints, in order. They
    are the columns of the definitions exactly when no constraint is misread: no foreign key without a name, and
    no constraint but a key behind a bare name. -/
theorem columns_eq_iff :
    (parse table.sql).table.columns.map Column.name =
        table.entries.filterMap (fun placed => placed.item.columnName?) ∧
      ((parse table.sql).table.columns = flagKeys (parse table.sql).table.keyNames table.definitions ↔
        ∀ placed ∈ table.entries, placed.item.isMisread = false) := by
  constructor
  · rw [columns_parse, name_flagKeys, readings, List.map_filterMap]
    exact List.filterMap_congr fun placed _ => placed.item.name_read_clause
  · rw [columns_parse]
    constructor
    · intro same placed member
      have lengths := congrArg List.length same
      rw [length_flagKeys, length_flagKeys, length_readings] at lengths
      have none : table.entries.countP (fun placed => placed.item.isMisread) = 0 := by omega
      simpa using List.countP_eq_zero.mp none placed member
    · intro right
      rw [table.readings_eq right]

example : (parse "CREATE TABLE t (id INT, FOREIGN KEY (id) REFERENCES p(id))").table.columns.map Column.name =
    ["id", "FOREIGN"] := by
  decide +kernel

end ConstrainedTable

end CrudScripts.Schema
