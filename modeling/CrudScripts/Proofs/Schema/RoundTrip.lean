import CrudScripts.Proofs.Schema.ColumnDefinition
import CrudScripts.Proofs.Schema.Frame
import CrudScripts.Proofs.Schema.KeyDefinition
import CrudScripts.Proofs.Schema.KeyFlags

/-!
Reading a written table. A table definition is a frame with column definitions and key clauses in any
order, each with any blanks around it. Reading its text gives its table back, and nothing is left out
(`TableDefinition.parse_reads_back`).
-/
namespace CrudScripts.Schema
open CrudScripts.Text

inductive ClauseDefinition where
  | column (definition : ColumnDefinition)
  | key (definition : KeyDefinition)

namespace ClauseDefinition

variable (definition : ClauseDefinition)

def clauseText : ClauseDefinition → ClauseText
  | column definition => definition.clauseText
  | key definition => definition.clauseText

def column? : ClauseDefinition → Option Column
  | column definition => some definition.column
  | key _ => none

def keyNames : ClauseDefinition → List String
  | column definition => if definition.declaresKey then [String.ofList definition.head.name.text] else []
  | key definition => definition.names.map fun key => String.ofList key.name

theorem column?_read : (Clause.read definition.clauseText.text).column? = definition.column? := by
  cases definition with
  | column definition => exact congrArg Clause.column? definition.read_text
  | key definition => exact congrArg Clause.column? definition.read_text

theorem keyNames_read : (Clause.read definition.clauseText.text).keyNames = definition.keyNames := by
  cases definition with
  | column definition => exact congrArg Clause.keyNames definition.read_text
  | key definition => exact congrArg Clause.keyNames definition.read_text

theorem unread?_read : (Clause.read definition.clauseText.text).unread? = none := by
  cases definition with
  | column definition => exact congrArg Clause.unread? definition.read_text
  | key definition => exact congrArg Clause.unread? definition.read_text

end ClauseDefinition

structure TableDefinition where
  frame : Frame
  clauses : List (Placed ClauseDefinition)

namespace TableDefinition

variable (definition : TableDefinition)

def sql : String := definition.frame.sql ClauseDefinition.clauseText definition.clauses

/-- The key names of all clauses, in order. -/
def keyNames : List String := definition.clauses.flatMap fun placed => placed.item.keyNames

/-- The columns of all clauses, in order, flagged when their name is a key name apart from case. -/
def columns : List Column :=
  (definition.clauses.filterMap fun placed => placed.item.column?).map fun column =>
    { column with isKey := decide (∃ key ∈ definition.keyNames, lower key = lower column.name) }

def table : Table where
  name := String.ofList definition.frame.name
  columns := definition.columns
  keyNames := definition.keyNames

/-- Reading the text of a table definition gives its table, whatever its keywords' case and its blanks are, and
    leaves no clause out. -/
theorem parse_reads_back : (parse definition.sql).table = definition.table ∧
    ∀ text, Warning.droppedClause text ∉ (parse definition.sql).warnings := by
  have plain : ∀ column ∈ definition.clauses.filterMap fun placed => placed.item.column?, column.isKey = false := by
    intro column member
    obtain ⟨placed, -, defined⟩ := List.mem_filterMap.mp member
    cases item : placed.item with
    | column definition => rw [item] at defined; cases defined; rfl
    | key definition => rw [item] at defined; cases defined
  have columns : (definition.clauses.map fun placed => Clause.read placed.item.clauseText.text).filterMap
      Clause.column? = definition.clauses.filterMap fun placed => placed.item.column? := by
    simp only [List.filterMap_map, Function.comp_def, ClauseDefinition.column?_read]
  have keys : (definition.clauses.map fun placed => Clause.read placed.item.clauseText.text).flatMap
      Clause.keyNames = definition.keyNames := by
    simp only [List.flatMap_map, ClauseDefinition.keyNames_read, keyNames]
  have unread : (definition.clauses.map fun placed => Clause.read placed.item.clauseText.text).filterMap
      Clause.unread? = [] := by
    simp [List.filterMap_map, ClauseDefinition.unread?_read]
  rw [sql, definition.frame.parse_sql, assemble, columns, keys, unread, flagKeys_eq _ _ plain]
  exact ⟨rfl, by simp⟩

end TableDefinition

end CrudScripts.Schema
