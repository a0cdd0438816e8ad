import CrudScripts.Data.Value
import CrudScripts.Schema.Clause
import CrudScripts.Warning

/-!
Reading a `CREATE TABLE` statement. Every text has a reading: what is not recognised is left out
and reported. A column is flagged as part of the key when its name, apart from case, is among the
key names of the statement, wherever the clause that lists them stands.
-/
namespace CrudScripts.Schema
open CrudScripts.Text

/-- A table and the reports made while it was read. -/
structure Parsed where
  table : Table := {}
  warnings : List Warning := []

/-- The columns whose name an earlier column has, apart from case. -/
def duplicates (seen : List String) : List Column → List Column
  | [] => []
  | c :: rest =>
    let later := duplicates (lower c.name :: seen) rest
    if seen.contains (lower c.name) then c :: later else later

/-- The columns, flagged when their name is among the key names apart from case. -/
def flagKeys (names : List String) (columns : List Column) : List Column :=
  let lowered := names.map lower
  columns.map fun c => if lowered.contains (lower c.name) then c.asKey else c

/-- The table of a statement, given its name and its clauses, with the reports about them. -/
def assemble (name : String) (clauses : List Clause) : Parsed :=
  let keys := clauses.flatMap Clause.keyNames
  let columns := flagKeys keys (clauses.filterMap Clause.column?)
  { table := { name := name, columns := columns, keyNames := keys }
    warnings :=
      (clauses.filterMap Clause.unread?).map (fun text => .droppedClause (String.ofList text)) ++
        (duplicates [] columns).map fun c => .duplicateColumn c.name name }

/-- The reading of a statement. A blank text gives the default table. -/
def parse (sql : String) : Parsed :=
  let cs := sql.toList
  if allBlank cs then {} else assemble (tableName cs) (readClauses (body cs))

/-- The reading of a value given as a statement: anything but a text gives the default table. -/
def parseValue (v : Data.Value) : Parsed :=
  match v with
  | .text sql => parse sql
  | _ => {}

end CrudScripts.Schema
