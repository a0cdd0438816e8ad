import CrudScripts.Dialect.Registry
import CrudScripts.Script.Statement

/-!
The parameterised statements of a table: `INSERT`, `UPDATE` by key and `SELECT` by key. Indices of
placeholders start at one, and those of an `UPDATE` go on from its assignments to its conditions,
so positional placeholders are unique within a statement.
-/
namespace CrudScripts.Script
open CrudScripts.Schema

/-- The columns bound to their placeholders. -/
def bindPlaceholders (d : Dialect) (start : Nat) (columns : List Column) : List Binding :=
  bindFrom (fun name index => d.placeholder.render name index) start columns

def insertStatement (d : Dialect) (t : Table) : Statement :=
  .insert t.name (bindPlaceholders d 1 t.nonKeyColumns)

def updateStatement (d : Dialect) (t : Table) : Statement :=
  .update t.name (bindPlaceholders d 1 t.nonKeyColumns)
    (bindPlaceholders d (t.nonKeyColumns.length + 1) t.effectiveKey)

def selectStatement (d : Dialect) (t : Table) : Statement :=
  .select t.name (bindPlaceholders d 1 t.effectiveKey)

/-- The text of a statement in a script: the values of an `INSERT` are on a line of their own. -/
def scriptText (s : Statement) : String := s.render "\n"

/-- The texts of the three statements of a table. -/
def statementTexts (d : Dialect) (t : Table) : List String :=
  [scriptText (insertStatement d t), scriptText (updateStatement d t),
   scriptText (selectStatement d t)]

end CrudScripts.Script
