import CrudScripts.Schema.Table
import CrudScripts.Text.Scan

/-!
Statements that read or change the rows of a table. The columns of an `INSERT` and its values come
from one list of bindings, so they are equally many and in the same order.
-/
namespace CrudScripts.Script
open CrudScripts.Text

/-- A column and the text of the value it is set to or compared with. -/
structure Binding where
  column : String
  value : String
deriving DecidableEq

/-- A column and its value as an equation. -/
def Binding.equation (b : Binding) : String := b.column ++ " = " ++ b.value

/-- A statement on one table. -/
inductive Statement where
  | insert (table : String) (values : List Binding)
  | update (table : String) (assignments conditions : List Binding)
  | select (table : String) (conditions : List Binding)
  | delete (table : String) (conditions : List Binding)
deriving DecidableEq

/-- The equations of a list of assignments. -/
def assignmentText (assignments : List Binding) : String :=
  join ", " (assignments.map Binding.equation)

/-- The equations that a row has to satisfy, all of them. -/
def conditionText (conditions : List Binding) : String :=
  join " AND " (conditions.map Binding.equation)

/-- The text of a statement; `gap` stands between the columns of an `INSERT` and its values. -/
def Statement.render (gap : String) : Statement → String
  | .insert table values =>
    "INSERT INTO " ++ table ++ " (" ++ join ", " (values.map (·.column)) ++ ")" ++ gap ++
      "VALUES (" ++ join ", " (values.map (·.value)) ++ ");"
  | .update table assignments conditions =>
    "UPDATE " ++ table ++ " SET " ++ assignmentText assignments ++ " WHERE " ++
      conditionText conditions ++ ";"
  | .select table conditions =>
    "SELECT * FROM " ++ table ++ " WHERE " ++ conditionText conditions ++ ";"
  | .delete table conditions =>
    "DELETE FROM " ++ table ++ " WHERE " ++ conditionText conditions ++ ";"

/-- The columns bound to the texts that `write` gives for their names and indices, counted from a
    start. -/
def bindFrom (write : String → Nat → String) (start : Nat) : List Schema.Column → List Binding
  | [] => []
  | c :: rest => ⟨c.name, write c.name start⟩ :: bindFrom write (start + 1) rest

end CrudScripts.Script
