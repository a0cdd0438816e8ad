import CrudScripts.Schema.Body
import CrudScripts.Schema.ColumnClause
import CrudScripts.Schema.KeyClause

/-!
The reading of a clause: a list of key names, a column that may carry the key itself, or nothing
that scripts use. Every clause has exactly one reading.
-/
namespace CrudScripts.Schema
open CrudScripts.Text

/-- What a clause of a statement declares. -/
inductive Clause where
  /-- Key names without a column. -/
  | keyList (names : List String)
  /-- A column, and whether its clause names it as the key. -/
  | column (column : Column) (declaresKey : Bool)
  /-- A clause that is neither. -/
  | unread (text : List Char)

namespace Clause

/-- The reading of a clause without blanks at its ends. A clause that is no column may still list
    key names after the words of a key. -/
def read (clause : List Char) : Clause :=
  if isKeyClause clause then .keyList (Schema.keyNames clause)
  else match parseColumn clause with
    | some c => .column c (mentionsPrimaryKey clause)
    | none =>
      if mentionsPrimaryKey clause then .keyList (Schema.keyNames clause) else .unread clause

/-- The column that a clause declares. -/
def column? : Clause → Option Column
  | .column c _ => some c
  | _ => none

/-- The key names that a clause declares. -/
def keyNames : Clause → List String
  | .keyList names => names
  | .column c declaresKey => if declaresKey then [c.name] else []
  | .unread _ => []

/-- The text of a clause that declares nothing. -/
def unread? : Clause → Option (List Char)
  | .unread text => some text
  | _ => none

end Clause

/-- The readings of the clauses of a body that are not blank, in order. -/
def readClauses (body : List Char) : List Clause :=
  (((splitTopLevel body).map trim).filter fun clause => !clause.isEmpty).map Clause.read

end CrudScripts.Schema
