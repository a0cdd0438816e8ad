/-!
Tables as scripts see them: a name, the columns in order of declaration, and the names that key
clauses listed. A table without a flagged column is addressed by its first column (`effectiveKey`),
and stays as it is.
-/
namespace CrudScripts.Schema

structure Column where
  name : String
  type : String
  isKey : Bool := false
  isIdentity : Bool := false
  isNullable : Bool := true
deriving DecidableEq

/-- The column flagged as part of the key. -/
def Column.asKey (c : Column) : Column := { c with isKey := true }

/-- A table: its columns, and the key names as its statement wrote them. -/
structure Table where
  name : String := "Table"
  columns : List Column := []
  keyNames : List String := []
deriving DecidableEq

namespace Table

def nonKeyColumns (t : Table) : List Column := t.columns.filter fun c => !c.isKey

def keyColumns (t : Table) : List Column := t.columns.filter fun c => c.isKey

/-- Whether any column is flagged as part of the key. -/
def hasDeclaredKey (t : Table) : Bool := t.columns.any fun c => c.isKey

/-- The columns that address a row: the key columns, or the first column of a table without any. -/
def effectiveKey (t : Table) : List Column :=
  match t.keyColumns, t.columns with
  | [], c :: _ => [c.asKey]
  | keys, _ => keys

/-- Whether the effective key is a stand-in for a key that the table does not declare. -/
def keyIsInferred (t : Table) : Bool := !t.effectiveKey.isEmpty && !t.hasDeclaredKey

end Table

end CrudScripts.Schema
