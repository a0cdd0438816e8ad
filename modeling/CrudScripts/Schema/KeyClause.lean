import CrudScripts.Text.Alphanumeric
import CrudScripts.Text.Scan

/-!
Key clauses: `PRIMARY KEY (...)` with an optional constraint name before it, and the names in the
first parenthesised group of a clause.
-/
namespace CrudScripts.Schema
open CrudScripts.Text

/-- The words of a key at the front of a text, and the text after them. -/
def dropPrimaryKey (s : List Char) : Option (List Char) := dropKeywords "PRIMARY" "KEY" s

/-- Whether the words of a key occur anywhere in a text. -/
def mentionsPrimaryKey (s : List Char) : Bool := occurs dropPrimaryKey s

/-- The text after `CONSTRAINT`, a name and the blanks around it. -/
def dropConstraint (s : List Char) : Option (List Char) := do
  let s ← dropBlanks (← dropKeyword "CONSTRAINT".toList s)
  let (_, s) ← takeRun (fun c => !isBlank c) s
  dropBlanks s

/-- Whether a clause declares a key of the table: the words of a key stand at its front, perhaps
    after a constraint name, and end where a word ends. -/
def isKeyClause (clause : List Char) : Bool :=
  match dropPrimaryKey ((dropConstraint clause).getD clause) with
  | some (c :: _) => !continuesWord c
  | some [] => true
  | none => false

/-- Whether a character is a bracket or quote around a key name. -/
def isKeyMark (c : Char) : Bool := c == '[' || c == ']' || c == '"' || c == '\x60'

/-- A listed name without the blanks around it and the marks inside those. -/
def bareKeyName (token : List Char) : List Char := strip isKeyMark (trim token)

/-- The names in the first parenthesised group of a clause. -/
def keyNames (clause : List Char) : List String :=
  match firstMatch takeGroup clause with
  | some (inside, _) =>
    (((cut ',' inside).map bareKeyName).filter fun name => !name.isEmpty).map String.ofList
  | none => []

end CrudScripts.Schema
