import CrudScripts.Schema.Table
import CrudScripts.Text.Scan

/-!
Column definitions. A definition is a name, bare or between two equal marks, blanks, a type word
with optional parameters in parentheses glued to it, and modifiers. Names and type words are the
longest runs of ASCII letters, digits and underscores, so a clause has at most one reading.
-/
namespace CrudScripts.Schema
open CrudScripts.Text

/-- Whether a character can stand on both sides of a column name. -/
def isNameMark (c : Char) : Bool := c == '\x60' || c == '"' || c == '[' || c == ']'

/-- A column name at the front of a text, and the text after it and its closing mark. -/
def takeColumnName : List Char → Option (List Char × List Char)
  | [] => none
  | c :: s =>
    if isNameMark c then
      match takeRun isWord s with
      | some (name, d :: rest) => if d = c then some (name, rest) else none
      | _ => none
    else takeRun isWord (c :: s)

/-- The parameters of a type at the front of a text, with their parentheses, and the text after
    them. -/
def takeParameters (s : List Char) : List Char × List Char :=
  match takeGroup s with
  | some (inside, rest) => ('(' :: inside ++ [')'], rest)
  | none => ([], s)

structure ColumnParts where
  name : List Char
  base : List Char
  parameters : List Char
  modifiers : List Char

/-- The parts of a clause that is a column definition. -/
def columnParts (clause : List Char) : Option ColumnParts := do
  let (name, s) ← takeColumnName clause
  let (base, s) ← takeRun isWord (← dropBlanks s)
  let (parameters, s) := takeParameters s
  return ⟨name, base, parameters, s.dropWhile isBlank⟩

/-- The words that make a column number itself. -/
def identityWords : List String := ["IDENTITY", "AUTO_INCREMENT", "AUTOINCREMENT", "SERIAL"]

/-- Whether modifiers make a column number itself. -/
def marksIdentity (modifiers : List Char) : Bool :=
  identityWords.any fun word => occurs (dropKeyword word.toList) modifiers

def forbidsNull (modifiers : List Char) : Bool := occurs (dropKeywords "NOT" "NULL") modifiers

/-- The column of a clause that is a column definition. -/
def parseColumn (clause : List Char) : Option Column :=
  (columnParts clause).map fun parts => {
    name := String.ofList parts.name
    type := String.ofList (parts.base ++ parts.parameters)
    isIdentity := marksIdentity parts.modifiers
    isNullable := !forbidsNull parts.modifiers }

end CrudScripts.Schema
