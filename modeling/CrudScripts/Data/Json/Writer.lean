import CrudScripts.Data.Wording

/-!
Writing values as JSON texts, without space between the tokens. Bytes are not JSON and are written
as an object with one field.
-/
namespace CrudScripts.Data.Json
open CrudScripts.Text

/-- A character inside a JSON string. -/
def writtenChar (c : Char) : List Char :=
  if c = '"' ∨ c = '\\' then ['\\', c]
  else if c = '\n' then ['\\', 'n']
  else if c = '\r' then ['\\', 'r']
  else if c = '\t' then ['\\', 't']
  else if c = '\x08' then ['\\', 'b']
  else if c = '\x0c' then ['\\', 'f']
  else if c.toNat < 32 then '\\' :: 'u' :: hexDigits 4 c.toNat
  else [c]

/-- A text as a JSON string. -/
def writtenText (s : String) : String :=
  String.ofList ('"' :: s.toList.flatMap writtenChar ++ ['"'])

/-- The JSON text of a number. The three numbers that are not finite have names that the reader
    knows, though other readers may not. -/
def writtenNumber : Double → String
  | .infinite negative => if negative then "-Infinity" else "Infinity"
  | .undefined => "NaN"
  | x => x.display

mutual

/-- The JSON text of a value. -/
def written : Value → String
  | .null => "null"
  | .bool b => if b then "true" else "false"
  | .int n => toString n
  | .real x => writtenNumber x
  | .text s => writtenText s
  | .bytes s => "\x7b\"bytes\":" ++ writtenText s ++ "\x7d"
  | .list items => "[" ++ join "," (writtenItems items) ++ "]"
  | .dict fields => "\x7b" ++ join "," (writtenFields fields) ++ "\x7d"
termination_by structural v => v

/-- The JSON texts of the items of a list. -/
def writtenItems : List Value → List String
  | [] => []
  | v :: rest => written v :: writtenItems rest
termination_by structural items => items

/-- The JSON texts of the fields of an object. -/
def writtenFields : List (String × Value) → List String
  | [] => []
  | field :: rest => writtenField field :: writtenFields rest
termination_by structural fields => fields

/-- The JSON text of a field of an object. -/
def writtenField : String × Value → String
  | (name, v) => writtenText name ++ ":" ++ written v
termination_by structural field => field

end

end CrudScripts.Data.Json
