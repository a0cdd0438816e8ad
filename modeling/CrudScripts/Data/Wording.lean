import CrudScripts.Data.Value
import CrudScripts.Text.Printable
import CrudScripts.Text.Scan

/-!
The wording of a value inside a message. `Value.wording` writes a text as it is and everything else
by `Value.quoted`, which puts texts between quotes: single ones, unless the text holds a single
quote and no double one. A number has the fewest digits that tell it from every other one.

Not every value gets its wording: `Value.display` stops at a whole number with too many digits, and
where values stand too deep inside each other.
-/
namespace CrudScripts.Data
open CrudScripts.Text

/-- The lower-case hexadecimal digits of a number, padded with zeros to a width. -/
def hexDigits (width n : Nat) : List Char :=
  let digits := Nat.toDigits 16 n
  List.replicate (width - digits.length) '0' ++ digits

/-- Why a text has no bytes: the place of the lone halves of pairs of 16-bit units that it has
    first. No character is such a half, so `half?` says which ones stand for one. -/
def encodingFault? (half? : Char → Option Nat) (s : String) : Option String :=
  match s.toList.dropWhile fun c => (half? c).isNone with
  | [] => none
  | c :: rest =>
    let before := (s.toList.takeWhile fun c => (half? c).isNone).length
    let more := (rest.takeWhile fun d => (half? d).isSome).length
    let halves :=
      if more = 0 then
        "character '\\u" ++ String.ofList (hexDigits 4 ((half? c).getD 0)) ++ "' in position " ++
          toString before
      else "characters in position " ++ toString before ++ "-" ++ toString (before + more)
    some ("'utf-8' codec can't encode " ++ halves ++ ": surrogates not allowed")

/-- A character as it stands between quotes. -/
def quotedChar (quote c : Char) : List Char :=
  if c = quote ∨ c = '\\' then ['\\', c]
  else if c = '\n' then ['\\', 'n']
  else if c = '\r' then ['\\', 'r']
  else if c = '\t' then ['\\', 't']
  else if isPrintable c then [c]
  else if c.toNat < 0x100 then '\\' :: 'x' :: hexDigits 2 c.toNat
  else if c.toNat < 0x10000 then '\\' :: 'u' :: hexDigits 4 c.toNat
  else '\\' :: 'U' :: hexDigits 8 c.toNat

/-- A text between quotes. -/
def quotedText (s : String) : String :=
  let cs := s.toList
  let quote := if cs.contains '\'' && !cs.contains '"' then '"' else '\''
  String.ofList (quote :: cs.flatMap (quotedChar quote) ++ [quote])

/-- Bytes between quotes, every byte beyond ASCII by its number. -/
def quotedBytes (s : String) : String :=
  let cs := s.toUTF8.toList.map fun b => Char.ofNat b.toNat
  let quote := if cs.contains '\'' && !cs.contains '"' then '"' else '\''
  let char (c : Char) : List Char :=
    if 0x80 ≤ c.toNat then '\\' :: 'x' :: hexDigits 2 c.toNat else quotedChar quote c
  String.ofList ('b' :: quote :: cs.flatMap char ++ [quote])

/-- A decimal number: in positions when its leading digit stands between the fourth place after the
    point and the sixteenth before it, and otherwise with a signed exponent of at least two digits. -/
def Decimal.display (x : Decimal) : String :=
  let sign := if x.negative then "-" else ""
  let digits := Nat.toDigits 10 x.digits
  let leading : Int := x.exponent + digits.length - 1
  let zeros (n : Int) := List.replicate n.toNat '0'
  let body : List Char :=
    if x.digits = 0 then ['0', '.', '0']
    else if leading < -4 ∨ 16 ≤ leading then
      let mantissa := match digits with
        | d :: [] => [d]
        | d :: rest => d :: '.' :: rest
        | [] => []
      let magnitude := Nat.toDigits 10 leading.natAbs
      mantissa ++ ['e', if leading < 0 then '-' else '+'] ++
        List.replicate (2 - magnitude.length) '0' ++ magnitude
    else if 0 ≤ x.exponent then digits ++ zeros x.exponent ++ ['.', '0']
    else if 0 ≤ leading then
      digits.take (leading + 1).toNat ++ '.' :: digits.drop (leading + 1).toNat
    else '0' :: '.' :: zeros (-leading - 1) ++ digits
  sign ++ String.ofList body

/-- A number by the fewest digits that are read as it. -/
def Double.display : Double → String
  | .finite negative significand exponent =>
    Decimal.display { shortest significand exponent with negative }
  | .infinite negative => if negative then "-inf" else "inf"
  | .undefined => "nan"

namespace Value

/-- The name of a truth value. -/
def boolName (b : Bool) : String := if b then "True" else "False"

mutual

/-- A value with its texts between quotes. -/
def quoted : Value → String
  | .null => "None"
  | .bool b => boolName b
  | .int n => toString n
  | .real x => x.display
  | .text s => quotedText s
  | .bytes s => quotedBytes s
  | .list items => "[" ++ join ", " (quotedItems items) ++ "]"
  | .dict fields => "\x7b" ++ join ", " (quotedFields fields) ++ "\x7d"
termination_by structural v => v

/-- The wordings of the items of a list. -/
def quotedItems : List Value → List String
  | [] => []
  | v :: rest => v.quoted :: quotedItems rest
termination_by structural items => items

/-- The wordings of the fields of a dictionary. -/
def quotedFields : List (String × Value) → List String
  | [] => []
  | field :: rest => quotedField field :: quotedFields rest
termination_by structural fields => fields

/-- The wording of a field of a dictionary. -/
def quotedField : String × Value → String
  | (name, v) => quotedText name ++ ": " ++ v.quoted
termination_by structural field => field

end

/-- A value as a message shows it: a text as it is, everything else quoted. -/
def wording : Value → String
  | .text s => s
  | v => v.quoted

/-- The digits that a whole number can have in a wording. -/
def maxDigits : Nat := 4300

/-- The failure for a whole number with more digits. -/
def tooManyDigits : Failure :=
  .badValue ("Exceeds the limit (" ++ toString maxDigits ++ " digits) for integer string " ++
    "conversion; use sys.set_int_max_str_digits() to increase the limit")

mutual

/-- The first thing in a value that keeps it from being quoted, where so many values can stand
    inside each other. -/
def fault? : Value → Nat → Option Failure
  | _, 0 => some (.tooDeep "getting the repr of an object")
  | .int n, _ + 1 =>
    if maxDigits < (Nat.toDigits 10 n.natAbs).length then some tooManyDigits else none
  | .list items, room + 1 => itemsFault? items room
  | .dict fields, room + 1 => fieldsFault? fields room
  | _, _ + 1 => none
termination_by structural v => v

/-- The first thing in the items of a list that keeps them from being quoted. -/
def itemsFault? : List Value → Nat → Option Failure
  | [], _ => none
  | v :: rest, room => (v.fault? room).or (itemsFault? rest room)
termination_by structural items => items

/-- The first thing in the fields of a dictionary that keeps them from being quoted. -/
def fieldsFault? : List (String × Value) → Nat → Option Failure
  | [], _ => none
  | field :: rest, room => (fieldFault? field room).or (fieldsFault? rest room)
termination_by structural fields => fields

/-- What keeps a field of a dictionary from being quoted. -/
def fieldFault? : String × Value → Nat → Option Failure
  | (_, v), room => v.fault? room
termination_by structural field => field

end

/-- The wording of a value, where so many values can stand inside each other. -/
def display (v : Value) (room : Nat) : Except Failure String :=
  match v with
  | .text s => .ok s
  | v => match v.fault? room with
    | some failure => .error failure
    | none => .ok v.wording

end Value

end CrudScripts.Data
