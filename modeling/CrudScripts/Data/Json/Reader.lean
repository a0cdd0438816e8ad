import CrudScripts.Data.Fields
import CrudScripts.Data.Value

/-!
Reading JSON texts. `Json.read` gives the value of a text, with the fields of every object in the
order of the text; a repeated name keeps its first place and its last value. A text that is not
JSON, or that goes on after its value, has none. A number with a fraction or an exponent is read in
double precision, and the numbers that are not finite are read by their names.
-/
namespace CrudScripts.Data.Json

/-- Whether a character may stand between the tokens of a text. -/
def isSpace (c : Char) : Bool := c == ' ' || c == '\n' || c == '\r' || c == '\t'

/-- The text after the space at its front. -/
def skip (s : List Char) : List Char := s.dropWhile isSpace

/-- The value of a hexadecimal digit. -/
def hexValue? (c : Char) : Option Nat :=
  if c.isDigit then some (c.toNat - 48)
  else if 'a' ≤ c ∧ c ≤ 'f' then some (c.toNat - 87)
  else if 'A' ≤ c ∧ c ≤ 'F' then some (c.toNat - 55)
  else none

/-- The value of four hexadecimal digits. -/
def hexUnit? (a b c d : Char) : Option Nat := do
  return ((← hexValue? a) * 16 + (← hexValue? b)) * 256 + (← hexValue? c) * 16 + (← hexValue? d)

/-- The character of an escape of one letter. -/
def escaped? (c : Char) : Option Char :=
  match c with
  | '"' => some '"'
  | '\\' => some '\\'
  | '/' => some '/'
  | 'b' => some '\x08'
  | 'f' => some '\x0c'
  | 'n' => some '\n'
  | 'r' => some '\r'
  | 't' => some '\t'
  | _ => none

/-- The characters read so far, last first, once a leading half of a pair that found no other half
    is closed. -/
def settle (half : Nat → Char) (pending : Option Nat) (acc : List Char) : List Char :=
  match pending with
  | some n => half n :: acc
  | none => acc

/-- The contents of a string up to its closing quote, and the text after it. `pending` is the
    leading half of a pair of 16-bit units; a half without the other one is held as the character
    that `half` gives for it. -/
def readString (half : Nat → Char) (pending : Option Nat) (acc : List Char) :
    List Char → Option (String × List Char)
  | [] => none
  | '"' :: s => some (String.ofList (settle half pending acc).reverse, s)
  | '\\' :: 'u' :: a :: b :: c :: d :: s =>
    match hexUnit? a b c d with
    | none => none
    | some n =>
      if 0xD800 ≤ n ∧ n < 0xDC00 then readString half (some n) (settle half pending acc) s
      else if 0xDC00 ≤ n ∧ n < 0xE000 then
        match pending with
        | some high =>
          readString half none
            (Char.ofNat (0x10000 + (high - 0xD800) * 0x400 + (n - 0xDC00)) :: acc) s
        | none => readString half none (half n :: acc) s
      else readString half none (Char.ofNat n :: settle half pending acc) s
  | '\\' :: c :: s =>
    match escaped? c with
    | some e => readString half none (e :: settle half pending acc) s
    | none => none
  | c :: s =>
    if c.toNat < 32 then none else readString half none (c :: settle half pending acc) s

/-- A number with further digits written after its own. -/
def appendDigits (n : Nat) (s : List Char) : Nat := s.foldl (fun n c => n * 10 + (c.toNat - 48)) n

/-- A whole number at the front: a zero, or digits that do not start with one. -/
def readWhole (s : List Char) : Option (Nat × List Char) :=
  match s with
  | '0' :: rest => some (0, rest)
  | _ =>
    let digits := s.takeWhile Char.isDigit
    if digits.isEmpty then none else some (appendDigits 0 digits, s.dropWhile Char.isDigit)

/-- The fraction digits after a point, if there are any. -/
def readFraction (s : List Char) : List Char × List Char :=
  match s with
  | '.' :: rest =>
    let digits := rest.takeWhile Char.isDigit
    if digits.isEmpty then ([], s) else (digits, rest.dropWhile Char.isDigit)
  | _ => ([], s)

/-- The exponent after its mark, if there is one. -/
def readExponent (s : List Char) : Option Int × List Char :=
  match s with
  | c :: rest =>
    if c = 'e' ∨ c = 'E' then
      let signed : Bool × List Char := match rest with
        | '-' :: t => (true, t)
        | '+' :: t => (false, t)
        | t => (false, t)
      let digits := signed.2.takeWhile Char.isDigit
      if digits.isEmpty then (none, s)
      else
        let n : Int := appendDigits 0 digits
        (some (if signed.1 then -n else n), signed.2.dropWhile Char.isDigit)
    else (none, s)
  | [] => (none, s)

/-- A number at the front of a text, and the text after it. -/
def readNumber (s : List Char) : Option (Value × List Char) :=
  let signed : Bool × List Char := match s with
    | '-' :: t => (true, t)
    | t => (false, t)
  match readWhole signed.2 with
  | none => none
  | some (whole, rest) =>
    let (fraction, rest) := readFraction rest
    let (exponent, rest) := readExponent rest
    if fraction.isEmpty ∧ exponent.isNone then
      some (.int (if signed.1 then -(whole : Int) else whole), rest)
    else
      let digits := appendDigits whole fraction
      let x := Decimal.of signed.1 digits (exponent.getD 0 - fraction.length)
      some (.real (.ofDecimal x), rest)

/-- The names of the numbers that have no digits. -/
def namedNumbers : List (String × Double) :=
  [("NaN", .undefined), ("Infinity", .infinite false), ("-Infinity", .infinite true)]

/-- A number by name or by digits at the front of a text, and the text after it. -/
def readReal (s : List Char) : Option (Value × List Char) :=
  match namedNumbers.find? fun n => n.1.toList.isPrefixOf s with
  | some (name, x) => some (.real x, s.drop name.length)
  | none => readNumber s

section
variable (half : Nat → Char)

mutual

/-- A value at the front of a text, and the text after it. The steps bound the depth and the number
    of values. -/
def readValue : Nat → List Char → Option (Value × List Char)
  | 0, _ => none
  | steps + 1, s => match skip s with
    | '"' :: rest => (readString half none [] rest).map fun r => (.text r.1, r.2)
    | '[' :: rest => match skip rest with
      | ']' :: rest => some (.list [], rest)
      | rest => (readItems steps rest).map fun r => (.list r.1, r.2)
    | '\x7b' :: rest => match skip rest with
      | '\x7d' :: rest => some (.dict [], rest)
      | rest => (readFields steps rest).map fun r => (.dict (Fields.ofPairs r.1), r.2)
    | 'n' :: 'u' :: 'l' :: 'l' :: rest => some (.null, rest)
    | 't' :: 'r' :: 'u' :: 'e' :: rest => some (.bool true, rest)
    | 'f' :: 'a' :: 'l' :: 's' :: 'e' :: rest => some (.bool false, rest)
    | rest => readReal rest

/-- The items of a list up to its closing bracket. -/
def readItems : Nat → List Char → Option (List Value × List Char)
  | 0, _ => none
  | steps + 1, s => match readValue steps s with
    | none => none
    | some (v, rest) => match skip rest with
      | ',' :: rest => (readItems steps rest).map fun r => (v :: r.1, r.2)
      | ']' :: rest => some ([v], rest)
      | _ => none

/-- The fields of an object up to its closing brace. -/
def readFields : Nat → List Char → Option (List (String × Value) × List Char)
  | 0, _ => none
  | steps + 1, s => match skip s with
    | '"' :: rest => match readString half none [] rest with
      | none => none
      | some (name, rest) => match skip rest with
        | ':' :: rest => match readValue steps rest with
          | none => none
          | some (v, rest) => match skip rest with
            | ',' :: rest => (readFields steps rest).map fun r => ((name, v) :: r.1, r.2)
            | '\x7d' :: rest => some ([(name, v)], rest)
            | _ => none
        | _ => none
    | _ => none

end

/-- The value of a JSON text. Every step of a read takes a character, so twice the length of the
    text bounds the steps. -/
def read (s : String) : Option Value :=
  let cs := s.toList
  match readValue half (2 * cs.length + 2) cs with
  | some (v, rest) => if (skip rest).isEmpty then some v else none
  | none => none

end

end CrudScripts.Data.Json
