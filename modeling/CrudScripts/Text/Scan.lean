import CrudScripts.Text.Blank
import CrudScripts.Text.Letter

/-!
Joining texts with a separator, cutting a text at every occurrence of a character, and scanning
steps over a text. A step reads the front of a text and returns what is left, or fails; `firstMatch`
runs a step at the leftmost place where it succeeds. Every step here takes the longest run of its
class, so a text has one reading.
-/
namespace CrudScripts.Text

/-- The texts in order, with a separator between each two. -/
def join (separator : String) : List String → String
  | [] => ""
  | [s] => s
  | s :: t :: rest => s ++ separator ++ join separator (t :: rest)

/-- The pieces between the occurrences of a character; a text without it is one piece. -/
def cut (separator : Char) : List Char → List (List Char)
  | [] => [[]]
  | c :: s =>
    if c = separator then [] :: cut separator s
    else match cut separator s with
      | [] => [[c]]
      | piece :: rest => (c :: piece) :: rest

/-- The text after a keyword in any case, given by its capital letters. -/
def dropKeyword : List Char → List Char → Option (List Char)
  | [], s => some s
  | _ :: _, [] => none
  | k :: word, c :: s => if keyLetter c = k then dropKeyword word s else none

/-- The text after one or more blanks. -/
def dropBlanks : List Char → Option (List Char)
  | [] => none
  | c :: s => if isBlank c then some (s.dropWhile isBlank) else none

/-- The text after two keywords with blanks between them. -/
def dropKeywords (first second : String) (s : List Char) : Option (List Char) := do
  dropKeyword second.toList (← dropBlanks (← dropKeyword first.toList s))

/-- The longest nonempty run of a class at the front, and the text after it. -/
def takeRun (p : Char → Bool) (s : List Char) : Option (List Char × List Char) :=
  if (s.takeWhile p).isEmpty then none else some (s.takeWhile p, s.dropWhile p)

/-- The result of a step at the leftmost place where it succeeds. -/
def firstMatch {α : Type} (step : List Char → Option α) : List Char → Option α
  | [] => step []
  | c :: s => match step (c :: s) with
    | some a => some a
    | none => firstMatch step s

/-- Whether a step succeeds anywhere in a text. -/
def occurs {α : Type} (step : List Char → Option α) (s : List Char) : Bool :=
  (firstMatch step s).isSome

/-- The text of a parenthesised group at the front, from an opening parenthesis to the first
    closing one, with at least one character between them; and the text after it. -/
def takeGroup : List Char → Option (List Char × List Char)
  | '(' :: s => match takeRun (· != ')') s with
    | some (inside, ')' :: rest) => some (inside, rest)
    | _ => none
  | _ => none

/-- Whether one text occurs in another, letter by letter. -/
def contains (part : String) (s : String) : Bool :=
  occurs (fun rest => if part.toList.isPrefixOf rest then some () else none) s.toList

end CrudScripts.Text
