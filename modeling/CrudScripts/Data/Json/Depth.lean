import CrudScripts.Data.Json.Reader

/-!
The depth of a JSON text: how many lists and objects stand inside each other at most. What stands
inside strings does not count. A text that is too deep is not read.
-/
namespace CrudScripts.Data.Json

/-- How deep lists and objects can stand inside each other. -/
def maxDepth : Nat := 980

/-- The characters outside strings, with the quotes around them. -/
def outsideStrings (inString : Bool) : List Char → List Char
  | [] => []
  | '\\' :: c :: s =>
    if inString then outsideStrings true s else '\\' :: outsideStrings false (c :: s)
  | c :: s =>
    if c = '"' then c :: outsideStrings (!inString) s
    else if inString then outsideStrings true s
    else c :: outsideStrings false s

/-- The greatest number of lists and objects that are open at one place, given how many are open
    and how many were. -/
def deepest (depth most : Nat) : List Char → Nat
  | [] => most
  | c :: s =>
    if c = '[' ∨ c = '\x7b' then deepest (depth + 1) (max most (depth + 1)) s
    else if c = ']' ∨ c = '\x7d' then deepest (depth - 1) most s
    else deepest depth most s

/-- Whether a text begins like a list or an object. -/
def beginsOpen (s : List Char) : Bool :=
  match skip s with
  | c :: _ => c == '[' || c == '\x7b'
  | [] => false

/-- Whether the lists and objects of a text stand too deep inside each other. -/
def isTooDeep (s : String) : Bool :=
  beginsOpen s.toList && decide (maxDepth < deepest 0 0 (outsideStrings false s.toList))

end CrudScripts.Data.Json
