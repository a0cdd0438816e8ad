/-!
Classes of characters, and trimming. A class beyond ASCII is given by ranges of code points. A blank
is a character of the white space property or one of the four separators U+001C to U+001F; `trim`
removes the blanks at both ends of a text, and `strip` does the same for any class of characters.
-/
namespace CrudScripts.Text

/-- Whether a code point lies in one of the closed ranges. -/
def inRanges (ranges : List (Nat × Nat)) (n : Nat) : Bool :=
  ranges.any fun r => r.1 ≤ n && n ≤ r.2

/-- Whether a character is a blank. -/
def isBlank (c : Char) : Bool :=
  let n := c.toNat
  (9 ≤ n && n ≤ 13) || (28 ≤ n && n ≤ 32) || n == 0x85 || n == 0xA0 || n == 0x1680 ||
    (0x2000 ≤ n && n ≤ 0x200A) || n == 0x2028 || n == 0x2029 || n == 0x202F || n == 0x205F ||
    n == 0x3000

/-- The text without the characters of a class at its ends. -/
def strip (p : Char → Bool) (s : List Char) : List Char :=
  ((s.dropWhile p).reverse.dropWhile p).reverse

/-- The text without the blanks at its ends. -/
def trim (s : List Char) : List Char := strip isBlank s

/-- Whether a text consists of blanks only. -/
def allBlank (s : List Char) : Bool := s.all isBlank

end CrudScripts.Text
