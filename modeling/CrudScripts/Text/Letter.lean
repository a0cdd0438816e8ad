/-!
Letters without their case. Keywords are compared by `keyLetter`, which sends every spelling of an
ASCII letter to its capital: the small letter, the dotted capital and the dotless small i, the long
s and the kelvin sign. Names are compared by `lower`, and settings by `upper`; both change exactly
the characters whose other case is in ASCII letters, one or several, which decides every comparison
with an ASCII text.
-/
namespace CrudScripts.Text

/-- The capital ASCII letter that a keyword sees in a character, or the character itself. -/
def keyLetter (c : Char) : Char :=
  if c = '\u0130' ∨ c = '\u0131' then 'I'
  else if c = '\u017F' then 'S'
  else if c = '\u212A' then 'K'
  else c.toUpper

/-- The small letters of a character: the kelvin sign is a k, and the dotted capital i keeps its
    dot as a second character. -/
def lowerChar (c : Char) : List Char :=
  if c = '\u212A' then ['k']
  else if c = '\u0130' then ['i', '\u0307']
  else [c.toLower]

/-- A text in small letters. -/
def lower (s : String) : String := String.ofList (s.toList.flatMap lowerChar)

/-- The capital letters of a character: the dotless i, the long s, the sharp s and the ligatures of
    the Latin letters have ASCII capitals. -/
def upperChar (c : Char) : List Char :=
  if c = '\u0131' then ['I']
  else if c = '\u017F' then ['S']
  else if c = '\u00DF' then ['S', 'S']
  else if c = '\uFB00' then ['F', 'F']
  else if c = '\uFB01' then ['F', 'I']
  else if c = '\uFB02' then ['F', 'L']
  else if c = '\uFB03' then ['F', 'F', 'I']
  else if c = '\uFB04' then ['F', 'F', 'L']
  else if c = '\uFB05' ∨ c = '\uFB06' then ['S', 'T']
  else [c.toUpper]

/-- A text in capital letters. -/
def upper (s : String) : String := String.ofList (s.toList.flatMap upperChar)

/-- Whether a character is an ASCII letter, an ASCII digit or an underscore. -/
def isWord (c : Char) : Bool := c.isAlphanum || c == '_'

end CrudScripts.Text
