import CrudScripts.Proofs.Text.Scanning
import CrudScripts.Text.Alphanumeric

/-!
The free choices in a written text: how many blanks of which kind stand somewhere (`Blanks`, `Gap`), and
in which case a keyword is spelled (`Keyword`, `KeywordPair`). A choice carries the proof that it is one, so
a text that is put together from choices is well formed.
-/
namespace CrudScripts.Text

/-- Any blanks, or none. -/
structure Blanks where
  text : List Char
  blank : ∀ c ∈ text, isBlank c = true

/-- Blanks between two words. -/
structure Gap extends Blanks where
  nonempty : text ≠ []

/-- A name or a type word: ASCII letters, digits and underscores. -/
structure Word where
  text : List Char
  nonempty : text ≠ []
  word : ∀ c ∈ text, isWord c = true

/-- A keyword, each letter in one of its two cases. -/
structure Keyword (word : String) where
  text : List Char
  spelled : text.map Char.toUpper = word.toList
  capitals : Capitals word.toList
  known : word ≠ ""

structure KeywordPair (first second : String) where
  one : Keyword first
  gap : Gap
  two : Keyword second

/-- Tokens with a gap before each of them. -/
def rowText (row : List (Gap × List Char)) : List Char := row.flatMap fun piece => piece.1.text ++ piece.2

@[simp] theorem rowText_nil : rowText [] = [] := rfl

@[simp] theorem rowText_cons (gap : Gap) (token : List Char) (row : List (Gap × List Char)) :
    rowText ((gap, token) :: row) = gap.text ++ (token ++ rowText row) := by
  simp [rowText]

/-- A letter of a keyword in the case it has there is a letter of the keyword for every reader. -/
theorem keyLetter_of_toUpper {c k : Char} (letter : c.toUpper = k) (capital : (k.isUpper || k == '_') = true) :
    keyLetter c = k := by
  subst letter
  unfold keyLetter
  split
  · rename_i special
    rcases special with rfl | rfl <;> exact absurd capital (by decide)
  · split
    · rename_i special
      exact absurd capital (by rw [special]; decide)
    · split
      · rename_i special
        exact absurd capital (by rw [special]; decide)
      · rfl

theorem isWord_of_toUpper {c k : Char} (letter : c.toUpper = k) (capital : (k.isUpper || k == '_') = true) :
    isWord c = true := by
  by_cases small : c.isLower = true
  · simp [isWord, Char.isAlphanum, isAlpha_eq, small]
  · rw [← letter, toUpper_of_not_isLower small, Bool.or_eq_true] at capital
    rcases capital with large | underscore
    · simp [isWord, Char.isAlphanum, isAlpha_eq, large]
    · simp [isWord, underscore]

theorem map_keyLetter_of_map_toUpper {s word : List Char} (capitals : Capitals word)
    (spelled : s.map Char.toUpper = word) : s.map keyLetter = word := by
  subst spelled
  refine List.map_congr_left fun c member => keyLetter_of_toUpper rfl (capitals _ ?_)
  exact List.mem_map_of_mem member

/-- The letters of a keyword in the eyes of its readers, who know more spellings of a letter than its two
    ASCII cases. -/
def Spells (word : String) (s : List Char) : Prop := s.map keyLetter = word.toList

theorem Spells.isKeyLetter_of_mem {word : String} {s : List Char} (spelled : Spells word s)
    (capitals : Capitals word.toList) {c : Char} (member : c ∈ s) : isKeyLetter c = true := by
  have letter : keyLetter c ∈ word.toList := by
    rw [← spelled]
    exact List.mem_map_of_mem member
  exact capitals _ letter

theorem Spells.isBlank_of_mem {word : String} {s : List Char} (spelled : Spells word s)
    (capitals : Capitals word.toList) {c : Char} (member : c ∈ s) : isBlank c = false := by
  rw [Bool.eq_false_iff]
  intro blank
  have known := spelled.isKeyLetter_of_mem capitals member
  simp [isKeyLetter_of_isBlank blank] at known

theorem Spells.ne_nil {word : String} {s : List Char} (spelled : Spells word s) (nonempty : word ≠ "") : s ≠ [] := by
  rintro rfl
  exact nonempty (by simpa [Spells] using spelled.symm)

theorem Spells.stops_isBlank {word : String} {s : List Char} (spelled : Spells word s)
    (capitals : Capitals word.toList) (nonempty : word ≠ "") (rest : List Char) : Stops isBlank (s ++ rest) :=
  (stops_append (spelled.ne_nil nonempty) rest).mpr fun _ first =>
    spelled.isBlank_of_mem capitals (List.mem_of_mem_head? first)

/-! ### Words -/

theorem isBlank_of_isWord {c : Char} (word : isWord c = true) : isBlank c = false := by
  rw [Bool.eq_false_iff]
  intro blank
  simp only [isBlank, Bool.or_eq_true, Bool.and_eq_true, decide_eq_true_eq, beq_iff_eq] at blank
  rw [isWord, Bool.or_eq_true, isAlphanum_iff, beq_iff_eq] at word
  rcases word with inside | rfl
  · omega
  · simp at blank

theorem isWord_of_isBlank {c : Char} (blank : isBlank c = true) : isWord c = false := by
  rw [Bool.eq_false_iff]
  intro word
  exact absurd blank (by simp [isBlank_of_isWord word])

theorem continuesWord_of_isBlank {c : Char} (blank : isBlank c = true) : continuesWord c = false := by
  have underscore : c ≠ '_' := by
    rintro rfl
    exact absurd blank (by decide)
  have plain : isAlphanumeric c = false := by
    unfold isAlphanumeric
    split
    · rw [Bool.eq_false_iff]
      intro letter
      exact absurd blank (by simp [isBlank_of_isWord (c := c) (by simp [isWord, letter])])
    · rename_i wide
      have none : ∀ n ∈ [0x85, 0xA0, 0x1680, 0x2000, 0x2001, 0x2002, 0x2003, 0x2004, 0x2005, 0x2006, 0x2007, 0x2008,
          0x2009, 0x200A, 0x2028, 0x2029, 0x202F, 0x205F, 0x3000], inRanges alphanumericRanges n = false := by
        decide +kernel
      refine none c.toNat ?_
      simp only [isBlank, Bool.or_eq_true, Bool.and_eq_true, decide_eq_true_eq, beq_iff_eq] at blank
      simp only [List.mem_cons, List.not_mem_nil]
      omega
  simp [continuesWord, underscore, plain]

theorem ne_of_isWord {c d : Char} (word : isWord c = true) (other : isWord d = false) : c ≠ d := by
  rintro rfl
  exact absurd word (by simp [other])

/-- A keyword sees a character of a word as its capital. -/
theorem keyLetter_of_isWord {c : Char} (word : isWord c = true) : keyLetter c = c.toUpper := by
  have dotted := ne_of_isWord word (d := '\u0130') (by decide)
  have dotless := ne_of_isWord word (d := '\u0131') (by decide)
  have long := ne_of_isWord word (d := '\u017F') (by decide)
  have kelvin := ne_of_isWord word (d := '\u212A') (by decide)
  simp [keyLetter, dotted, dotless, long, kelvin]

namespace Word

variable (name : Word)

theorem solid {c : Char} (member : c ∈ name.text) : isBlank c = false := isBlank_of_isWord (name.word c member)

theorem stops_isBlank (rest : List Char) : Stops isBlank (name.text ++ rest) :=
  (stops_append name.nonempty rest).mpr fun _ first => name.solid (List.mem_of_mem_head? first)

theorem map_keyLetter : name.text.map keyLetter = name.text.map Char.toUpper :=
  List.map_congr_left fun c member => keyLetter_of_isWord (name.word c member)

end Word

theorem trimmed_of_solid {s : List Char} (solid : ∀ c ∈ s, isBlank c = false) : Trimmed s := by
  constructor
  · intro c first
    exact solid c (List.mem_of_mem_head? first)
  · intro c last
    exact solid c (List.mem_reverse.mp (List.mem_of_mem_head? last))

namespace Keyword

variable {word : String} (keyword : Keyword word)

theorem spells : Spells word keyword.text := map_keyLetter_of_map_toUpper keyword.capitals keyword.spelled

theorem ne_nil : keyword.text ≠ [] := keyword.spells.ne_nil keyword.known

theorem isKeyLetter_of_mem {c : Char} (member : c ∈ keyword.text) : isKeyLetter c = true :=
  keyword.spells.isKeyLetter_of_mem keyword.capitals member

theorem solid {c : Char} (member : c ∈ keyword.text) : isBlank c = false :=
  keyword.spells.isBlank_of_mem keyword.capitals member

theorem stops_isBlank (rest : List Char) : Stops isBlank (keyword.text ++ rest) :=
  keyword.spells.stops_isBlank keyword.capitals keyword.known rest

theorem trimmed : Trimmed keyword.text := trimmed_of_solid fun _ member => keyword.solid member

def toWord : Word where
  text := keyword.text
  nonempty := keyword.ne_nil
  word c member := by
    have letter : c.toUpper ∈ word.toList := by
      rw [← keyword.spelled]
      exact List.mem_map_of_mem member
    exact isWord_of_toUpper rfl (keyword.capitals _ letter)

end Keyword

namespace KeywordPair

variable {first second : String} (pair : KeywordPair first second)

def text : List Char := pair.one.text ++ (pair.gap.text ++ pair.two.text)

theorem text_append (rest : List Char) :
    pair.text ++ rest = pair.one.text ++ (pair.gap.text ++ (pair.two.text ++ rest)) := by simp [text]

theorem ne_nil : pair.text ≠ [] := List.append_ne_nil_of_left_ne_nil pair.one.ne_nil _

theorem stops_isBlank (rest : List Char) : Stops isBlank (pair.text ++ rest) := by
  rw [text_append]
  exact pair.one.stops_isBlank _

theorem trimmed : Trimmed pair.text := by
  constructor
  · exact pair.one.stops_isBlank _
  · rw [text, ← List.append_assoc]
    exact (stops_reverse_append pair.two.ne_nil _).mpr pair.two.trimmed.2

end KeywordPair

namespace Gap

variable (gap : Gap)

theorem dropBlanks_append {s : List Char} (stops : Stops isBlank s) : dropBlanks (gap.text ++ s) = some s :=
  (dropBlanks_eq_some_iff _ s).mpr ⟨gap.text, rfl, gap.nonempty, gap.blank, stops⟩

theorem stops_isWord (s : List Char) : Stops isWord (gap.text ++ s) :=
  (stops_append gap.nonempty s).mpr fun c first => isWord_of_isBlank (gap.blank c (List.mem_of_mem_head? first))

end Gap

/-- A class without blanks does not go on through blanks when it does not behind them. -/
theorem Blanks.stops_text_append {p : Char → Bool} (other : ∀ c, isBlank c = true → p c = false) (blanks : Blanks)
    {s : List Char} (stops : Stops p s) : Stops p (blanks.text ++ s) :=
  Stops.append (fun c first => other c (blanks.blank c (List.mem_of_mem_head? first))) stops

/-- The front of a text before its first gap is determined. -/
theorem solid_front_unique {a b s t : List Char} {gap gap' : Gap} (solid : ∀ c ∈ a, isBlank c = false)
    (solid' : ∀ c ∈ b, isBlank c = false) (same : a ++ (gap.text ++ s) = b ++ (gap'.text ++ t)) : a = b := by
  have stops (gap : Gap) (s : List Char) : Stops (fun c => !isBlank c) (gap.text ++ s) :=
    (stops_append gap.nonempty s).mpr fun c first => by simp [gap.blank c (List.mem_of_mem_head? first)]
  have run {a : List Char} (solid : ∀ c ∈ a, isBlank c = false) : ∀ c ∈ a, (!isBlank c) = true :=
    fun c member => by simp [solid c member]
  exact (run_unique (run solid) (stops gap s) (run solid') (stops gap' t) same).1

/-- Stripping takes exactly the characters of a class around a text that has none at its ends. -/
theorem strip_append {p : Char → Bool} {before s after : List Char} (begins : Stops p s) (ends : Stops p s.reverse)
    (front : ∀ c ∈ before, p c = true) (rear : ∀ c ∈ after, p c = true) : strip p (before ++ (s ++ after)) = s := by
  unfold strip
  by_cases empty : s = []
  · subst empty
    have all : ∀ c ∈ before ++ ([] ++ after), p c = true := by
      intro c member
      rcases List.mem_append.mp member with left | right
      · exact front c left
      · exact rear c right
    rw [List.dropWhile_eq_nil_iff.mpr all]
    rfl
  · rw [dropWhile_append_stops front ((stops_append empty _).mpr begins), List.reverse_append,
      dropWhile_append_stops (fun c member => rear c (List.mem_reverse.mp member)) ends, List.reverse_reverse]

/-- Stripping takes characters of a class away on both sides. -/
theorem exists_strip (p : Char → Bool) (s : List Char) :
    ∃ before after, s = before ++ (strip p s ++ after) ∧ (∀ c ∈ before, p c = true) ∧ ∀ c ∈ after, p c = true := by
  refine ⟨s.takeWhile p, ((s.dropWhile p).reverse.takeWhile p).reverse, ?_, ?_, ?_⟩
  · rw [strip, ← List.reverse_append, List.takeWhile_append_dropWhile, List.reverse_reverse,
      List.takeWhile_append_dropWhile]
  · exact fun c member => List.mem_takeWhile_imp member
  · exact fun c member => List.mem_takeWhile_imp (List.mem_reverse.mp member)

theorem mem_of_mem_strip {p : Char → Bool} {s : List Char} {c : Char} (member : c ∈ strip p s) : c ∈ s := by
  rw [strip, List.mem_reverse] at member
  have front := List.dropWhile_subset p member
  rw [List.mem_reverse] at front
  exact List.dropWhile_subset p front

/-- Nothing of a class is left at the ends of a stripped text. -/
theorem stops_strip (p : Char → Bool) (s : List Char) : Stops p (strip p s) ∧ Stops p (strip p s).reverse := by
  constructor
  · by_cases empty : strip p s = []
    · simp [empty]
    · have front : strip p s <+: s.dropWhile p := by
        rw [strip, ← List.reverse_suffix, List.reverse_reverse]
        exact List.dropWhile_suffix p
      obtain ⟨after, split⟩ := front
      exact (stops_append empty after).mp (split ▸ stops_dropWhile p s)
  · rw [strip, List.reverse_reverse]
    exact stops_dropWhile p _

theorem trim_append {s : List Char} (trimmed : Trimmed s) (before after : Blanks) :
    trim (before.text ++ (s ++ after.text)) = s :=
  strip_append trimmed.1 trimmed.2 before.blank after.blank

end CrudScripts.Text
