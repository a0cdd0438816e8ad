import CrudScripts.Proofs.Schema.Grammar
import CrudScripts.Proofs.Schema.Splitting
import Mathlib.Data.List.Infix

/-!
The modifiers of a column as they are written. Each is one keyword or two, in any case and with any gap
between two, and one of them has two numbers in parentheses. A row of modifiers says what its modifiers
say (`marksIdentity_tokens`, `forbidsNull_tokens`, `mentionsPrimaryKey_tokens`): no two keywords stand
across the gap between two modifiers.
-/
namespace CrudScripts.Schema
open CrudScripts.Text

structure Digits where
  text : List Char
  digits : ∀ c ∈ text, c.isDigit = true

inductive Modifier where
  | null (word : Keyword "NULL")
  | notNull (words : KeywordPair "NOT" "NULL")
  | identity (word : Keyword "IDENTITY") (seed step : Digits)
  | numbering {name : String} (known : name ∈ ["AUTO_INCREMENT", "AUTOINCREMENT", "SERIAL"]) (word : Keyword name)
  | primaryKey (words : KeywordPair "PRIMARY" "KEY")

namespace Modifier

def text : Modifier → List Char
  | null word => word.text
  | notNull words => words.text
  | identity word seed step => word.text ++ ('(' :: (seed.text ++ ',' :: step.text) ++ [')'])
  | numbering _ word => word.text
  | primaryKey words => words.text

def isNotNull : Modifier → Bool
  | notNull _ => true
  | _ => false

def isIdentity : Modifier → Bool
  | identity .. | numbering .. => true
  | _ => false

def isPrimaryKey : Modifier → Bool
  | primaryKey _ => true
  | _ => false

variable (modifier : Modifier)

private theorem solid_of_digits (digits : Digits) {c : Char} (member : c ∈ digits.text) : isBlank c = false := by
  have digit := digits.digits c member
  exact isBlank_of_isWord (by simp [isWord, Char.isAlphanum, digit])

private theorem plain_of_digits (digits : Digits) : ∀ c ∈ digits.text, c ≠ '(' ∧ c ≠ ')' := by
  intro c member
  obtain ⟨opening, closing, -⟩ := plain_of_class (by decide) (digits.digits c member)
  exact ⟨opening, closing⟩

private theorem solid_identity (word : Keyword "IDENTITY") (seed step : Digits) :
    ∀ c ∈ (Modifier.identity word seed step).text, isBlank c = false := by
  intro c member
  simp only [text, List.cons_append, List.append_assoc, List.mem_append, List.mem_cons, List.not_mem_nil,
    or_false] at member
  rcases member with letter | rfl | seed' | rfl | step' | rfl
  · exact word.solid letter
  · decide
  · exact solid_of_digits seed seed'
  · decide
  · exact solid_of_digits step step'
  · decide

theorem text_ne_nil : modifier.text ≠ [] := by
  cases modifier with
  | null word => exact word.ne_nil
  | notNull words => exact words.ne_nil
  | identity word seed step => simp [text]
  | numbering known word => exact word.ne_nil
  | primaryKey words => exact words.ne_nil

theorem trimmed_text : Trimmed modifier.text := by
  cases modifier with
  | null word => exact word.trimmed
  | notNull words => exact words.trimmed
  | identity word seed step => exact trimmed_of_solid (solid_identity word seed step)
  | numbering known word => exact word.trimmed
  | primaryKey words => exact words.trimmed

theorem whole_text : Whole modifier.text := by
  cases modifier with
  | null word => exact whole_of_keyword word
  | notNull words => exact whole_of_pair words
  | identity word seed step =>
    refine (whole_of_keyword word).append (whole_group fun c member => ?_)
    rcases List.mem_append.mp member with digit | rest
    · exact plain_of_digits seed c digit
    · rcases List.mem_cons.mp rest with rfl | digit
      · decide
      · exact plain_of_digits step c digit
  | numbering known word => exact whole_of_keyword word
  | primaryKey words => exact whole_of_pair words

/-! ### What a modifier says -/

private theorem marksIdentity_one {other : String} (keyword : Keyword other) :
    marksIdentity keyword.text = identityWords.any fun word => decide (word.toList <:+: other.toList) := by
  refine congrArg identityWords.any (funext fun word => ?_)
  rw [Bool.eq_iff_iff, occurs_keyword_iff, keyword.spells, decide_eq_true_iff]

private theorem marksIdentity_of_mem {word : String} (keyword : Keyword word) (member : word ∈ identityWords)
    (rest : List Char) : marksIdentity (keyword.text ++ rest) = true := by
  refine List.any_eq_true.mpr ⟨word, member, (occurs_keyword_iff _ _).mpr ?_⟩
  rw [List.map_append, keyword.spells]
  exact (List.prefix_append _ _).isInfix

/-- What stands before and behind a gap is searched apart for the words that make a column number itself. -/
theorem marksIdentity_gap (a : List Char) (gap : Gap) (b : List Char) :
    marksIdentity (a ++ (gap.text ++ b)) = (marksIdentity a || marksIdentity b) := by
  have apart : ∀ word ∈ identityWords, occurs (dropKeyword word.toList) (a ++ (gap.text ++ b)) =
      (occurs (dropKeyword word.toList) a || occurs (dropKeyword word.toList) b) := by
    intro word member
    have letters : ∀ word ∈ identityWords, Capitals word.toList ∧ word.toList ≠ [] := by decide
    exact occurs_keyword_gap (letters word member).1 (letters word member).2 a gap b
  rw [Bool.eq_iff_iff, Bool.or_eq_true, marksIdentity, marksIdentity, marksIdentity, List.any_eq_true, List.any_eq_true,
    List.any_eq_true]
  constructor
  · rintro ⟨word, member, found⟩
    rw [apart word member, Bool.or_eq_true] at found
    rcases found with left | right
    · exact .inl ⟨word, member, left⟩
    · exact .inr ⟨word, member, right⟩
  · rintro (⟨word, member, found⟩ | ⟨word, member, found⟩) <;>
      exact ⟨word, member, by simp [apart word member, found]⟩

private theorem marksIdentity_two {first second : String} (pair : KeywordPair first second) :
    marksIdentity pair.text = ((identityWords.any fun word => decide (word.toList <:+: first.toList)) ||
      identityWords.any fun word => decide (word.toList <:+: second.toList)) := by
  rw [KeywordPair.text, marksIdentity_gap, marksIdentity_one, marksIdentity_one]

theorem marksIdentity_text : marksIdentity modifier.text = modifier.isIdentity := by
  cases modifier with
  | null word => exact (marksIdentity_one word).trans (by change _ = false; decide +kernel)
  | notNull words => exact (marksIdentity_two words).trans (by change _ = false; decide +kernel)
  | identity word seed step => exact marksIdentity_of_mem word (by decide) _
  | numbering known word =>
    have listed := List.mem_cons_of_mem "IDENTITY" known
    have marked := marksIdentity_of_mem word listed []
    rwa [List.append_nil] at marked
  | primaryKey words => exact (marksIdentity_two words).trans (by change _ = false; decide +kernel)

theorem forbidsNull_text : forbidsNull modifier.text = modifier.isNotNull := by
  have alone {word : String} (keyword : Keyword word) : forbidsNull keyword.text = false :=
    occurs_keywords_of_solid "NOT" (by decide) (by decide) fun _ member => keyword.solid member
  have two {first second : String} (pair : KeywordPair first second) : forbidsNull pair.text =
      decide ("NOT".toList <:+ first.toList ∧ "NULL".toList <+: second.toList) :=
    occurs_keywords_pair (by decide) (by decide) (by decide) (by decide) pair
  cases modifier with
  | null word => exact alone word
  | notNull words => exact (two words).trans (by change _ = true; decide)
  | identity word seed step =>
    exact occurs_keywords_of_solid "NOT" (by decide) (by decide) (solid_identity word seed step)
  | numbering known word => exact alone word
  | primaryKey words => exact (two words).trans (by change _ = false; decide)

theorem mentionsPrimaryKey_text : mentionsPrimaryKey modifier.text = modifier.isPrimaryKey := by
  have alone {word : String} (keyword : Keyword word) : mentionsPrimaryKey keyword.text = false :=
    mentionsPrimaryKey_of_solid fun _ member => keyword.solid member
  have two {first second : String} (pair : KeywordPair first second) : mentionsPrimaryKey pair.text =
      decide ("PRIMARY".toList <:+ first.toList ∧ "KEY".toList <+: second.toList) :=
    occurs_keywords_pair (by decide) (by decide) (by decide) (by decide) pair
  cases modifier with
  | null word => exact alone word
  | notNull words => exact (two words).trans (by change _ = false; decide)
  | identity word seed step => exact mentionsPrimaryKey_of_solid (solid_identity word seed step)
  | numbering known word => exact alone word
  | primaryKey words => exact (two words).trans (by change _ = true; decide)

/-! ### Rows of modifiers -/

/-- No modifier begins with the second word of a key. -/
theorem not_prefix_text : ¬ "KEY".toList <+: modifier.text.map keyLetter := by
  have begins {word : String} (keyword : Keyword word) (long : "KEY".toList.length ≤ word.toList.length)
      (other : ¬ "KEY".toList <+: word.toList) (rest : List Char) :
      ¬ "KEY".toList <+: (keyword.text ++ rest).map keyLetter := by
    intro front
    rw [List.map_append, keyword.spells] at front
    exact other (List.prefix_of_prefix_length_le front (List.prefix_append _ _) long)
  have alone {word : String} (keyword : Keyword word) (other : ¬ "KEY".toList <+: word.toList) :
      ¬ "KEY".toList <+: keyword.text.map keyLetter := by
    rwa [keyword.spells]
  cases modifier with
  | null word => exact alone word (by decide)
  | notNull words => exact begins words.one (by decide) (by decide) _
  | identity word seed step => exact begins word (by decide) (by decide) _
  | numbering known word =>
    refine alone word ?_
    simp only [List.mem_cons, List.not_mem_nil, or_false] at known
    rcases known with rfl | rfl | rfl <;> decide
  | primaryKey words => exact begins words.one (by decide) (by decide) _

/-- No modifier ends with the first word of `NOT NULL`. -/
theorem not_suffix_text : ¬ "NOT".toList <:+ modifier.text.map keyLetter := by
  have ends {word : String} (keyword : Keyword word) (long : "NOT".toList.length ≤ word.toList.length)
      (other : ¬ "NOT".toList <:+ word.toList) (front : List Char) :
      ¬ "NOT".toList <:+ (front ++ keyword.text).map keyLetter := by
    intro last
    rw [List.map_append, keyword.spells] at last
    exact other (List.suffix_of_suffix_length_le last (List.suffix_append _ _) long)
  have alone {word : String} (keyword : Keyword word) (other : ¬ "NOT".toList <:+ word.toList) :
      ¬ "NOT".toList <:+ keyword.text.map keyLetter := by
    rwa [keyword.spells]
  cases modifier with
  | null word => exact alone word (by decide)
  | notNull words =>
    rw [text, KeywordPair.text, ← List.append_assoc]
    exact ends words.two (by decide) (by decide) _
  | identity word seed step =>
    intro last
    have closed : [keyLetter ')'] <:+ (Modifier.identity word seed step).text.map keyLetter := by
      rw [text, ← List.append_assoc, List.map_append]
      exact List.suffix_append _ _
    exact absurd (List.suffix_of_suffix_length_le closed last (by decide)) (by decide)
  | numbering known word =>
    refine alone word ?_
    simp only [List.mem_cons, List.not_mem_nil, or_false] at known
    rcases known with rfl | rfl | rfl <;> decide
  | primaryKey words =>
    rw [text, KeywordPair.text, ← List.append_assoc]
    exact ends words.two (by decide) (by decide) _

def tokens (modifiers : List (Gap × Modifier)) : List (Gap × List Char) :=
  modifiers.map fun modifier => (modifier.1, modifier.2.text)

variable (modifiers : List (Gap × Modifier))

theorem tokens_trimmed : ∀ piece ∈ tokens modifiers, piece.2 ≠ [] ∧ Trimmed piece.2 := by
  intro piece member
  obtain ⟨modifier, -, rfl⟩ := List.mem_map.mp member
  exact ⟨modifier.2.text_ne_nil, modifier.2.trimmed_text⟩

theorem whole_tokens : Whole (rowText (tokens modifiers)) := by
  induction modifiers with
  | nil => exact whole_nil
  | cons modifier modifiers ih =>
    rw [tokens, List.map_cons, rowText_cons]
    exact (whole_of_blanks modifier.1.toBlanks).append (modifier.2.whole_text.append ih)

/-- A row of modifiers has no blank at its end, nor has what it stands behind. -/
theorem stops_reverse_tokens {a : List Char} (solid : Stops isBlank a.reverse) :
    Stops isBlank (a ++ rowText (tokens modifiers)).reverse := by
  induction modifiers generalizing a with
  | nil => simpa [tokens] using solid
  | cons modifier modifiers ih =>
    have last : Stops isBlank (a ++ modifier.1.text ++ modifier.2.text).reverse :=
      (stops_reverse_append modifier.2.text_ne_nil _).mpr modifier.2.trimmed_text.2
    have tail := ih last
    rwa [tokens, List.map_cons, rowText_cons, ← List.append_assoc, ← List.append_assoc]

/-- The blanks before a row are dropped before its modifiers are read. -/
theorem dropWhile_tokens (gap : Gap) (modifier : Modifier) :
    (rowText (tokens ((gap, modifier) :: modifiers))).dropWhile isBlank =
      modifier.text ++ rowText (tokens modifiers) := by
  rw [tokens, List.map_cons, rowText_cons]
  exact dropWhile_append_stops gap.blank ((stops_append modifier.text_ne_nil _).mpr modifier.trimmed_text.1)

theorem marksIdentity_tokens :
    marksIdentity ((rowText (tokens modifiers)).dropWhile isBlank) =
      modifiers.any fun modifier => modifier.2.isIdentity := by
  have behind (a : List Char) (rest : List (Gap × Modifier)) : marksIdentity (a ++ rowText (tokens rest)) =
      (marksIdentity a || rest.any fun modifier => modifier.2.isIdentity) := by
    induction rest generalizing a with
    | nil => simp [tokens]
    | cons modifier rest ih =>
      rw [tokens, List.map_cons, rowText_cons, marksIdentity_gap]
      rw [tokens] at ih
      rw [ih, marksIdentity_text, List.any_cons]
  cases modifiers with
  | nil => rfl
  | cons modifier rest => rw [dropWhile_tokens, behind, marksIdentity_text, List.any_cons]

theorem forbidsNull_tokens :
    forbidsNull ((rowText (tokens modifiers)).dropWhile isBlank) =
      modifiers.any fun modifier => modifier.2.isNotNull := by
  cases modifiers with
  | nil => rfl
  | cons modifier rest =>
    have apart : ∀ piece ∈ tokens rest, "NULL".toList <+: piece.2.map keyLetter →
        ∀ token ∈ modifier.2.text :: (tokens rest).map (·.2), ¬ "NOT".toList <:+ token.map keyLetter := by
      intro _ _ _ token member
      rcases List.mem_cons.mp member with rfl | inside
      · exact modifier.2.not_suffix_text
      · simp only [tokens, List.map_map, List.mem_map, Function.comp_apply] at inside
        obtain ⟨other, -, rfl⟩ := inside
        exact other.2.not_suffix_text
    rw [dropWhile_tokens, forbidsNull, occurs_keywords_row (by decide) (by decide) (by decide)
      modifier.2.trimmed_text.2 _ (tokens_trimmed rest) apart, List.any_cons]
    simp only [tokens, List.any_map, Function.comp_def, ← forbidsNull_text, forbidsNull]

/-- No words of a key stand across two modifiers, or across the modifiers and what is before them. -/
theorem mentionsPrimaryKey_tokens {a : List Char} (solid : Stops isBlank a.reverse) :
    mentionsPrimaryKey (a ++ rowText (tokens modifiers)) =
      (mentionsPrimaryKey a || modifiers.any fun modifier => modifier.2.isPrimaryKey) := by
  have apart : ∀ piece ∈ tokens modifiers, "KEY".toList <+: piece.2.map keyLetter →
      ∀ token ∈ a :: (tokens modifiers).map (·.2), ¬ "PRIMARY".toList <:+ token.map keyLetter := by
    intro piece member begins
    obtain ⟨modifier, -, rfl⟩ := List.mem_map.mp member
    exact absurd begins modifier.2.not_prefix_text
  have row := occurs_keywords_row (by decide) (by decide) (by decide) solid _ (tokens_trimmed modifiers) apart
  refine row.trans ?_
  simp only [tokens, List.any_map, Function.comp_def, ← mentionsPrimaryKey_text]
  rfl

end Modifier

end CrudScripts.Schema
