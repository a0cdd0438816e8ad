import CrudScripts.Text.Scan
import Mathlib.Data.List.TakeWhile

/-!
What the scanning steps read. Each step is described by the ways in which a text splits: a run takes
the longest front of its class (`takeRun_eq_some_iff`), blanks end where no blank follows
(`dropBlanks_eq_some_iff`), and a keyword is a front with its letters (`dropKeyword_eq_some_iff`).
A character that no keyword has, such as a blank or a parenthesis, stops every keyword, so what stands
behind it does not matter (`dropKeyword_append_stop`).
-/
namespace CrudScripts.Text

/-- A text that does not go on with a character of a class. -/
def Stops (p : Char → Bool) (s : List Char) : Prop := ∀ c ∈ s.head?, p c = false

@[simp] theorem stops_nil (p : Char → Bool) : Stops p [] := by simp [Stops]

@[simp] theorem stops_cons (p : Char → Bool) (c : Char) (s : List Char) : Stops p (c :: s) ↔ p c = false := by
  simp [Stops]

instance (p : Char → Bool) : (s : List Char) → Decidable (Stops p s)
  | [] => isTrue (stops_nil p)
  | c :: s => decidable_of_iff (p c = false) (stops_cons p c s).symm

theorem stops_append {p : Char → Bool} {s : List Char} (nonempty : s ≠ []) (t : List Char) :
    Stops p (s ++ t) ↔ Stops p s := by
  cases s with
  | nil => exact absurd rfl nonempty
  | cons c s => simp

theorem stops_reverse_append {p : Char → Bool} {t : List Char} (nonempty : t ≠ []) (s : List Char) :
    Stops p (s ++ t).reverse ↔ Stops p t.reverse := by
  rw [List.reverse_append]
  exact stops_append (by simpa using nonempty) _

theorem Stops.append {p : Char → Bool} {s t : List Char} (first : Stops p s) (rest : Stops p t) : Stops p (s ++ t) := by
  by_cases empty : s = []
  · rwa [empty, List.nil_append]
  · exact (stops_append empty t).mpr first

/-- A text without blanks at its ends. -/
def Trimmed (s : List Char) : Prop := Stops isBlank s ∧ Stops isBlank s.reverse

theorem Trimmed.append {s t : List Char} (first : Trimmed s) (rest : Trimmed t) : Trimmed (s ++ t) := by
  constructor
  · exact first.1.append rest.1
  · rw [List.reverse_append]
    exact rest.2.append first.2

/-! ### Runs -/

theorem takeWhile_append_stops {p : Char → Bool} {run rest : List Char} (all : ∀ c ∈ run, p c = true)
    (stops : Stops p rest) : (run ++ rest).takeWhile p = run := by
  rw [List.takeWhile_append_of_pos all]
  cases rest with
  | nil => simp
  | cons c rest => simp_all

theorem dropWhile_append_stops {p : Char → Bool} {run rest : List Char} (all : ∀ c ∈ run, p c = true)
    (stops : Stops p rest) : (run ++ rest).dropWhile p = rest := by
  rw [List.dropWhile_append_of_pos all]
  cases rest with
  | nil => rfl
  | cons c rest => simp_all

/-- A text begins with one run of a class that does not go on behind it. -/
theorem run_unique {p : Char → Bool} {run rest run' rest' : List Char} (all : ∀ c ∈ run, p c = true)
    (stops : Stops p rest) (all' : ∀ c ∈ run', p c = true) (stops' : Stops p rest')
    (same : run ++ rest = run' ++ rest') : run = run' ∧ rest = rest' := by
  constructor
  · rw [← takeWhile_append_stops all stops, same, takeWhile_append_stops all' stops']
  · rw [← dropWhile_append_stops all stops, same, dropWhile_append_stops all' stops']

theorem stops_dropWhile (p : Char → Bool) (s : List Char) : Stops p (s.dropWhile p) := by
  induction s with
  | nil => simp
  | cons c s ih =>
    by_cases holds : p c = true
    · simpa [List.dropWhile_cons, holds] using ih
    · simp [holds]

/-- A run of a class is a nonempty front of the class that the rest does not continue. -/
theorem takeRun_eq_some_iff (p : Char → Bool) (s run rest : List Char) :
    takeRun p s = some (run, rest) ↔
      s = run ++ rest ∧ run ≠ [] ∧ (∀ c ∈ run, p c = true) ∧ Stops p rest := by
  unfold takeRun
  constructor
  · intro taken
    split at taken
    · cases taken
    · rename_i front
      obtain ⟨rfl, rfl⟩ := Prod.mk.inj (Option.some.inj taken)
      refine ⟨(List.takeWhile_append_dropWhile).symm, by simpa using front, ?_, stops_dropWhile p s⟩
      exact fun c member => List.mem_takeWhile_imp member
  · rintro ⟨rfl, nonempty, all, stops⟩
    rw [takeWhile_append_stops all stops, dropWhile_append_stops all stops, if_neg (by simpa using nonempty)]

theorem takeRun_eq_none_iff (p : Char → Bool) (s : List Char) : takeRun p s = none ↔ Stops p s := by
  cases s with
  | nil => simp [takeRun]
  | cons c s =>
    by_cases holds : p c = true
    · simp [takeRun, holds]
    · simp [takeRun, holds]

theorem dropBlanks_eq_some_iff (s rest : List Char) :
    dropBlanks s = some rest ↔
      ∃ gap, s = gap ++ rest ∧ gap ≠ [] ∧ (∀ c ∈ gap, isBlank c = true) ∧ Stops isBlank rest := by
  cases s with
  | nil => simp [dropBlanks]
  | cons c s =>
    simp only [dropBlanks]
    constructor
    · intro dropped
      split at dropped
      · rename_i blank
        obtain rfl := Option.some.inj dropped
        refine ⟨c :: s.takeWhile isBlank, by simp, by simp, ?_, stops_dropWhile isBlank s⟩
        intro d member
        rcases List.mem_cons.mp member with rfl | inside
        · exact blank
        · exact List.mem_takeWhile_imp inside
      · cases dropped
    · rintro ⟨gap, split, nonempty, blank, stops⟩
      cases gap with
      | nil => exact absurd rfl nonempty
      | cons d gap =>
        obtain ⟨rfl, tail⟩ := List.cons.inj split
        have inside : ∀ d ∈ gap, isBlank d = true := fun d member => blank d (List.mem_cons_of_mem c member)
        rw [if_pos (blank c List.mem_cons_self), tail]
        exact congrArg some (dropWhile_append_stops inside stops)

theorem dropBlanks_eq_none_iff (s : List Char) : dropBlanks s = none ↔ Stops isBlank s := by
  cases s with
  | nil => simp [dropBlanks]
  | cons c s => by_cases blank : isBlank c = true <;> simp [dropBlanks, blank]

/-- A group is a parenthesis, a text without a closing one, and a closing one. -/
theorem takeGroup_eq_some_iff (s inside rest : List Char) :
    takeGroup s = some (inside, rest) ↔ s = '(' :: inside ++ ')' :: rest ∧ inside ≠ [] ∧ ')' ∉ inside := by
  unfold takeGroup
  constructor
  · intro taken
    split at taken
    · rename_i s
      split at taken
      · rename_i front after run
        obtain ⟨rfl, rfl⟩ := Prod.mk.inj (Option.some.inj taken)
        obtain ⟨rfl, nonempty, open', -⟩ := (takeRun_eq_some_iff _ _ _ _).mp run
        refine ⟨by simp, nonempty, fun member => ?_⟩
        simpa using open' ')' member
      · cases taken
    · cases taken
  · rintro ⟨rfl, nonempty, absent⟩
    have run : takeRun (· != ')') (inside ++ ')' :: rest) = some (inside, ')' :: rest) := by
      refine (takeRun_eq_some_iff _ _ _ _).mpr ⟨rfl, nonempty, fun c member => ?_, by simp⟩
      have other : c ≠ ')' := fun same => absent (same ▸ member)
      simpa using other
    simp [run]

/-- A parenthesis that is closed somewhere opens a group unless it is closed at once. -/
theorem takeGroup_cons_eq_none_iff {s : List Char} (closed : ')' ∈ s) :
    takeGroup ('(' :: s) = none ↔ s.head? = some ')' := by
  obtain ⟨inside, rest, rfl, free⟩ := List.eq_append_cons_of_mem closed
  cases inside with
  | nil => simp [takeGroup, takeRun]
  | cons c inside =>
    have group := (takeGroup_eq_some_iff ('(' :: (c :: inside ++ ')' :: rest)) _ _).mpr ⟨rfl, by simp, free⟩
    rw [group]
    have other : c ≠ ')' := fun same => free (by simp [same])
    simp [other]

theorem takeGroup_of_not_mem {front : List Char} (absent : '(' ∉ front) :
    ∀ c ∈ front, ∀ s, takeGroup (c :: s) = none := by
  intro c member s
  have other : c ≠ '(' := fun same => absent (same ▸ member)
  simp [takeGroup, other]

/-! ### Letters -/

theorem isLower_iff (c : Char) : c.isLower = true ↔ 97 ≤ c.toNat ∧ c.toNat ≤ 122 := by
  change (decide ('a'.val ≤ c.val) && decide (c.val ≤ 'z'.val)) = true ↔ _
  rw [Bool.and_eq_true, decide_eq_true_eq, decide_eq_true_eq]
  exact Iff.rfl

theorem isUpper_iff (c : Char) : c.isUpper = true ↔ 65 ≤ c.toNat ∧ c.toNat ≤ 90 := by
  change decide ('A'.val ≤ c.val ∧ c.val ≤ 'Z'.val) = true ↔ _
  rw [decide_eq_true_eq]
  exact Iff.rfl

theorem isDigit_iff (c : Char) : c.isDigit = true ↔ 48 ≤ c.toNat ∧ c.toNat ≤ 57 := by
  change (decide ('0'.val ≤ c.val) && decide (c.val ≤ '9'.val)) = true ↔ _
  rw [Bool.and_eq_true, decide_eq_true_eq, decide_eq_true_eq]
  exact Iff.rfl

theorem isAlpha_eq (c : Char) : c.isAlpha = (c.isUpper || c.isLower) := rfl

theorem isAlphanum_iff (c : Char) : c.isAlphanum = true ↔
    ((65 ≤ c.toNat ∧ c.toNat ≤ 90) ∨ 97 ≤ c.toNat ∧ c.toNat ≤ 122) ∨ 48 ≤ c.toNat ∧ c.toNat ≤ 57 := by
  rw [← isUpper_iff, ← isLower_iff, ← isDigit_iff, ← Bool.or_eq_true, ← Bool.or_eq_true]
  rfl

theorem toUpper_of_not_isLower {c : Char} (other : ¬ c.isLower = true) : c.toUpper = c :=
  dif_neg fun inside => other ((isLower_iff c).mpr inside)

theorem isDigit_of_mem_toString {n : Nat} {c : Char} (member : c ∈ (toString n).toList) : c.isDigit = true := by
  rw [Nat.toString_eq_repr, Nat.toList_repr] at member
  exact Nat.isDigit_of_mem_toDigits (by decide) (by decide) member

theorem toString_inj {m n : Nat} : toString m = toString n ↔ m = n := by
  constructor
  · intro same
    have digits := congrArg String.toList same
    simp only [Nat.toString_eq_repr, Nat.toList_repr] at digits
    have numbers := congrArg (Nat.ofDigitChars 10 · 0) digits
    simpa only [Nat.ofDigitChars_ten_toDigits] using numbers
  · exact congrArg toString

/-! ### Keywords -/

/-- Whether a character is the letter of a keyword in some case. -/
def isKeyLetter (c : Char) : Bool := (keyLetter c).isUpper || keyLetter c == '_'

/-- Letters as keywords have them: capital ASCII letters and underscores. -/
def Capitals (word : List Char) : Prop := ∀ k ∈ word, (k.isUpper || k == '_') = true

instance (word : List Char) : Decidable (Capitals word) := List.decidableBAll _ word

theorem dropKeyword_eq_some_iff (word s rest : List Char) :
    dropKeyword word s = some rest ↔ ∃ front, s = front ++ rest ∧ front.map keyLetter = word := by
  induction word generalizing s with
  | nil =>
    simp only [dropKeyword, Option.some.injEq, List.map_eq_nil_iff]
    constructor
    · rintro rfl; exact ⟨[], rfl, rfl⟩
    · rintro ⟨front, rfl, rfl⟩; rfl
  | cons k word ih =>
    cases s with
    | nil =>
      simp only [dropKeyword, reduceCtorEq, false_iff]
      rintro ⟨front, empty, spelled⟩
      simp [(List.append_eq_nil_iff.mp empty.symm).1] at spelled
    | cons c s =>
      simp only [dropKeyword]
      constructor
      · intro dropped
        split at dropped
        · rename_i letter
          obtain ⟨front, rfl, spelled⟩ := (ih s).mp dropped
          exact ⟨c :: front, rfl, by simp [letter, spelled]⟩
        · cases dropped
      · rintro ⟨front, split, spelled⟩
        cases front with
        | nil => simp at spelled
        | cons d front =>
          obtain ⟨rfl, rfl⟩ := List.cons.inj split
          obtain ⟨letter, spelled⟩ := List.cons.inj spelled
          rw [if_pos letter]
          exact (ih _).mpr ⟨front, rfl, spelled⟩

theorem isSome_dropKeyword_iff (word s : List Char) :
    (dropKeyword word s).isSome = true ↔ word <+: s.map keyLetter := by
  rw [Option.isSome_iff_exists]
  constructor
  · rintro ⟨rest, dropped⟩
    obtain ⟨front, rfl, rfl⟩ := (dropKeyword_eq_some_iff word s rest).mp dropped
    simp
  · rintro ⟨after, spelled⟩
    obtain ⟨front, rest, rfl, rfl, -⟩ := List.map_eq_append_iff.mp spelled.symm
    exact ⟨rest, (dropKeyword_eq_some_iff _ _ rest).mpr ⟨front, rfl, rfl⟩⟩

/-- A character that no keyword has stops a keyword, whatever stands behind it. -/
theorem dropKeyword_append_stop {word : List Char} (capitals : Capitals word) {c : Char}
    (stop : isKeyLetter c = false) (a b : List Char) :
    dropKeyword word (a ++ c :: b) = (dropKeyword word a).map (· ++ c :: b) := by
  induction word generalizing a with
  | nil => simp [dropKeyword]
  | cons k word ih =>
    cases a with
    | nil =>
      have other : keyLetter c ≠ k := by
        rintro rfl
        exact absurd (capitals _ List.mem_cons_self) (by simpa [isKeyLetter] using stop)
      simp [dropKeyword, other]
    | cons d a =>
      have tail : Capitals word := fun k member => capitals k (List.mem_cons_of_mem _ member)
      simp only [List.cons_append, dropKeyword, ih tail]
      split <;> rfl

theorem isKeyLetter_of_isBlank {c : Char} (blank : isBlank c = true) : isKeyLetter c = false := by
  have code := blank
  simp only [isBlank, Bool.or_eq_true, Bool.and_eq_true, decide_eq_true_eq, beq_iff_eq] at code
  have plain : c.isAlpha = false := by
    rw [Bool.eq_false_iff]
    intro letter
    rw [isAlpha_eq, Bool.or_eq_true, isUpper_iff, isLower_iff] at letter
    omega
  have unlike (d : Char) (other : c.toNat ≠ d.toNat) : c ≠ d := fun same => other (congrArg Char.toNat same)
  have letter : keyLetter c = c.toUpper := by
    have dotted : c ≠ '\u0130' := unlike _ (by simp; omega)
    have dotless : c ≠ '\u0131' := unlike _ (by simp; omega)
    have long : c ≠ '\u017F' := unlike _ (by simp; omega)
    have kelvin : c ≠ '\u212A' := unlike _ (by simp; omega)
    simp [keyLetter, dotted, dotless, long, kelvin]
  rw [isAlpha_eq, Bool.or_eq_false_iff] at plain
  obtain ⟨large, small⟩ := plain
  have underscore : c ≠ '_' := unlike _ (by simp; omega)
  rw [isKeyLetter, letter, toUpper_of_not_isLower (by simp [small]), large]
  simpa using underscore

end CrudScripts.Text
