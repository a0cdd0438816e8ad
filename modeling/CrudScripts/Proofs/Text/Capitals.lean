import CrudScripts.Proofs.Text.Occurrence
import CrudScripts.Text.Scan

/-!
Texts in capitals. The classes of characters and the letters of keywords do not tell the two cases of an ASCII letter
apart (`IgnoresCase`), so a scanning step reads a text in capitals as it reads the text itself, and what it takes and
leaves is in capitals (`ReadsCapitals`).
-/
namespace CrudScripts.Text

/-- A text with its ASCII letters in capitals, and every other character as it is. -/
def capitals (s : List Char) : List Char := s.map Char.toUpper

@[simp] theorem capitals_nil : capitals [] = [] := rfl

@[simp] theorem capitals_cons (c : Char) (s : List Char) : capitals (c :: s) = c.toUpper :: capitals s := rfl

@[simp] theorem capitals_append (a b : List Char) : capitals (a ++ b) = capitals a ++ capitals b := List.map_append

@[simp] theorem capitals_reverse (s : List Char) : capitals s.reverse = (capitals s).reverse := List.map_reverse

@[simp] theorem capitals_drop (n : Nat) (s : List Char) : capitals (s.drop n) = (capitals s).drop n := List.map_drop

@[simp] theorem isEmpty_capitals (s : List Char) : (capitals s).isEmpty = s.isEmpty := List.isEmpty_map

theorem capitals_eq_nil_iff (s : List Char) : capitals s = [] ↔ s = [] := List.map_eq_nil_iff

theorem toList_toUpper (s : String) : s.toUpper.toList = capitals s.toList := String.toList_map

theorem ofList_capitals (s : List Char) : String.ofList (capitals s) = (String.ofList s).toUpper := by
  rw [← String.toList_inj, toList_toUpper, String.toList_ofList, String.toList_ofList]

/-! ### Characters -/

/-- A function of characters that does not tell the two cases of an ASCII letter apart. -/
def IgnoresCase {α : Type} (f : Char → α) : Prop := ∀ c, f c.toUpper = f c

/-- Only the twenty-six small letters need a look. -/
theorem ignoresCase_of_letters {α : Type} {f : Char → α}
    (letters : ∀ n < 26, f (Char.ofNat (97 + n)).toUpper = f (Char.ofNat (97 + n))) : IgnoresCase f := by
  intro c
  by_cases small : c.isLower = true
  · rw [isLower_iff] at small
    have letter := letters (c.toNat - 97) (by omega)
    rwa [show 97 + (c.toNat - 97) = c.toNat by omega, Char.ofNat_toNat] at letter
  · rw [toUpper_of_not_isLower small]

theorem ignoresCase_isBlank : IgnoresCase isBlank := ignoresCase_of_letters (by decide)

theorem ignoresCase_isWord : IgnoresCase isWord := ignoresCase_of_letters (by decide)

theorem ignoresCase_keyLetter : IgnoresCase keyLetter := ignoresCase_of_letters (by decide)

theorem ignoresCase_lowerChar : IgnoresCase lowerChar := ignoresCase_of_letters (by decide)

theorem ignoresCase_continuesWord : IgnoresCase continuesWord := ignoresCase_of_letters (by decide)

theorem ignoresCase_isAlpha : IgnoresCase Char.isAlpha := ignoresCase_of_letters (by decide)

/-- A character that is no letter is neither made nor changed. -/
theorem toUpper_eq_iff {d : Char} (caseless : d.isAlpha = false) (c : Char) : c.toUpper = d ↔ c = d := by
  have kept (plain : c.isAlpha = false) : c.toUpper = c :=
    toUpper_of_not_isLower fun small => by simp [isAlpha_eq, small] at plain
  constructor
  · rintro rfl
    rw [ignoresCase_isAlpha c] at caseless
    exact (kept caseless).symm
  · rintro rfl
    exact kept caseless

theorem ignoresCase_beq {d : Char} (caseless : d.isAlpha = false) : IgnoresCase (· == d) := fun c => by
  rw [Bool.eq_iff_iff, beq_iff_eq, beq_iff_eq]
  exact toUpper_eq_iff caseless c

theorem ignoresCase_bne {d : Char} (caseless : d.isAlpha = false) : IgnoresCase (· != d) := fun c =>
  congrArg not (ignoresCase_beq caseless c)

/-! ### Runs -/

section
variable {p : Char → Bool} (ignores : IgnoresCase p) (s : List Char)
include ignores

theorem takeWhile_capitals : (capitals s).takeWhile p = capitals (s.takeWhile p) := by
  rw [capitals, List.takeWhile_map, show p ∘ Char.toUpper = p from funext ignores]
  rfl

theorem dropWhile_capitals : (capitals s).dropWhile p = capitals (s.dropWhile p) := by
  rw [capitals, List.dropWhile_map, show p ∘ Char.toUpper = p from funext ignores]
  rfl

theorem all_capitals : (capitals s).all p = s.all p := by
  rw [capitals, List.all_map, show p ∘ Char.toUpper = p from funext ignores]

theorem strip_capitals : strip p (capitals s) = capitals (strip p s) := by
  rw [strip, dropWhile_capitals ignores, ← capitals_reverse, dropWhile_capitals ignores, ← capitals_reverse]
  rfl

end

theorem trim_capitals (s : List Char) : trim (capitals s) = capitals (trim s) := strip_capitals ignoresCase_isBlank s

theorem allBlank_capitals (s : List Char) : allBlank (capitals s) = allBlank s := all_capitals ignoresCase_isBlank s

theorem cut_capitals {separator : Char} (caseless : separator.isAlpha = false) (s : List Char) :
    cut separator (capitals s) = (cut separator s).map capitals := by
  induction s with
  | nil => rfl
  | cons c s ih =>
    simp only [capitals_cons, cut, toUpper_eq_iff caseless, ih]
    split
    · rfl
    · cases cut separator s <;> rfl

/-! ### Steps -/

/-- A step that reads a text in capitals as it reads the text itself; `recase` is what capitals make of a result. -/
def ReadsCapitals {α : Type} (recase : α → α) (step : List Char → Option α) : Prop :=
  ∀ s, step (capitals s) = (step s).map recase

variable {α : Type} {recase : α → α}

/-- A step on what another step leaves. -/
theorem ReadsCapitals.bind {first : List Char → Option (List Char)} {second : List Char → Option α}
    (reads : ReadsCapitals capitals first) (reads' : ReadsCapitals recase second) :
    ReadsCapitals recase fun s => (first s).bind second := by
  intro s
  simp only [reads s, Option.bind_map]
  cases first s with
  | none => rfl
  | some rest => exact reads' rest

theorem readsCapitals_dropKeyword (word : List Char) : ReadsCapitals capitals (dropKeyword word) := by
  intro s
  induction word generalizing s with
  | nil => rfl
  | cons k word ih =>
    cases s with
    | nil => rfl
    | cons c s =>
      simp only [capitals_cons, dropKeyword, ignoresCase_keyLetter c]
      split
      · exact ih s
      · rfl

theorem readsCapitals_dropBlanks : ReadsCapitals capitals dropBlanks := by
  intro s
  cases s with
  | nil => rfl
  | cons c s =>
    simp only [capitals_cons, dropBlanks, ignoresCase_isBlank c, dropWhile_capitals ignoresCase_isBlank]
    split <;> rfl

theorem readsCapitals_dropKeywords (first second : String) : ReadsCapitals capitals (dropKeywords first second) := by
  have reads := ((readsCapitals_dropKeyword first.toList).bind readsCapitals_dropBlanks).bind
    (readsCapitals_dropKeyword second.toList)
  intro s
  rw [dropKeywords_eq, dropKeywords_eq]
  exact reads s

theorem readsCapitals_takeRun {p : Char → Bool} (ignores : IgnoresCase p) :
    ReadsCapitals (Prod.map capitals capitals) (takeRun p) := by
  intro s
  simp only [takeRun, takeWhile_capitals ignores, dropWhile_capitals ignores, isEmpty_capitals]
  split <;> rfl

theorem readsCapitals_takeGroup : ReadsCapitals (Prod.map capitals capitals) takeGroup := by
  intro s
  cases s with
  | nil => rfl
  | cons c s =>
    by_cases opening : c = '('
    · subst opening
      have run := readsCapitals_takeRun (ignoresCase_bne (d := ')') (by decide)) s
      simp only [capitals_cons, show Char.toUpper '(' = '(' from rfl, takeGroup, run]
      cases takeRun (· != ')') s with
      | none => rfl
      | some taken =>
        obtain ⟨inside, rest⟩ := taken
        cases rest with
        | nil => rfl
        | cons d rest =>
          by_cases closing : d = ')'
          · subst closing
            rfl
          · have other : d.toUpper ≠ ')' := fun same => closing ((toUpper_eq_iff (by decide) d).mp same)
            simp [closing, other]
    · have other : c.toUpper ≠ '(' := fun same => opening ((toUpper_eq_iff (by decide) c).mp same)
      simp [takeGroup, opening, other]

theorem ReadsCapitals.firstMatch {step : List Char → Option α} (reads : ReadsCapitals recase step) :
    ReadsCapitals recase (firstMatch step) := by
  intro s
  induction s with
  | nil => exact reads []
  | cons c s ih =>
    have here := reads (c :: s)
    rw [capitals_cons] at here ⊢
    simp only [Text.firstMatch, here, ih]
    cases step (c :: s) <;> rfl

theorem ReadsCapitals.occurs {step : List Char → Option α} (reads : ReadsCapitals recase step) (s : List Char) :
    occurs step (capitals s) = occurs step s := by
  rw [Text.occurs, reads.firstMatch s, Option.isSome_map]
  rfl

end CrudScripts.Text
