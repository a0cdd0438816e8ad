import CrudScripts.Proofs.Text.Joining
import CrudScripts.Proofs.Text.Scanning

/-!
References by place. A reference is a dollar sign and a numeral; the numeral is the longest run of digits
behind the sign. The places that a text refers to are read off the text (`placesIn`), and each reference can
be replaced by a name (`withNames`). A text that is written as a row of plain characters and references has
these places, and these names in their stead (`Resolves.placesIn_eq`, `Resolves.withNames_eq`).
-/
namespace CrudScripts.Text

/-- The place that a text behind a dollar sign begins with, if it begins with a numeral, and what follows. -/
def readPlace (s : List Char) : Option Nat × List Char :=
  if (s.takeWhile Char.isDigit).isEmpty then (none, '$' :: s)
  else (some (Nat.ofDigitChars 10 (s.takeWhile Char.isDigit) 0), s.dropWhile Char.isDigit)

/-- The places that a text refers to, in order. -/
def placesIn (s : List Char) : List Nat := ((cut '$' s).drop 1).filterMap fun piece => (readPlace piece).1

/-- The text with each reference replaced by the name of its place. -/
def withNames (name : Nat → List Char) (s : List Char) : List Char :=
  ((cut '$' s).take 1).flatten ++
    ((cut '$' s).drop 1).flatMap fun piece => (((readPlace piece).1.map name).getD []) ++ (readPlace piece).2

def referenceText (place : Nat) : List Char := '$' :: Nat.toDigits 10 place

/-- A text of plain characters and references, the same text with names instead of the references, and the
    places of the references in order. -/
inductive Resolves (name : Nat → List Char) : List Char → List Char → List Nat → Prop where
  | nil : Resolves name [] [] []
  | plain {c : Char} {a b : List Char} {places : List Nat} (other : c ≠ '$') (rest : Resolves name a b places) :
    Resolves name (c :: a) (c :: b) places
  | reference {place : Nat} {a b : List Char} {places : List Nat} (stops : Stops Char.isDigit a)
    (rest : Resolves name a b places) :
    Resolves name (referenceText place ++ a) (name place ++ b) (place :: places)

theorem readPlace_toDigits (place : Nat) {s : List Char} (stops : Stops Char.isDigit s) :
    readPlace (Nat.toDigits 10 place ++ s) = (some place, s) := by
  have digits : ∀ c ∈ Nat.toDigits 10 place, c.isDigit = true := fun c member =>
    Nat.isDigit_of_mem_toDigits (by decide) (by decide) member
  unfold readPlace
  rw [takeWhile_append_stops digits stops, dropWhile_append_stops digits stops, Nat.ofDigitChars_ten_toDigits,
    if_neg (by simp [Nat.toDigits_ne_nil])]

/-- A dollar sign is no digit, so the first piece of a text begins as the text does. -/
theorem stops_isDigit_cut {s first : List Char} {rest : List (List Char)} (pieces : cut '$' s = first :: rest)
    (stops : Stops Char.isDigit s) : Stops Char.isDigit first := by
  cases s with
  | nil =>
    obtain ⟨rfl, -⟩ := List.cons.inj pieces
    exact stops
  | cons c s =>
    by_cases dollar : c = '$'
    · rw [cut, if_pos dollar] at pieces
      obtain ⟨rfl, -⟩ := List.cons.inj pieces
      exact stops_nil _
    · obtain ⟨piece, others, inner⟩ := exists_cut '$' s
      rw [cut_cons_of_ne dollar, inner] at pieces
      obtain ⟨rfl, -⟩ := List.cons.inj pieces
      exact (stops_cons _ _ _).mpr ((stops_cons _ _ _).mp stops)

theorem cut_referenceText (place : Nat) (s : List Char) :
    cut '$' (referenceText place ++ s) = [] :: (cut '$' s).modifyHead (Nat.toDigits 10 place ++ ·) := by
  have absent : '$' ∉ Nat.toDigits 10 place := fun member =>
    absurd (Nat.isDigit_of_mem_toDigits (by decide) (by decide) member) (by decide)
  rw [referenceText, List.cons_append, cut, if_pos rfl, cut_append absent]

namespace Resolves

variable {name : Nat → List Char} {a b : List Char} {places : List Nat}

theorem placesIn_eq (resolves : Resolves name a b places) : placesIn a = places := by
  induction resolves with
  | nil => rfl
  | @plain c a b places other rest ih =>
    rw [placesIn, cut_cons_of_ne other, List.drop_one, List.tail_modifyHead, ← List.drop_one]
    exact ih
  | @reference place a b places stops rest ih =>
    obtain ⟨first, others, pieces⟩ := exists_cut '$' a
    rw [placesIn, pieces] at ih
    rw [placesIn, cut_referenceText, pieces]
    simpa [readPlace_toDigits place (stops_isDigit_cut pieces stops)] using ih

example : placesIn "a = $12, b = $3".toList = [12, 3] := by decide

theorem withNames_eq (resolves : Resolves name a b places) : withNames name a = b := by
  induction resolves with
  | nil => rfl
  | @plain c a b places other rest ih =>
    obtain ⟨first, others, pieces⟩ := exists_cut '$' a
    rw [withNames, pieces] at ih
    rw [withNames, cut_cons_of_ne other, pieces]
    simpa using ih
  | @reference place a b places stops rest ih =>
    obtain ⟨first, others, pieces⟩ := exists_cut '$' a
    rw [withNames, pieces] at ih
    rw [withNames, cut_referenceText, pieces]
    simpa [readPlace_toDigits place (stops_isDigit_cut pieces stops)] using ih

theorem append {front : List Char} (plain : '$' ∉ front) (resolves : Resolves name a b places) :
    Resolves name (front ++ a) (front ++ b) places := by
  induction front with
  | nil => exact resolves
  | cons c front ih =>
    have other : c ≠ '$' := fun same => plain (by simp [same])
    exact .plain other (ih fun member => plain (List.mem_cons_of_mem _ member))

theorem of_plain {s : List Char} (plain : '$' ∉ s) : Resolves name s s [] := by
  have end' : Resolves name [] [] [] := .nil
  simpa using append plain end'

/-- Cells that end with a reference, joined by a separator. -/
theorem intercalate {separator : List Char} (plain : '$' ∉ separator) (nonempty : separator ≠ [])
    (nondigit : Stops Char.isDigit separator) {cells : List (List Char × Nat)}
    (absent : ∀ cell ∈ cells, '$' ∉ cell.1) (stops : Stops Char.isDigit a) (resolves : Resolves name a b places) :
    Resolves name (List.intercalate separator (cells.map fun cell => cell.1 ++ referenceText cell.2) ++ a)
      (List.intercalate separator (cells.map fun cell => cell.1 ++ name cell.2) ++ b)
      (cells.map (·.2) ++ places) := by
  induction cells with
  | nil => simpa using resolves
  | cons cell cells ih =>
    have first := absent cell List.mem_cons_self
    cases cells with
    | nil =>
      have here : Resolves name (referenceText cell.2 ++ a) _ _ := .reference stops resolves
      simpa using append first here
    | cons next cells =>
      have rest := append plain (ih fun other member => absent other (List.mem_cons_of_mem _ member))
      have here : Resolves name (referenceText cell.2 ++ _) _ _ :=
        .reference ((stops_append nonempty _).mpr nondigit) rest
      simpa [List.intercalate_cons_cons] using append first here

end Resolves

end CrudScripts.Text
