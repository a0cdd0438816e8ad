import CrudScripts.Proofs.Text.Joining
import CrudScripts.Proofs.Text.Occurrence

/-!
How often a mark stands in a text. A text without a character of the mark keeps apart what stands on its two sides:
the mark stands in the whole as often as on both sides together (`occurrences_around`).
-/
namespace CrudScripts.Text

/-- In how many places of a text a mark stands. -/
def occurrencesIn (mark : List Char) : List Char → Nat
  | [] => 0
  | c :: s => (if mark.isPrefixOf (c :: s) then 1 else 0) + occurrencesIn mark s

def occurrences (mark s : String) : Nat := occurrencesIn mark.toList s.toList

/-- A text without a character of a mark. -/
def Apart (mark s : String) : Prop := ∀ c ∈ s.toList, c ∉ mark.toList

section
variable {mark : List Char}

theorem isPrefixOf_append_cons {c : Char} (other : c ∉ mark) (a b : List Char) :
    mark.isPrefixOf (a ++ c :: b) = mark.isPrefixOf a := by
  induction a generalizing mark with
  | nil =>
    cases mark with
    | nil => rfl
    | cons d mark => simp [List.isPrefixOf, Ne.symm (List.ne_of_not_mem_cons other)]
  | cons e a ih =>
    cases mark with
    | nil => rfl
    | cons d mark => simp [List.isPrefixOf, ih (List.not_mem_of_not_mem_cons other)]

variable (given : mark ≠ [])
include given

/-- A mark stands on one side of a character that it does not have. -/
theorem occurrencesIn_append_cons {c : Char} (other : c ∉ mark) (a b : List Char) :
    occurrencesIn mark (a ++ c :: b) = occurrencesIn mark a + occurrencesIn mark b := by
  have nowhere : mark.isPrefixOf [] = false := by
    cases mark with
    | nil => exact absurd rfl given
    | cons d mark => rfl
  induction a with
  | nil =>
    have here := isPrefixOf_append_cons other [] b
    rw [List.nil_append] at here ⊢
    simp [occurrencesIn, here, nowhere]
  | cons d a ih =>
    have here := isPrefixOf_append_cons other (d :: a) b
    rw [List.cons_append] at here ⊢
    rw [occurrencesIn, occurrencesIn, here, ih, Nat.add_assoc]

theorem occurrencesIn_append {s : List Char} (apart : ∀ c ∈ s, c ∉ mark) (b : List Char) :
    occurrencesIn mark (s ++ b) = occurrencesIn mark b := by
  induction s with
  | nil => rfl
  | cons c s ih =>
    have first := occurrencesIn_append_cons given (apart c List.mem_cons_self) [] (s ++ b)
    rw [List.nil_append, ih fun d member => apart d (List.mem_cons_of_mem c member)] at first
    simpa [occurrencesIn] using first

theorem occurrencesIn_eq_zero_iff (s : List Char) : occurrencesIn mark s = 0 ↔ ¬ mark <:+: s := by
  induction s with
  | nil => simpa [occurrencesIn] using given
  | cons c s ih => simp [occurrencesIn, ih, List.infix_cons_iff, not_or]

end

section
variable {mark : String} (given : mark ≠ "")
include given

/-- A mark stands nowhere in a text exactly when the text does not contain it. -/
theorem occurrences_eq_zero_iff (s : String) : occurrences mark s = 0 ↔ contains mark s = false := by
  rw [occurrences, occurrencesIn_eq_zero_iff (by simpa using given), ← contains_iff, Bool.not_eq_true]

theorem occurrences_behind {gap : String} (apart : Apart mark gap) (b : String) :
    occurrences mark (gap ++ b) = occurrences mark b := by
  rw [occurrences, String.toList_append]
  exact occurrencesIn_append (by simpa using given) apart _

theorem occurrences_of_apart {s : String} (apart : Apart mark s) : occurrences mark s = 0 := by
  simpa [occurrences, occurrencesIn] using occurrences_behind given apart ""

/-- A mark does not reach across a text that is apart from it. -/
theorem occurrences_around {gap : String} (between : gap ≠ "") (apart : Apart mark gap) (a b : String) :
    occurrences mark (a ++ gap ++ b) = occurrences mark a + occurrences mark b := by
  obtain ⟨c, rest, first⟩ := List.exists_cons_of_ne_nil (show gap.toList ≠ [] by simpa using between)
  have letters : ∀ d ∈ c :: rest, d ∉ mark.toList := by rwa [Apart, first] at apart
  have given' : mark.toList ≠ [] := by simpa using given
  rw [occurrences, String.toList_append, String.toList_append, first, List.append_assoc, List.cons_append,
    occurrencesIn_append_cons given' (letters c List.mem_cons_self),
    occurrencesIn_append given' fun d member => letters d (List.mem_cons_of_mem c member)]
  rfl

theorem occurrences_before {gap : String} (apart : Apart mark gap) (a : String) :
    occurrences mark (a ++ gap) = occurrences mark a := by
  by_cases empty : gap = ""
  · rw [empty, String.append_empty]
  · have around := occurrences_around given empty apart a ""
    rwa [String.append_empty, show occurrences mark "" = 0 from rfl, Nat.add_zero] at around

/-- A mark that stands in none of the joined texts stands nowhere in the whole. -/
theorem occurrences_join {separator : String} (between : separator ≠ "") (apart : Apart mark separator)
    {texts : List String} (none : ∀ text ∈ texts, occurrences mark text = 0) :
    occurrences mark (join separator texts) = 0 := by
  induction texts with
  | nil => rfl
  | cons first texts ih =>
    have later := ih fun text member => none text (List.mem_cons_of_mem _ member)
    cases texts with
    | nil => exact none first List.mem_cons_self
    | cons next texts => rw [join, occurrences_around given between apart, none first List.mem_cons_self, later]

end

end CrudScripts.Text
