import CrudScripts.Data.Wording
import Mathlib.Algebra.Group.Int.Defs
import Mathlib.Algebra.Group.Nat.Defs
import Mathlib.Data.List.TakeWhile

/-!
Which values have a wording, and which texts can be written. A value that is no text has a wording exactly when it
is not too deep and all its numbers are short (`exists_display_iff`). A text can be written exactly when none of its
characters stands for a lone half of a pair (`encodingFault?_eq_none_iff`).
-/
namespace CrudScripts.Data

/-! ### Wordings -/

namespace Value

mutual

/-- How many values stand inside each other at most. -/
def depth : Value → Nat
  | .list items => itemsDepth items + 1
  | .dict fields => fieldsDepth fields + 1
  | _ => 1
termination_by structural v => v

def itemsDepth : List Value → Nat
  | [] => 0
  | v :: rest => max v.depth (itemsDepth rest)
termination_by structural items => items

def fieldsDepth : List (String × Value) → Nat
  | [] => 0
  | field :: rest => max (fieldDepth field) (fieldsDepth rest)
termination_by structural fields => fields

def fieldDepth : String × Value → Nat
  | (_, v) => v.depth
termination_by structural field => field

end

mutual

/-- The whole numbers in a value. -/
def numbers : Value → List Int
  | .int n => [n]
  | .list items => itemsNumbers items
  | .dict fields => fieldsNumbers fields
  | _ => []
termination_by structural v => v

def itemsNumbers : List Value → List Int
  | [] => []
  | v :: rest => v.numbers ++ itemsNumbers rest
termination_by structural items => items

def fieldsNumbers : List (String × Value) → List Int
  | [] => []
  | field :: rest => fieldNumbers field ++ fieldsNumbers rest
termination_by structural fields => fields

def fieldNumbers : String × Value → List Int
  | (_, v) => v.numbers
termination_by structural field => field

end

/-- A whole number that can be written out. -/
def IsShort (n : Int) : Prop := (Nat.toDigits 10 n.natAbs).length ≤ maxDigits

/-- A value with a wording, where so many values can stand inside each other. -/
def HasWording (room : Nat) (v : Value) : Prop :=
  (∃ s, v = .text s) ∨ (v.depth ≤ room ∧ ∀ n ∈ v.numbers, IsShort n)

/-- A power of ten has more digits than its exponent says. -/
theorem lt_length_toDigits_pow {count exponent : Nat} (positive : 0 < count) (long : count ≤ exponent) :
    count < (Nat.toDigits 10 (10 ^ exponent)).length := by
  rw [← Nat.not_le, Nat.length_toDigits_le_iff (by decide) positive, Nat.not_lt]
  exact Nat.pow_le_pow_right (by decide) long

theorem not_isShort_pow {exponent : Nat} (long : maxDigits ≤ exponent) : ¬ IsShort (10 ^ exponent) := by
  rw [IsShort, Int.natAbs_pow, Nat.not_le]
  exact lt_length_toDigits_pow (by decide) long

theorem depth_pos (v : Value) : 0 < v.depth := by
  cases v <;> simp [depth]

mutual

theorem fault?_eq_none_iff (v : Value) (room : Nat) :
    v.fault? room = none ↔ v.depth ≤ room ∧ ∀ n ∈ v.numbers, IsShort n := by
  cases room with
  | zero =>
    have deep := v.depth_pos
    simp only [fault?, reduceCtorEq, false_iff, not_and]
    omega
  | succ room =>
    match v with
    | .int n => simp [fault?, depth, numbers, IsShort]
    | .list items => simpa [fault?, depth, numbers] using itemsFault?_eq_none_iff items room
    | .dict fields => simpa [fault?, depth, numbers] using fieldsFault?_eq_none_iff fields room
    | .null | .bool _ | .real _ | .text _ | .bytes _ => simp [fault?, depth, numbers]

theorem itemsFault?_eq_none_iff (items : List Value) (room : Nat) :
    itemsFault? items room = none ↔ itemsDepth items ≤ room ∧ ∀ n ∈ itemsNumbers items, IsShort n := by
  match items with
  | [] => simp [itemsFault?, itemsDepth, itemsNumbers]
  | v :: rest =>
    rw [itemsFault?, Option.or_eq_none_iff, fault?_eq_none_iff v room, itemsFault?_eq_none_iff rest room, itemsDepth,
      itemsNumbers, List.forall_mem_append, Nat.max_le, and_and_and_comm]

theorem fieldsFault?_eq_none_iff (fields : List (String × Value)) (room : Nat) :
    fieldsFault? fields room = none ↔ fieldsDepth fields ≤ room ∧ ∀ n ∈ fieldsNumbers fields, IsShort n := by
  match fields with
  | [] => simp [fieldsFault?, fieldsDepth, fieldsNumbers]
  | field :: rest =>
    rw [fieldsFault?, Option.or_eq_none_iff, fieldFault?_eq_none_iff field room, fieldsFault?_eq_none_iff rest room,
      fieldsDepth, fieldsNumbers, List.forall_mem_append, Nat.max_le, and_and_and_comm]

theorem fieldFault?_eq_none_iff (field : String × Value) (room : Nat) :
    fieldFault? field room = none ↔ fieldDepth field ≤ room ∧ ∀ n ∈ fieldNumbers field, IsShort n := by
  match field with
  | (_, v) => exact fault?_eq_none_iff v room

end

theorem display_of_ne_text {v : Value} (other : ∀ s, v ≠ .text s) (room : Nat) :
    v.display room = match v.fault? room with
      | some failure => .error failure
      | none => .ok v.wording := by
  cases v with
  | text s => exact absurd rfl (other s)
  | _ => rfl

theorem display_eq_ok_iff {v : Value} {room : Nat} {text : String} :
    v.display room = .ok text ↔ HasWording room v ∧ text = v.wording := by
  by_cases kind : ∃ s, v = .text s
  · obtain ⟨s, rfl⟩ := kind
    simp [display, HasWording, wording, eq_comm]
  · rw [display_of_ne_text (not_exists.mp kind), HasWording, or_iff_right kind, ← fault?_eq_none_iff]
    cases v.fault? room with
    | none => simp [eq_comm]
    | some failure => simp

/-- A value is shown exactly when it has a wording. -/
theorem exists_display_iff {v : Value} {room : Nat} : (∃ text, v.display room = .ok text) ↔ HasWording room v := by
  simp [display_eq_ok_iff]

@[simp] theorem display_text (s : String) (room : Nat) : (Value.text s).display room = .ok s := rfl

end Value

/-! ### Texts that can be written -/

/-- A text none of whose characters stands for a lone half of a pair. -/
def IsWhole (half? : Char → Option Nat) (s : String) : Prop := ∀ c ∈ s.toList, half? c = none

theorem encodingFault?_eq_none_iff {half? : Char → Option Nat} {s : String} :
    encodingFault? half? s = none ↔ IsWhole half? s := by
  have whole : (s.toList.dropWhile fun c => (half? c).isNone) = [] ↔ IsWhole half? s := by
    simp [List.dropWhile_eq_nil_iff, IsWhole]
  rw [← whole, encodingFault?]
  cases s.toList.dropWhile fun c => (half? c).isNone <;> simp

end CrudScripts.Data
