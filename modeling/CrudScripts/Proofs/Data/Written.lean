import CrudScripts.Data.Json.Writer
import CrudScripts.Proofs.Data.Wording
import CrudScripts.Proofs.Text.Joining
import CrudScripts.Proofs.Text.Scanning

/-!
The characters of JSON texts. Besides the characters of the texts in a value there are ASCII characters only in what
is written of it, and none of its characters is left out but ASCII ones, so the JSON text of a value can be written
exactly when all the texts in it can (`isWhole_written_iff`).
-/
namespace CrudScripts.Data
open CrudScripts.Text

namespace Value

mutual

/-- The texts in a value, with the names of fields. -/
def texts : Value → List String
  | .text s => [s]
  | .bytes s => [s]
  | .list items => itemsTexts items
  | .dict fields => fieldsTexts fields
  | _ => []
termination_by structural v => v

def itemsTexts : List Value → List String
  | [] => []
  | v :: rest => v.texts ++ itemsTexts rest
termination_by structural items => items

def fieldsTexts : List (String × Value) → List String
  | [] => []
  | field :: rest => fieldTexts field ++ fieldsTexts rest
termination_by structural fields => fields

def fieldTexts : String × Value → List String
  | (name, v) => name :: v.texts
termination_by structural field => field

end

end Value

/-! ### ASCII characters -/

/-- Characters with a code of seven bits. -/
def AreAscii (s : List Char) : Prop := ∀ c ∈ s, c.toNat < 128

@[simp] theorem areAscii_nil : AreAscii [] := List.forall_mem_nil _

@[simp] theorem areAscii_cons {c : Char} {s : List Char} : AreAscii (c :: s) ↔ c.toNat < 128 ∧ AreAscii s :=
  List.forall_mem_cons

@[simp] theorem areAscii_append {s t : List Char} : AreAscii (s ++ t) ↔ AreAscii s ∧ AreAscii t :=
  List.forall_mem_append

theorem AreAscii.of_subset {s t : List Char} (ascii : AreAscii t) (part : s ⊆ t) : AreAscii s :=
  fun c member => ascii c (part member)

theorem areAscii_replicate_zero (n : Nat) : AreAscii (List.replicate n '0') := by
  intro c member
  rw [List.eq_of_mem_replicate member]
  decide

theorem toNat_digitChar_lt {n : Nat} (digit : n < 16) : (Nat.digitChar n).toNat < 128 :=
  (by decide : ∀ m < 16, (Nat.digitChar m).toNat < 128) n digit

theorem areAscii_toDigits {base : Nat} (places : 1 < base) (few : base ≤ 16) (n : Nat) :
    AreAscii (Nat.toDigits base n) := by
  induction n using Nat.strongRecOn with
  | ind n ih =>
    rw [Nat.toDigits_eq_if places]
    split
    · simp [toNat_digitChar_lt (by omega : n < 16)]
    · have shorter := ih (n / base) (Nat.div_lt_self (by omega) places)
      have last : n % base < base := Nat.mod_lt n (by omega)
      simp [shorter, toNat_digitChar_lt (by omega : n % base < 16)]

theorem areAscii_toString (n : Int) : AreAscii (toString n).toList := by
  have digits (n : Nat) : AreAscii (toString n).toList := by
    rw [Nat.toString_eq_repr, Nat.toList_repr]
    exact areAscii_toDigits (by decide) (by decide) n
  cases n with
  | ofNat n => exact digits n
  | negSucc n =>
    change AreAscii ("-" ++ toString (n + 1)).toList
    rw [String.toList_append, areAscii_append]
    exact ⟨by simp, digits (n + 1)⟩

theorem Decimal.areAscii_display (x : Decimal) : AreAscii x.display.toList := by
  have digits := areAscii_toDigits (by decide : 1 < 10) (by decide) x.digits
  have taken (n : Nat) := digits.of_subset (List.take_subset n _)
  have dropped (n : Nat) := digits.of_subset (List.drop_subset n _)
  unfold Decimal.display
  simp only [String.toList_append, String.toList_ofList, areAscii_append]
  refine ⟨by split <;> simp, ?_⟩
  split
  · simp
  split
  · simp only [areAscii_append]
    refine ⟨⟨⟨?_, by split <;> simp⟩, areAscii_replicate_zero _⟩, areAscii_toDigits (by decide) (by decide) _⟩
    split <;> simp_all
  split
  · simp [digits, areAscii_replicate_zero]
  split
  · simp [taken, dropped]
  · simp [digits, areAscii_replicate_zero]

theorem areAscii_hexDigits (width n : Nat) : AreAscii (hexDigits width n) :=
  areAscii_append.mpr ⟨areAscii_replicate_zero _, areAscii_toDigits (by decide) (by decide) n⟩

theorem Double.areAscii_writtenNumber (x : Double) : AreAscii (Json.writtenNumber x).toList := by
  unfold Json.writtenNumber
  split
  · split <;> simp
  · simp
  · cases x with
    | finite negative significand exponent => exact Decimal.areAscii_display _
    | infinite negative => cases negative <;> simp [Double.display]
    | undefined => simp [Double.display]

/-! ### JSON texts -/

section
variable {half? : Char → Option Nat}

theorem isWhole_append {s t : String} : IsWhole half? (s ++ t) ↔ IsWhole half? s ∧ IsWhole half? t := by
  rw [IsWhole, String.toList_append, List.forall_mem_append]
  rfl

variable (ascii : ∀ c : Char, c.toNat < 128 → half? c = none)
include ascii

theorem isWhole_of_areAscii {s : String} (plain : AreAscii s.toList) : IsWhole half? s :=
  fun c member => ascii c (plain c member)

theorem isWhole_join {separator : String} (plain : AreAscii separator.toList) {pieces : List String} :
    IsWhole half? (join separator pieces) ↔ ∀ piece ∈ pieces, IsWhole half? piece := by
  rw [IsWhole, toList_join, forall_mem_intercalate_iff (isWhole_of_areAscii ascii plain), List.forall_mem_map]
  rfl

/-- An escape is ASCII, and so is the character that it stands for. -/
theorem whole_writtenChar_iff {c : Char} : (∀ d ∈ Json.writtenChar c, half? d = none) ↔ half? c = none := by
  have escaped {s : List Char} (letters : AreAscii s) (own : c.toNat < 128) :
      (∀ d ∈ s, half? d = none) ↔ half? c = none :=
    iff_of_true (fun d member => ascii d (letters d member)) (ascii c own)
  unfold Json.writtenChar
  split
  · rename_i marked
    rcases marked with rfl | rfl <;> exact escaped (by simp) (by decide)
  iterate 5
    split
    · rename_i same
      subst same
      exact escaped (by simp) (by decide)
  split
  · rename_i control
    exact escaped (by simpa using areAscii_hexDigits 4 c.toNat) (by omega)
  · simp

theorem isWhole_writtenText {s : String} : IsWhole half? (Json.writtenText s) ↔ IsWhole half? s := by
  have quote : half? '"' = none := ascii '"' (by decide)
  rw [IsWhole, Json.writtenText, String.toList_ofList, List.forall_mem_append, List.forall_mem_cons,
    List.forall_mem_flatMap, and_iff_right quote, and_iff_left (by simp [quote])]
  simp only [whole_writtenChar_iff ascii]
  rfl

end

section
variable {half? : Char → Option Nat}

mutual

/-- The JSON text of a value can be written exactly when the texts in the value can. -/
theorem isWhole_written_iff (ascii : ∀ c : Char, c.toNat < 128 → half? c = none) (v : Value) :
    IsWhole half? (Json.written v) ↔ ∀ s ∈ v.texts, IsWhole half? s := by
  have plain {s : String} (letters : AreAscii s.toList) : IsWhole half? s := isWhole_of_areAscii ascii letters
  match v with
  | .null => exact iff_of_true (plain (by simp [Json.written])) (by simp [Value.texts])
  | .bool b => exact iff_of_true (plain (by cases b <;> simp [Json.written])) (by simp [Value.texts])
  | .int n => exact iff_of_true (plain (areAscii_toString n)) (by simp [Value.texts])
  | .real x => exact iff_of_true (plain (Double.areAscii_writtenNumber x)) (by simp [Value.texts])
  | .text s => simp [Json.written, Value.texts, isWhole_writtenText ascii]
  | .bytes s =>
    have front := plain (s := "\x7b\"bytes\":") (by simp)
    have back := plain (s := "\x7d") (by simp)
    simp [Json.written, Value.texts, isWhole_append, front, back, isWhole_writtenText ascii]
  | .list items =>
    have front := plain (s := "[") (by simp)
    have back := plain (s := "]") (by simp)
    rw [Json.written, isWhole_append, isWhole_append, isWhole_join ascii (by simp), Value.texts,
      ← isWhole_writtenItems_iff ascii items, and_iff_right front, and_iff_left back]
  | .dict fields =>
    have front := plain (s := "\x7b") (by simp)
    have back := plain (s := "\x7d") (by simp)
    rw [Json.written, isWhole_append, isWhole_append, isWhole_join ascii (by simp), Value.texts,
      ← isWhole_writtenFields_iff ascii fields, and_iff_right front, and_iff_left back]

theorem isWhole_writtenItems_iff (ascii : ∀ c : Char, c.toNat < 128 → half? c = none) (items : List Value) :
    (∀ piece ∈ Json.writtenItems items, IsWhole half? piece) ↔ ∀ s ∈ Value.itemsTexts items, IsWhole half? s := by
  match items with
  | [] => simp [Json.writtenItems, Value.itemsTexts]
  | v :: rest =>
    rw [Json.writtenItems, List.forall_mem_cons, isWhole_written_iff ascii v, isWhole_writtenItems_iff ascii rest,
      Value.itemsTexts, List.forall_mem_append]

theorem isWhole_writtenFields_iff (ascii : ∀ c : Char, c.toNat < 128 → half? c = none)
    (fields : List (String × Value)) :
    (∀ piece ∈ Json.writtenFields fields, IsWhole half? piece) ↔ ∀ s ∈ Value.fieldsTexts fields, IsWhole half? s := by
  match fields with
  | [] => simp [Json.writtenFields, Value.fieldsTexts]
  | field :: rest =>
    rw [Json.writtenFields, List.forall_mem_cons, isWhole_writtenField_iff ascii field,
      isWhole_writtenFields_iff ascii rest, Value.fieldsTexts, List.forall_mem_append]

theorem isWhole_writtenField_iff (ascii : ∀ c : Char, c.toNat < 128 → half? c = none) (field : String × Value) :
    IsWhole half? (Json.writtenField field) ↔ ∀ s ∈ Value.fieldTexts field, IsWhole half? s := by
  match field with
  | (name, v) =>
    have colon := isWhole_of_areAscii ascii (s := ":") (by simp)
    rw [Json.writtenField, isWhole_append, isWhole_append, isWhole_writtenText ascii, isWhole_written_iff ascii v,
      Value.fieldTexts, List.forall_mem_cons, and_iff_left colon]

end

end

end CrudScripts.Data
