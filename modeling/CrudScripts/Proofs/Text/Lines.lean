import CrudScripts.Proofs.Text.Joining
import CrudScripts.Proofs.Text.Scanning

/-!
The lines of a text. A line break between two texts puts the lines of the one before those of the other
(`lines_append`), and a text without a line break is one line.
-/
namespace CrudScripts.Text

/-- A text without a line break. -/
def OneLine (s : String) : Prop := '\n' ∉ s.toList

instance (s : String) : Decidable (OneLine s) := inferInstanceAs (Decidable (_ ∉ _))

@[simp] theorem oneLine_append (a b : String) : OneLine (a ++ b) ↔ OneLine a ∧ OneLine b := by simp [OneLine]

theorem OneLine.append {a b : String} (first : OneLine a) (second : OneLine b) : OneLine (a ++ b) :=
  (oneLine_append a b).mpr ⟨first, second⟩

theorem oneLine_join_map {α : Type} {separator : String} (one : OneLine separator) {text : α → String} {xs : List α}
    (all : ∀ x ∈ xs, OneLine (text x)) : OneLine (join separator (xs.map text)) :=
  not_mem_join one (List.forall_mem_map.mpr all)

theorem oneLine_toString (n : Nat) : OneLine (toString n) :=
  fun member => absurd (isDigit_of_mem_toString member) (by decide)

/-- The lines of a text, without the line breaks. -/
def lines (s : String) : List (List Char) := cut '\n' s.toList

theorem lines_append (a b : String) : lines (a ++ "\n" ++ b) = lines a ++ lines b := by
  rw [lines, String.toList_append, String.toList_append, List.append_assoc]
  exact cut_append_cons '\n' a.toList b.toList

/-- Paragraphs are read line by line one after the other, when an empty line says nothing. -/
theorem filterMap_lines_paragraphs {α : Type} {read : List Char → Option α} (nothing : read [] = none)
    (sections : List String) :
    (lines (join "\n\n" sections)).filterMap read = sections.flatMap fun s => (lines s).filterMap read := by
  have empty : (lines "").filterMap read = [] := by
    change [[]].filterMap read = []
    rw [List.filterMap_cons, nothing, List.filterMap_nil]
  induction sections with
  | nil => exact empty
  | cons first rest ih =>
    cases rest with
    | nil => simp [join]
    | cons next rest =>
      -- Between two sections stand a line break and a line without letters.
      have apart : first ++ "\n\n" ++ join "\n\n" (next :: rest) =
          first ++ "\n" ++ ("" ++ "\n" ++ join "\n\n" (next :: rest)) := by
        rw [show "\n\n" = "\n" ++ "\n" from rfl]
        simp only [String.append_assoc, String.empty_append]
      rw [join, apart, lines_append, lines_append, List.filterMap_append, List.filterMap_append, empty, ih,
        List.nil_append]
      rfl

theorem lines_of_oneLine {s : String} (one : OneLine s) : lines s = [s.toList] := cut_of_not_mem one

end CrudScripts.Text
