import CrudScripts.Proofs.Schema.Grammar
import CrudScripts.Proofs.Schema.Splitting

/-!
The head of a column definition: its name, bare or quoted, and its type word. A clause that begins with a
head is no key clause, whatever follows (`ColumnHead.isKeyClause_text`), and is read as a column of this
name and type (`ColumnHead.parseColumn_text`).
-/
namespace CrudScripts.Schema
open CrudScripts.Text

inductive Quoting where
  | bare
  | backticks
  | quotes

/-- What stands on both sides of a name. -/
def Quoting.mark : Quoting → List Char
  | bare => []
  | backticks => ['\x60']
  | quotes => ['"']

theorem Quoting.bare_or_marked (quoting : Quoting) :
    quoting = .bare ∨ ∃ c, isNameMark c = true ∧ isKeyLetter c = false ∧ quoting.mark = [c] := by
  cases quoting with
  | bare => exact .inl rfl
  | backticks => exact .inr ⟨_, by decide, by decide, rfl⟩
  | quotes => exact .inr ⟨_, by decide, by decide, rfl⟩

/-- The marks are marks to the reader of names. -/
def Quoting.nameMark (quoting : Quoting) : NameMark where
  text := quoting.mark
  form := by
    rcases quoting.bare_or_marked with rfl | ⟨c, marks, -, marked⟩
    · exact .inl rfl
    · exact .inr ⟨c, marks, marked⟩

/-- The head of a column definition, as it is written. A bare name is no first word of a key clause. -/
structure ColumnHead where
  quoting : Quoting
  name : Word
  unreserved : quoting = .bare →
    name.text.map Char.toUpper ≠ "PRIMARY".toList ∧ name.text.map Char.toUpper ≠ "CONSTRAINT".toList
  gap : Gap
  base : Word

namespace ColumnHead

variable (head : ColumnHead)

def quotedName : List Char := head.quoting.mark ++ (head.name.text ++ head.quoting.mark)

def text (tail : List Char) : List Char := head.quotedName ++ (head.gap.text ++ (head.base.text ++ tail))

/-- The column of a clause with a head, not flagged as part of the key. -/
def column (tail : List Char) : Column := columnOf head.name head.base tail

theorem solid_quotedName : ∀ c ∈ head.quotedName, isBlank c = false := by
  intro c member
  rcases List.mem_append.mp member with first | rest
  · exact head.quoting.nameMark.solid c first
  · rcases List.mem_append.mp rest with inside | last
    · exact head.name.solid inside
    · exact head.quoting.nameMark.solid c last

theorem quotedName_ne_nil : head.quotedName ≠ [] :=
  List.append_ne_nil_of_right_ne_nil _ (List.append_ne_nil_of_left_ne_nil head.name.nonempty _)

/-- A name that readers take for a keyword is bare. -/
theorem quotedName_spells {word : String} (capitals : Capitals word.toList) (spelled : Spells word head.quotedName) :
    head.quoting = .bare ∧ head.name.text.map Char.toUpper = word.toList := by
  rcases head.quoting.bare_or_marked with bare | ⟨c, -, stop, marked⟩
  · rw [Spells, quotedName, bare, Quoting.mark, List.nil_append, List.append_nil, head.name.map_keyLetter] at spelled
    exact ⟨bare, spelled⟩
  · have letter := spelled.isKeyLetter_of_mem capitals (c := c) (by simp [quotedName, marked])
    exact absurd letter (by simp [stop])

theorem text_ne_nil (tail : List Char) : head.text tail ≠ [] :=
  List.append_ne_nil_of_left_ne_nil head.quotedName_ne_nil _

theorem trimmed_text {tail : List Char} (solid : Stops isBlank (head.base.text ++ tail).reverse) :
    Trimmed (head.text tail) := by
  constructor
  · exact (stops_append head.quotedName_ne_nil _).mpr (trimmed_of_solid head.solid_quotedName).1
  · have type : head.base.text ++ tail ≠ [] := List.append_ne_nil_of_left_ne_nil head.base.nonempty _
    rw [text, ← List.append_assoc]
    exact (stops_reverse_append type _).mpr solid

theorem whole_text {tail : List Char} (whole : Whole tail) : Whole (head.text tail) := by
  have mark : Whole head.quoting.mark := by
    refine whole_of_plain ?_
    cases head.quoting <;> simp [Quoting.mark]
  have name : Whole head.quotedName := mark.append ((whole_of_word head.name).append mark)
  exact name.append ((whole_of_blanks head.gap.toBlanks).append ((whole_of_word head.base).append whole))

/-- A clause with a head is no key clause: its first word is none of theirs. -/
theorem isKeyClause_text (tail : List Char) : isKeyClause (head.text tail) = false := by
  rw [Bool.eq_false_iff, ne_eq, isKeyClause_iff]
  rintro ⟨lead, s, rest, split, form, ⟨one, gap, two, rfl, spelled, -⟩, -⟩
  rcases form with rfl | ⟨word, gap', name, gap'', rfl, spelled', -⟩
  · have first := solid_front_unique head.solid_quotedName
      (fun c member => spelled.isBlank_of_mem (by decide) member) split
    rw [← first] at spelled
    obtain ⟨bare, reserved⟩ := head.quotedName_spells (by decide) spelled
    exact (head.unreserved bare).1 reserved
  · rw [List.append_assoc, List.append_assoc] at split
    have first := solid_front_unique head.solid_quotedName
      (fun c member => spelled'.isBlank_of_mem (by decide) member) split
    rw [← first] at spelled'
    obtain ⟨bare, reserved⟩ := head.quotedName_spells (by decide) spelled'
    exact (head.unreserved bare).2 reserved

theorem parseColumn_text {tail : List Char} (stops : Stops isWord tail) :
    parseColumn (head.text tail) = some (head.column tail) := by
  refine parseColumn_of_shape ⟨stops, head.quoting.nameMark, head.gap, ?_⟩
  simp [text, quotedName, Quoting.nameMark]

theorem read_text {tail : List Char} (stops : Stops isWord tail) :
    Clause.read (head.text tail) = .column (head.column tail) (mentionsPrimaryKey (head.text tail)) := by
  rw [Clause.read, head.isKeyClause_text, head.parseColumn_text stops]
  rfl

end ColumnHead

end CrudScripts.Schema
