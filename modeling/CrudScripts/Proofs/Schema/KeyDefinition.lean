import CrudScripts.Proofs.Schema.ConstraintLabel
import CrudScripts.Proofs.Schema.Frame
import CrudScripts.Proofs.Schema.KeyNames

/-!
Key clauses as they are written: perhaps a constraint name, the words of a key, and the names of the key
columns between parentheses, each with any blanks and marks around it. A key clause is read as its names
(`KeyDefinition.read_text`).
-/
namespace CrudScripts.Schema
open CrudScripts.Text

/-! ### Key names -/

/-- A name in a key clause, as it is written: marks around it, and blanks around these. -/
structure KeyName where
  before : Blanks
  opening : List Char
  name : List Char
  closing : List Char
  after : Blanks
  marks : ∀ c ∈ opening ++ closing, isKeyMark c = true
  nonempty : name ≠ []
  plain : ∀ c ∈ name, c ≠ '(' ∧ c ≠ ')' ∧ c ≠ ','
  ends : ∀ c, name.head? = some c ∨ name.getLast? = some c → isBlank c = false ∧ isKeyMark c = false

namespace KeyName

variable (key : KeyName)

def marked : List Char := key.opening ++ (key.name ++ key.closing)

def text : List Char := key.before.text ++ (key.marked ++ key.after.text)

theorem bare_name : Bare key.name := by
  have stops {p : Char → Bool} (stop : ∀ c, isBlank c = false ∧ isKeyMark c = false → p c = false) :
      Stops p key.name ∧ Stops p key.name.reverse := by
    constructor
    · exact fun c first => stop c (key.ends c (.inl first))
    · intro c last
      rw [List.head?_reverse] at last
      exact stop c (key.ends c (.inr last))
  have mark := stops fun c plain => plain.2
  exact ⟨stops fun c plain => plain.1, mark.1, mark.2⟩

/-- The reader of key names takes what is around a name, and nothing of the name. -/
theorem bareKeyName_text : bareKeyName key.text = key.name :=
  (bareKeyName_eq_iff key.bare_name).mpr ⟨key.before, key.opening, key.closing, key.after, rfl, key.marks⟩

theorem plain_text : ∀ c ∈ key.text, c ≠ '(' ∧ c ≠ ')' ∧ c ≠ ',' := by
  intro c member
  simp only [text, marked, List.mem_append] at member
  rcases member with before | (opening | name | closing) | after
  · exact plain_of_isBlank (key.before.blank c before)
  · exact plain_of_isKeyMark (key.marks c (List.mem_append_left _ opening))
  · exact key.plain c name
  · exact plain_of_isKeyMark (key.marks c (List.mem_append_right _ closing))
  · exact plain_of_isBlank (key.after.blank c after)

end KeyName

/-! ### Key clauses -/

structure KeyDefinition where
  label : Option ConstraintLabel
  words : KeywordPair "PRIMARY" "KEY"
  blanks : Blanks
  names : List KeyName
  nonempty : names ≠ []

namespace KeyDefinition

variable (definition : KeyDefinition)

def inside : List Char := List.intercalate [','] (definition.names.map KeyName.text)

def text : List Char :=
  labelText definition.label ++
    (definition.words.text ++ (definition.blanks.text ++ ('(' :: definition.inside ++ [')'])))

theorem plain_names : ∀ text ∈ definition.names.map KeyName.text, ∀ c ∈ text, c ≠ '(' ∧ c ≠ ')' ∧ c ≠ ',' := by
  intro text member
  obtain ⟨key, -, rfl⟩ := List.mem_map.mp member
  exact key.plain_text

theorem plain_inside : ∀ c ∈ definition.inside, c ≠ '(' ∧ c ≠ ')' := plain_intercalate definition.plain_names

def clauseText : ClauseText where
  text := definition.text
  nonempty := by simp [text]
  trimmed := by
    constructor
    · rw [text]
      cases definition.label with
      | none => exact definition.words.stops_isBlank _
      | some label => exact label.stops_isBlank_text _
    · simp [text, show isBlank ')' = false by decide]
  whole := (whole_labelText definition.label).append ((whole_of_pair definition.words).append
    ((whole_of_blanks definition.blanks).append (whole_group definition.plain_inside)))

/-- The names of a key clause are those in its parentheses, without blanks and marks. -/
theorem keyNames_text : keyNames definition.text = definition.names.map fun key => String.ofList key.name := by
  have front : '(' ∉ labelText definition.label ++ (definition.words.text ++ definition.blanks.text) := by
    simp [opening_not_mem_labelText, opening_not_mem_pair, opening_not_mem_blanks]
  have split : definition.text = (labelText definition.label ++ (definition.words.text ++ definition.blanks.text)) ++
      ('(' :: definition.inside ++ [')']) := by
    simp [text]
  have bare : (definition.names.map KeyName.text).map bareKeyName = definition.names.map KeyName.name := by
    rw [List.map_map]
    exact List.map_congr_left fun key _ => key.bareKeyName_text
  have all : (definition.names.map KeyName.name).filter (fun name => !name.isEmpty) = definition.names.map KeyName.name := by
    refine List.filter_eq_self.mpr fun name member => ?_
    obtain ⟨key, -, rfl⟩ := List.mem_map.mp member
    simp [key.nonempty]
  calc
    keyNames definition.text =
        (((definition.names.map KeyName.text).map bareKeyName).filter fun name => !name.isEmpty).map String.ofList :=
      split ▸ keyNames_tokens front definition.plain_names
    _ = definition.names.map fun key => String.ofList key.name := by rw [bare, all, List.map_map]; rfl

theorem read_text :
    Clause.read definition.text = .keyList (definition.names.map fun key => String.ofList key.name) := by
  rw [← definition.keyNames_text]
  exact read_primaryKey definition.label definition.words definition.blanks _ rfl

end KeyDefinition

end CrudScripts.Schema
