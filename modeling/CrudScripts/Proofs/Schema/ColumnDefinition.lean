import CrudScripts.Proofs.Schema.ColumnHead
import CrudScripts.Proofs.Schema.Frame
import CrudScripts.Proofs.Schema.Modifier

/-!
Column definitions as they are written. A definition is a name, bare or quoted, a type word with optional
parameters glued to it, and a row of modifiers. Every definition is read as its own column
(`ColumnDefinition.read_text`): its modifiers alone decide whether it forbids the null value, numbers
itself or is the key.
-/
namespace CrudScripts.Schema
open CrudScripts.Text

/-- The parameters of a type, without parentheses and without the words of a key. -/
structure Parameters where
  inside : List Char
  nonempty : inside ≠ []
  plain : ∀ c ∈ inside, c ≠ '(' ∧ c ≠ ')'
  keyless : mentionsPrimaryKey inside = false

def Parameters.text (parameters : Parameters) : List Char := '(' :: parameters.inside ++ [')']

/-- A column definition, as it is written. Its bare name does not end in the first word of a key. -/
structure ColumnDefinition where
  head : ColumnHead
  unended : head.quoting = .bare → ¬ "PRIMARY".toList <:+ head.name.text.map Char.toUpper
  parameters : Option Parameters
  modifiers : List (Gap × Modifier)

namespace ColumnDefinition

variable (definition : ColumnDefinition)

def parametersText : List Char := (definition.parameters.map Parameters.text).getD []

/-- The modifiers, each with the gap before it. -/
def modifiersText : List Char := rowText (Modifier.tokens definition.modifiers)

def text : List Char := definition.head.text (definition.parametersText ++ definition.modifiersText)

def declaresKey : Bool := definition.modifiers.any fun modifier => modifier.2.isPrimaryKey

/-- The column that a definition defines, not flagged as part of the key. -/
def column : Column where
  name := String.ofList definition.head.name.text
  type := String.ofList (definition.head.base.text ++ definition.parametersText)
  isIdentity := definition.modifiers.any fun modifier => modifier.2.isIdentity
  isNullable := !definition.modifiers.any fun modifier => modifier.2.isNotNull

/-! ### The type -/

theorem whole_parametersText : Whole definition.parametersText := by
  rw [parametersText]
  cases definition.parameters with
  | none => exact whole_nil
  | some parameters => exact whole_group parameters.plain

theorem stops_isWord_parametersText (modifiers : List (Gap × Modifier)) :
    Stops isWord (definition.parametersText ++ rowText (Modifier.tokens modifiers)) := by
  rw [parametersText]
  cases definition.parameters with
  | some parameters => exact (stops_cons _ _ _).mpr (by decide)
  | none =>
    cases modifiers with
    | nil => exact stops_nil _
    | cons modifier modifiers =>
      rw [Option.map_none, Option.getD_none, List.nil_append, Modifier.tokens, List.map_cons, rowText_cons]
      exact modifier.1.stops_isWord _

/-- The parameters are the group behind the type word, if there is one. -/
theorem takeParameters_text :
    takeParameters (definition.parametersText ++ definition.modifiersText) =
      (definition.parametersText, definition.modifiersText) := by
  rw [parametersText, takeParameters]
  cases definition.parameters with
  | some parameters =>
    have group : takeGroup (parameters.text ++ definition.modifiersText) =
        some (parameters.inside, definition.modifiersText) :=
      (takeGroup_eq_some_iff _ _ _).mpr ⟨by simp [Parameters.text], parameters.nonempty,
        fun member => (parameters.plain _ member).2 rfl⟩
    rw [Option.map_some, Option.getD_some, group]
    rfl
  | none =>
    have none : takeGroup definition.modifiersText = none := by
      cases taken : takeGroup definition.modifiersText with
      | none => rfl
      | some group =>
        obtain ⟨split, -⟩ := (takeGroup_eq_some_iff _ group.1 group.2).mp taken
        rw [modifiersText] at split
        cases modifiers : definition.modifiers with
        | nil => rw [modifiers] at split; cases split
        | cons modifier rest =>
          obtain ⟨c, blanks, first⟩ := List.exists_cons_of_ne_nil modifier.1.nonempty
          rw [modifiers, Modifier.tokens, List.map_cons, rowText_cons, first] at split
          have blank := modifier.1.blank c (by simp [first])
          rw [(List.cons.inj split).1] at blank
          exact absurd blank (by decide)
    rw [Option.map_none, Option.getD_none, List.nil_append, none]

theorem mentionsPrimaryKey_type : mentionsPrimaryKey (definition.head.base.text ++ definition.parametersText) = false := by
  have base : mentionsPrimaryKey definition.head.base.text = false :=
    mentionsPrimaryKey_of_solid fun c member => definition.head.base.solid member
  rw [parametersText]
  cases definition.parameters with
  | none => simpa using base
  | some parameters =>
    rw [Option.map_some, Option.getD_some, Parameters.text, List.cons_append, mentionsPrimaryKey_stop (by decide) (by decide),
      mentionsPrimaryKey_stop (by decide) (by decide), base, parameters.keyless]
    rfl

theorem trimmed_type : Trimmed (definition.head.base.text ++ definition.parametersText) := by
  constructor
  · exact definition.head.base.stops_isBlank _
  · rw [parametersText]
    cases definition.parameters with
    | none => simpa using (trimmed_of_solid fun c member => definition.head.base.solid member).2
    | some parameters =>
      refine (stops_reverse_append (by simp [Parameters.text]) _).mpr ?_
      rw [Option.map_some, Option.getD_some, Parameters.text]
      exact (stops_reverse_append (by simp) _).mpr ((stops_cons _ _ _).mpr (by decide))

/-! ### The clause -/

def clauseText : ClauseText where
  text := definition.text
  nonempty := definition.head.text_ne_nil _
  trimmed := by
    refine definition.head.trimmed_text ?_
    rw [← List.append_assoc]
    exact Modifier.stops_reverse_tokens definition.modifiers definition.trimmed_type.2
  whole := definition.head.whole_text (definition.whole_parametersText.append (Modifier.whole_tokens _))

theorem not_suffix_quotedName : ¬ "PRIMARY".toList <:+ definition.head.quotedName.map keyLetter := by
  intro ends
  rcases definition.head.quoting.bare_or_marked with bare | ⟨c, -, stop, marked⟩
  · rw [ColumnHead.quotedName, bare, Quoting.mark, List.nil_append, List.append_nil,
      definition.head.name.map_keyLetter] at ends
    exact definition.unended bare ends
  · have last : [keyLetter c] <:+ definition.head.quotedName.map keyLetter := by
      simp only [ColumnHead.quotedName, marked, List.map_append, ← List.append_assoc]
      exact List.suffix_append _ _
    have letter : keyLetter c = 'Y' := by
      obtain ⟨front, same⟩ := List.suffix_of_suffix_length_le last ends (by simp)
      simpa using congrArg List.getLast? same
    exact absurd stop (by simp [isKeyLetter, letter])

/-- The words of a key stand in a definition where a modifier has them. -/
theorem mentionsPrimaryKey_text : mentionsPrimaryKey definition.text = definition.declaresKey := by
  have stops : Stops isBlank
      (definition.head.base.text ++ definition.parametersText ++ definition.modifiersText) := by
    rw [List.append_assoc]
    exact definition.head.base.stops_isBlank _
  have name : mentionsPrimaryKey definition.head.quotedName = false :=
    mentionsPrimaryKey_of_solid definition.head.solid_quotedName
  have parted := mentionsPrimaryKey_gap (trimmed_of_solid definition.head.solid_quotedName).2 definition.head.gap stops
  have rest := Modifier.mentionsPrimaryKey_tokens definition.modifiers definition.trimmed_type.2
  rw [definition.mentionsPrimaryKey_type, Bool.false_or] at rest
  rw [text, ColumnHead.text, declaresKey, ← rest, ← List.append_assoc definition.head.base.text, Bool.eq_iff_iff]
  refine parted.trans ⟨?_, fun behind => .inr (.inl behind)⟩
  rintro (before | behind | ⟨ends, -⟩)
  · exact absurd (name.symm.trans before) (by decide)
  · exact behind
  · exact absurd ends definition.not_suffix_quotedName

theorem column_head :
    definition.head.column (definition.parametersText ++ definition.modifiersText) = definition.column := by
  rw [ColumnHead.column, columnOf, definition.takeParameters_text, column]
  simp only [modifiersText, Modifier.marksIdentity_tokens, Modifier.forbidsNull_tokens]

/-- A column definition is read as its column, and declares the key where a modifier does. -/
theorem read_text : Clause.read definition.text = .column definition.column definition.declaresKey := by
  rw [← definition.mentionsPrimaryKey_text, ← definition.column_head]
  exact definition.head.read_text (definition.stops_isWord_parametersText _)

example : ColumnDefinition.text {
      head := {
        quoting := .quotes
        name := ⟨"LineNo".toList, by decide, List.all_eq_true.mp rfl⟩
        unreserved := nofun
        gap := ⟨⟨[' '], List.all_eq_true.mp rfl⟩, by decide⟩
        base := ⟨"decimal".toList, by decide, List.all_eq_true.mp rfl⟩ }
      unended := nofun
      parameters := some ⟨"18,2".toList, by decide, by simp, by decide⟩
      modifiers := [(⟨⟨['\t'], List.all_eq_true.mp rfl⟩, by decide⟩, .null ⟨"Null".toList, by decide, by decide, by decide⟩)] } =
    "\"LineNo\" decimal(18,2)\tNull".toList := by
  decide

end ColumnDefinition

end CrudScripts.Schema
