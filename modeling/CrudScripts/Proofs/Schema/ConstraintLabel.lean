import CrudScripts.Proofs.Schema.Grammar
import CrudScripts.Proofs.Schema.Splitting

/-!
Constraint names. Before a key clause a constraint name is skipped, so the clause is read as its key names
(`read_primaryKey`). Before any other constraint a bare name is taken for a type word, and the clause for a
column with the name `CONSTRAINT` (`ConstraintLabel.parseColumn_bare`); a quoted name is not
(`ConstraintLabel.parseColumn_quoted`).
-/
namespace CrudScripts.Schema
open CrudScripts.Text

/-- A constraint name, with the word before it and the gap behind it. A name with blanks is quoted: it begins
    with a character that words do not have. -/
structure ConstraintLabel where
  word : Keyword "CONSTRAINT"
  gap : Gap
  name : List Char
  nonempty : name ≠ []
  plain : ∀ c ∈ name, c ≠ '(' ∧ c ≠ ')' ∧ c ≠ ','
  begins : Stops isBlank name
  quoted : ∀ c ∈ name, isBlank c = true → Stops isWord name
  gap' : Gap

namespace ConstraintLabel

variable (label : ConstraintLabel)

/-- Whether a name begins like a word. -/
def Bare : Prop := ¬ Stops isWord label.name

instance : Decidable label.Bare := inferInstanceAs (Decidable (¬ Stops isWord label.name))

def text : List Char := label.word.text ++ (label.gap.text ++ (label.name ++ label.gap'.text))

theorem whole_text : Whole label.text :=
  (whole_of_keyword label.word).append
    ((whole_of_blanks label.gap.toBlanks).append
      ((whole_of_plain label.plain).append (whole_of_blanks label.gap'.toBlanks)))

theorem stops_isBlank_text (s : List Char) : Stops isBlank (label.text ++ s) := by
  rw [text, List.append_assoc]
  exact label.word.stops_isBlank _

theorem solid_of_bare (bare : label.Bare) : ∀ c ∈ label.name, isBlank c = false := by
  intro c member
  rw [Bool.eq_false_iff]
  exact fun blank => bare (label.quoted c member blank)

theorem constraintName_text (bare : label.Bare) : ConstraintName label.text :=
  ⟨label.word.text, label.gap, label.name, label.gap', rfl, label.word.spells, label.nonempty,
    label.solid_of_bare bare⟩

/-- A bare name is the type word of a column that the clause does not define. -/
theorem parseColumn_bare (bare : label.Bare) (s : List Char) :
    ∃ (base : Word) (tail : List Char), label.name ++ (label.gap'.text ++ s) = base.text ++ tail ∧
      Stops isWord tail ∧
      parseColumn (label.text ++ s) = some (columnOf label.word.toWord base tail) := by
  cases taken : takeRun isWord (label.name ++ (label.gap'.text ++ s)) with
  | none =>
    have stops := (takeRun_eq_none_iff _ _).mp taken
    exact absurd ((stops_append label.nonempty _).mp stops) bare
  | some run =>
    obtain ⟨base, -, split, stops⟩ := (takeRun_isWord_eq_some_iff _ run.1 run.2).mp taken
    refine ⟨base, run.2, split, stops, parseColumn_of_shape ⟨stops, ⟨[], .inl rfl⟩, label.gap, ?_⟩⟩
    rw [← split]
    simp [text, Keyword.toWord]

/-- A quoted name is no type word. -/
theorem parseColumn_quoted (quoted : Stops isWord label.name) (s : List Char) :
    parseColumn (label.text ++ s) = none := by
  obtain ⟨c, rest, split⟩ := List.exists_cons_of_ne_nil label.nonempty
  have stop : isWord c = false := quoted c (by simp [split])
  have solid : isBlank c = false := label.begins c (by simp [split])
  have none := parseColumn_word_stop label.word.toWord label.gap.toBlanks stop solid
    (rest ++ (label.gap'.text ++ s))
  simpa [text, split, Keyword.toWord] using none

/-- Behind a bare name a clause is no key clause unless the words of a key come next. -/
theorem isKeyClause_eq_false (bare : label.Bare) {s : List Char} (stops : Stops isBlank s)
    (other : dropPrimaryKey s = none) : isKeyClause (label.text ++ s) = false := by
  have dropped := (dropConstraint_eq_some_iff (label.text ++ s) s).mpr
    ⟨label.text, rfl, label.constraintName_text bare, stops⟩
  rw [isKeyClause, dropped, Option.getD_some, other]

end ConstraintLabel

/-- The text of a constraint name, if there is one. -/
def labelText (label : Option ConstraintLabel) : List Char := (label.map ConstraintLabel.text).getD []

theorem opening_not_mem_labelText (label : Option ConstraintLabel) : '(' ∉ labelText label := by
  cases label with
  | none => simp [labelText]
  | some label =>
    have name : '(' ∉ label.name := fun member => (label.plain _ member).1 rfl
    simp [labelText, ConstraintLabel.text, name, opening_not_mem_keyword, opening_not_mem_blanks]

theorem whole_labelText (label : Option ConstraintLabel) : Whole (labelText label) := by
  cases label with
  | none => exact whole_nil
  | some label => exact label.whole_text

/-- The words of a key and a parenthesis behind them make a clause a list of key names, whether or not it has a
    constraint name. -/
theorem read_primaryKey (label : Option ConstraintLabel) (words : KeywordPair "PRIMARY" "KEY") (blanks : Blanks)
    (rest : List Char) {clause : List Char}
    (split : clause = labelText label ++ (words.text ++ (blanks.text ++ '(' :: rest))) :
    Clause.read clause = .keyList (keyNames clause) := by
  have key := keyWords_of_pair words (blanks.text ++ '(' :: rest)
  have stops : Stops continuesWord (blanks.text ++ '(' :: rest) :=
    blanks.stops_text_append (fun _ => continuesWord_of_isBlank) ((stops_cons _ _ _).mpr (by decide))
  have keyed (lead : labelText label = [] ∨ ConstraintName (labelText label)) :
      Clause.read clause = .keyList (keyNames clause) :=
    if_pos ((isKeyClause_iff clause).mpr ⟨labelText label, _, _, split, lead, key, stops⟩)
  cases label with
  | none => exact keyed (.inl rfl)
  | some label =>
    by_cases quoted : Stops isWord label.name
    · -- Blanks in the name hide the words of a key from the front, but the clause still mentions them.
      have mentions : mentionsPrimaryKey clause = true :=
        (mentionsPrimaryKey_iff _).mpr ⟨labelText (some label), _, _, split, key⟩
      have none : parseColumn clause = none := by
        rw [split]
        exact label.parseColumn_quoted quoted _
      rw [Clause.read, none, mentions]
      split <;> rfl
    · exact keyed (.inr (label.constraintName_text quoted))

end CrudScripts.Schema
