import CrudScripts.Proofs.Schema.Grammar

/-!
The grammar of column definitions. A definition is written from its pieces, and no two definitions are written
alike (`ColumnPieces.text_injective`). The reader of columns accepts exactly the texts that are written so, and
takes name, type, parameters and modifiers from the longest pieces (`parseColumn_reads_grammar`).
-/
namespace CrudScripts.Schema
open CrudScripts.Text

attribute [ext] NameMark Word Gap

/-- The pieces of a column definition: what stands on both sides of the name, the name, the gap behind it, the type
    word, and what follows that word without going on with it. -/
@[ext] structure ColumnPieces where
  mark : NameMark
  name : Word
  gap : Gap
  base : Word
  tail : List Char
  stops : Stops isWord tail

namespace ColumnPieces

variable (p : ColumnPieces)

def text : List Char :=
  p.mark.text ++ (p.name.text ++ (p.mark.text ++ (p.gap.text ++ (p.base.text ++ p.tail))))

/-! ### One way to write a definition -/

theorem mark_eq_takeWhile : p.mark.text = (p.text.take 1).takeWhile isNameMark := by
  obtain ⟨c, name, first⟩ := List.exists_cons_of_ne_nil p.name.nonempty
  rcases p.mark.form with bare | ⟨d, marks, marked⟩
  · have plain : isNameMark c = false := isNameMark_of_isWord (p.name.word c (by simp [first]))
    simp [text, bare, first, plain]
  · simp [text, marked, marks]

/-- A name ends at its mark, or at the gap behind it. -/
theorem stops_isWord_mark (s : List Char) : Stops isWord (p.mark.text ++ (p.gap.text ++ s)) := by
  rcases p.mark.form with bare | ⟨d, marks, marked⟩
  · rw [bare, List.nil_append]
    exact p.gap.stops_isWord s
  · rw [marked]
    exact (stops_cons _ _ _).mpr (isWord_of_isNameMark marks)

/-- A text has one reading as a definition at most. -/
theorem text_injective : Function.Injective text := by
  intro p q same
  have mark : p.mark.text = q.mark.text := by rw [mark_eq_takeWhile, mark_eq_takeWhile, same]
  rw [text, text, ← mark, List.append_cancel_left_eq] at same
  obtain ⟨name, rest⟩ := run_unique p.name.word (p.stops_isWord_mark _) q.name.word
    (mark ▸ q.stops_isWord_mark _) same
  obtain ⟨gap, type⟩ := run_unique p.gap.blank (p.base.stops_isBlank _) q.gap.blank (q.base.stops_isBlank _)
    (List.append_cancel_left rest)
  obtain ⟨base, tail⟩ := run_unique p.base.word p.stops q.base.word q.stops type
  exact ColumnPieces.ext (NameMark.ext mark) (Word.ext name) (Gap.ext gap) (Word.ext base) tail

theorem columnShape_text : ColumnShape p.text p.name p.base p.tail := ⟨p.stops, p.mark, p.gap, rfl⟩

end ColumnPieces

theorem isColumn_iff_exists_pieces (clause : List Char) : IsColumn clause ↔ ∃ p : ColumnPieces, p.text = clause := by
  constructor
  · rintro ⟨name, base, tail, stops, mark, gap, rfl⟩
    exact ⟨⟨mark, name, gap, base, tail, stops⟩, rfl⟩
  · rintro ⟨p, rfl⟩
    exact ⟨p.name, p.base, p.tail, p.columnShape_text⟩

/-! ### What follows the type word -/

/-- The parameters at the front of a text: a group in parentheses with something inside, or nothing where no such
    group begins. -/
def ParametersAt (s parameters : List Char) : Prop :=
  (∃ inside after, s = '(' :: inside ++ ')' :: after ∧ inside ≠ [] ∧ ')' ∉ inside ∧
      parameters = '(' :: inside ++ [')']) ∨
    (¬ ∃ inside after, s = '(' :: inside ++ ')' :: after ∧ inside ≠ [] ∧ ')' ∉ inside) ∧ parameters = []

theorem parametersAt_takeParameters (s : List Char) :
    ParametersAt s (takeParameters s).1 ∧ s = (takeParameters s).1 ++ (takeParameters s).2 := by
  rw [takeParameters]
  cases taken : takeGroup s with
  | some group =>
    obtain ⟨inside, after⟩ := group
    obtain ⟨split, nonempty, open'⟩ := (takeGroup_eq_some_iff s inside after).mp taken
    exact ⟨.inl ⟨inside, after, split, nonempty, open', rfl⟩, by simp [split]⟩
  | none =>
    refine ⟨.inr ⟨?_, rfl⟩, rfl⟩
    rintro ⟨inside, after, group⟩
    rw [(takeGroup_eq_some_iff s inside after).mpr group] at taken
    cases taken

/-- A text has one reading of parameters at its front. -/
theorem ParametersAt.eq_takeParameters {s parameters : List Char} (group : ParametersAt s parameters) :
    parameters = (takeParameters s).1 := by
  rcases group with ⟨inside, after, split, nonempty, closed, rfl⟩ | ⟨none, rfl⟩
  · rw [takeParameters, (takeGroup_eq_some_iff s inside after).mpr ⟨split, nonempty, closed⟩]
  · rcases (parametersAt_takeParameters s).1 with ⟨inside, after, split, nonempty, closed, -⟩ | ⟨-, nothing⟩
    · exact absurd ⟨inside, after, split, nonempty, closed⟩ none
    · exact nothing.symm

/-- A keyword somewhere in a text, in any case. -/
def HasKeyword (word : String) (s : List Char) : Prop :=
  ∃ before here after, s = before ++ (here ++ after) ∧ Spells word here

/-- Two keywords somewhere in a text, in any case, with a gap between them. -/
def HasKeywords (first second : String) (s : List Char) : Prop :=
  ∃ (before one : List Char) (gap : Gap) (two after : List Char),
    s = before ++ (one ++ (gap.text ++ (two ++ after))) ∧ Spells first one ∧ Spells second two

theorem occurs_dropKeyword_iff (word : String) (s : List Char) :
    occurs (dropKeyword word.toList) s = true ↔ HasKeyword word s := by
  simp only [occurs_iff, Option.isSome_iff_exists, dropKeyword_eq_some_iff]
  constructor
  · rintro ⟨before, _, rfl, after, here, rfl, spelled⟩
    exact ⟨before, here, after, rfl, spelled⟩
  · rintro ⟨before, here, after, rfl, spelled⟩
    exact ⟨before, here ++ after, rfl, after, here, rfl, spelled⟩

theorem occurs_dropKeywords_iff (first : String) {second : String} (capitals : Capitals second.toList)
    (nonempty : second ≠ "") (s : List Char) :
    occurs (dropKeywords first second) s = true ↔ HasKeywords first second s := by
  simp only [occurs_iff, Option.isSome_iff_exists, dropKeywords_eq_some_iff first capitals nonempty]
  constructor
  · rintro ⟨before, _, rfl, after, one, gap, two, rfl, spelled⟩
    exact ⟨before, one, gap, two, after, rfl, spelled⟩
  · rintro ⟨before, one, gap, two, after, rfl, spelled⟩
    exact ⟨before, _, rfl, after, one, gap, two, rfl, spelled⟩

/-! ### Columns -/

/-- The column of a definition with given parameters behind its type word and given modifiers. -/
structure ColumnPieces.Defines (p : ColumnPieces) (parameters modifiers : List Char) (c : Column) : Prop where
  name : c.name = String.ofList p.name.text
  type : c.type = String.ofList (p.base.text ++ parameters)
  unflagged : c.isKey = false
  identity : c.isIdentity = true ↔
    ∃ word ∈ ["IDENTITY", "AUTO_INCREMENT", "AUTOINCREMENT", "SERIAL"], HasKeyword word modifiers
  nullable : c.isNullable = true ↔ ¬ HasKeywords "NOT" "NULL" modifiers

theorem ColumnPieces.defines_columnOf (p : ColumnPieces) :
    p.Defines (takeParameters p.tail).1 ((takeParameters p.tail).2.dropWhile isBlank)
      (columnOf p.name p.base p.tail) where
  name := rfl
  type := rfl
  unflagged := rfl
  identity := by
    simp only [columnOf, marksIdentity, List.any_eq_true, occurs_dropKeyword_iff]
    rfl
  nullable := by
    rw [← occurs_dropKeywords_iff "NOT" (by decide) (by decide)]
    simp only [columnOf, forbidsNull, Bool.not_eq_true', Bool.not_eq_true]

/-- A text is read as a column exactly when it is written from the pieces of a definition, which it determines. The
    column has the name and the type of the pieces, with the parameters that are glued to the type word, and is not
    flagged; what stands behind the parameters and the blanks after them says whether it numbers itself and whether
    it may be null. -/
theorem parseColumn_reads_grammar :
    (∀ s, (∃ c, parseColumn s = some c) ↔ ∃ p : ColumnPieces, p.text = s) ∧
      (∀ p q : ColumnPieces, p.text = q.text → p = q) ∧
      ∀ p : ColumnPieces, ∃ (parameters : List Char) (blanks : Blanks) (modifiers : List Char) (c : Column),
        p.tail = parameters ++ (blanks.text ++ modifiers) ∧ ParametersAt p.tail parameters ∧
          Stops isBlank modifiers ∧ parseColumn p.text = some c ∧ p.Defines parameters modifiers c := by
  refine ⟨fun s => ?_, fun p q same => ColumnPieces.text_injective same, fun p => ?_⟩
  · rw [← isColumn_iff_exists_pieces, ← parseColumn_isSome_iff, Option.isSome_iff_exists]
  · obtain ⟨parameters, split⟩ := parametersAt_takeParameters p.tail
    let rest := (takeParameters p.tail).2
    have blanks : ∀ c ∈ rest.takeWhile isBlank, isBlank c = true := fun c member => List.mem_takeWhile_imp member
    refine ⟨(takeParameters p.tail).1, ⟨rest.takeWhile isBlank, blanks⟩, rest.dropWhile isBlank,
      columnOf p.name p.base p.tail, ?_, parameters, stops_dropWhile _ _, parseColumn_of_shape p.columnShape_text,
      p.defines_columnOf⟩
    rw [List.takeWhile_append_dropWhile]
    exact split

end CrudScripts.Schema
