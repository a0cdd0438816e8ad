import CrudScripts.Proofs.Text.Layout
import CrudScripts.Schema.Body
import Mathlib.Data.List.Basic

/-!
Cutting a body into its clauses undoes joining them. A clause is whole when it has as many opening as
closing parentheses and each of its commas stands at another depth than zero (`Whole`); whole clauses
joined by commas are cut exactly at the joints, whatever uncut rest stands behind them (`piecesFrom_lead`), so they come
back as they were (`splitTopLevel_intercalate`).
-/
namespace CrudScripts.Schema
open CrudScripts.Text

/-- The depth of parentheses at the end of a text, counted from its start. -/
def depth (s : List Char) : Int := s.foldl depthAfter 0

/-- A text that is not cut: it is balanced, and none of its commas stands at depth zero. -/
structure Whole (s : List Char) : Prop where
  balanced : depth s = 0
  uncut : ∀ before after, s = before ++ ',' :: after → depth before ≠ 0

theorem depth_append (a b : List Char) : depth (a ++ b) = b.foldl depthAfter (depth a) := List.foldl_append

/-! ### Whole texts -/

theorem foldl_depthAfter_of_plain {s : List Char} (plain : ∀ c ∈ s, c ≠ '(' ∧ c ≠ ')') (d : Int) :
    s.foldl depthAfter d = d := by
  induction s generalizing d with
  | nil => rfl
  | cons c s ih =>
    obtain ⟨opening, closing⟩ := plain c List.mem_cons_self
    simp only [List.foldl_cons, depthAfter, if_neg opening, if_neg closing]
    exact ih (fun c member => plain c (List.mem_cons_of_mem _ member)) d

theorem whole_nil : Whole [] := ⟨rfl, fun before after split => by simp at split⟩

theorem whole_of_plain {s : List Char} (plain : ∀ c ∈ s, c ≠ '(' ∧ c ≠ ')' ∧ c ≠ ',') : Whole s where
  balanced := foldl_depthAfter_of_plain (fun c member => ⟨(plain c member).1, (plain c member).2.1⟩) 0
  uncut before after split := absurd rfl (plain ',' (by simp [split])).2.2

theorem Whole.append {a b : List Char} (left : Whole a) (right : Whole b) : Whole (a ++ b) where
  balanced := by rw [depth_append, left.balanced]; exact right.balanced
  uncut before after split := by
    rcases List.append_eq_append_iff.mp split with ⟨middle, rfl, cut⟩ | ⟨middle, cut, rest⟩
    · rw [depth_append, left.balanced]
      exact right.uncut middle after cut
    · cases middle with
      | nil =>
        rw [List.append_nil] at cut
        subst cut
        exact fun _ => right.uncut [] after rest.symm rfl
      | cons c middle =>
        obtain ⟨rfl, rfl⟩ := List.cons.inj rest
        exact left.uncut before middle cut

/-- A parenthesised text without parentheses inside is whole, whatever commas it has. -/
theorem whole_group {inside : List Char} (plain : ∀ c ∈ inside, c ≠ '(' ∧ c ≠ ')') :
    Whole ('(' :: inside ++ [')']) where
  balanced := by
    rw [depth_append]
    have opened : depth ('(' :: inside) = 1 := foldl_depthAfter_of_plain plain 1
    rw [opened]
    rfl
  uncut before after split := by
    cases before with
    | nil => simp at split
    | cons c before =>
      obtain ⟨rfl, rest⟩ := List.cons.inj split
      have front : ∀ c ∈ before, c ≠ '(' ∧ c ≠ ')' := by
        rcases List.append_eq_append_iff.mp rest with ⟨middle, rfl, last⟩ | ⟨middle, rfl, -⟩
        · cases middle with
          | nil => simp at last
          | cons d middle => simp at last
        · exact fun c member => plain c (List.mem_append_left _ member)
      have opened : depth ('(' :: before) = 1 := foldl_depthAfter_of_plain front 1
      rw [opened]
      decide

/-- The letters of a class that leaves out the signs of a body are none of them. -/
theorem plain_of_class {p : Char → Bool} (outside : p '(' = false ∧ p ')' = false ∧ p ',' = false) {c : Char}
    (inside : p c = true) : c ≠ '(' ∧ c ≠ ')' ∧ c ≠ ',' := by
  obtain ⟨opening, closing, comma⟩ := outside
  refine ⟨?_, ?_, ?_⟩ <;> rintro rfl <;> simp_all

theorem plain_of_isBlank {c : Char} (blank : isBlank c = true) : c ≠ '(' ∧ c ≠ ')' ∧ c ≠ ',' :=
  plain_of_class (by decide) blank

theorem plain_of_isKeyLetter {c : Char} (letter : isKeyLetter c = true) : c ≠ '(' ∧ c ≠ ')' ∧ c ≠ ',' :=
  plain_of_class (by decide) letter

theorem whole_of_blanks (blanks : Blanks) : Whole blanks.text :=
  whole_of_plain fun c member => plain_of_isBlank (blanks.blank c member)

theorem whole_of_keyword {word : String} (keyword : Keyword word) : Whole keyword.text :=
  whole_of_plain fun _ member => plain_of_isKeyLetter (keyword.isKeyLetter_of_mem member)

theorem whole_of_pair {first second : String} (pair : KeywordPair first second) : Whole pair.text :=
  (whole_of_keyword pair.one).append ((whole_of_blanks pair.gap.toBlanks).append (whole_of_keyword pair.two))

theorem opening_not_mem_blanks (blanks : Blanks) : '(' ∉ blanks.text :=
  fun member => (plain_of_isBlank (blanks.blank _ member)).1 rfl

theorem opening_not_mem_keyword {word : String} (keyword : Keyword word) : '(' ∉ keyword.text :=
  fun member => (plain_of_isKeyLetter (keyword.isKeyLetter_of_mem member)).1 rfl

theorem opening_not_mem_pair {first second : String} (pair : KeywordPair first second) : '(' ∉ pair.text := by
  simp [KeywordPair.text, opening_not_mem_keyword, opening_not_mem_blanks]

theorem whole_of_word (word : Word) : Whole word.text :=
  whole_of_plain fun c member => plain_of_class (by decide) (word.word c member)

/-! ### Cutting -/

theorem exists_piecesFrom (d : Int) (s : List Char) : ∃ first later, piecesFrom d s = first :: later := by
  refine List.exists_cons_of_ne_nil ?_
  cases s with
  | nil => simp [piecesFrom]
  | cons c s =>
    simp only [piecesFrom]
    split
    · simp
    · split <;> simp

theorem piecesFrom_cons_of_uncut {d : Int} {c : Char} (uncut : ¬ (c = ',' ∧ d = 0)) (s : List Char) :
    piecesFrom d (c :: s) = (piecesFrom (depthAfter d c) s).modifyHead (c :: ·) := by
  obtain ⟨first, later, pieces⟩ := exists_piecesFrom (depthAfter d c) s
  rw [piecesFrom, if_neg uncut, pieces]
  rfl

/-- A front without a comma at depth zero belongs to the first piece. -/
theorem piecesFrom_append {d : Int} {a : List Char}
    (uncut : ∀ before after, a = before ++ ',' :: after → before.foldl depthAfter d ≠ 0) (b : List Char) :
    piecesFrom d (a ++ b) = (piecesFrom (a.foldl depthAfter d) b).modifyHead (a ++ ·) := by
  induction a generalizing d with
  | nil =>
    obtain ⟨first, later, pieces⟩ := exists_piecesFrom d b
    simp [pieces]
  | cons c a ih =>
    have tail := ih (d := depthAfter d c) fun before after split => uncut (c :: before) after (by rw [split]; rfl)
    have inside : ¬ (c = ',' ∧ d = 0) := by
      rintro ⟨rfl, zero⟩
      exact uncut [] a rfl zero
    rw [List.cons_append, piecesFrom_cons_of_uncut inside, tail, List.modifyHead_modifyHead]
    rfl

/-- A text whose commas all stand at another depth than zero. -/
def Uncut (s : List Char) : Prop := ∀ before after, s = before ++ ',' :: after → depth before ≠ 0

theorem piecesFrom_uncut {s : List Char} (uncut : Uncut s) : piecesFrom 0 s = [s] := by
  have pieces := piecesFrom_append uncut []
  rw [List.append_nil] at pieces
  rw [pieces]
  simp [piecesFrom]

theorem piecesFrom_whole_comma {s : List Char} (whole : Whole s) (rest : List Char) :
    piecesFrom 0 (s ++ ',' :: rest) = s :: piecesFrom 0 rest := by
  rw [piecesFrom_append whole.uncut, show s.foldl depthAfter 0 = 0 from whole.balanced, piecesFrom]
  simp [depthAfter]

/-- The text of a body before one of its parts: the earlier parts, with a comma behind each of them. -/
def lead (earlier : List (List Char)) : List Char := earlier.flatMap (· ++ [','])

theorem lead_cons (part : List Char) (earlier : List (List Char)) : lead (part :: earlier) = part ++ ',' :: lead earlier := by
  simp [lead]

theorem lead_concat (earlier : List (List Char)) (part : List Char) :
    lead (earlier ++ [part]) = lead earlier ++ (part ++ [',']) := by
  simp [lead]

/-- Whole parts with a comma behind each of them, and an uncut rest, are what a body is cut into. -/
theorem piecesFrom_lead {parts : List (List Char)} {last : List Char} (whole : ∀ part ∈ parts, Whole part)
    (uncut : Uncut last) : piecesFrom 0 (lead parts ++ last) = parts ++ [last] := by
  induction parts with
  | nil => exact piecesFrom_uncut uncut
  | cons part parts ih =>
    have rest := ih fun other member => whole other (List.mem_cons_of_mem _ member)
    rw [lead_cons, List.append_assoc, List.cons_append, piecesFrom_whole_comma (whole part List.mem_cons_self), rest,
      List.cons_append]

theorem intercalate_concat (parts : List (List Char)) (last : List Char) :
    List.intercalate [','] (parts ++ [last]) = lead parts ++ last := by
  induction parts with
  | nil => simp [lead]
  | cons part parts ih =>
    rw [List.cons_append, List.intercalate_cons_of_ne_nil (by simp), ih, lead_cons]
    simp

/-- Whole clauses joined by commas are the pieces at depth zero; no clauses at all are one empty piece. -/
theorem piecesFrom_intercalate {clauses : List (List Char)} (whole : ∀ clause ∈ clauses, Whole clause)
    (nonempty : clauses ≠ []) : piecesFrom 0 (List.intercalate [','] clauses) = clauses := by
  obtain ⟨front, last, rfl⟩ := (List.eq_nil_or_concat' clauses).resolve_left nonempty
  obtain ⟨earlier, final⟩ := List.forall_mem_append.mp whole
  rw [intercalate_concat, piecesFrom_lead earlier (final last List.mem_cons_self).uncut]

/-- Cutting undoes joining: whole clauses, the last of them not empty, come back as they were. -/
theorem splitTopLevel_intercalate {clauses : List (List Char)} (whole : ∀ clause ∈ clauses, Whole clause)
    (last : clauses.getLast? ≠ some []) : splitTopLevel (List.intercalate [','] clauses) = clauses := by
  cases clauses with
  | nil => rfl
  | cons clause clauses =>
    have pieces := piecesFrom_intercalate whole (by simp)
    simp only [splitTopLevel, pieces, if_neg last]

/-- The blank ones among whole clauses do not count, wherever they stand. -/
theorem nonblank_splitTopLevel {clauses : List (List Char)} (whole : ∀ clause ∈ clauses, Whole clause) :
    ((splitTopLevel (List.intercalate [','] clauses)).map trim).filter (fun clause => !clause.isEmpty) =
      (clauses.map trim).filter fun clause => !clause.isEmpty := by
  by_cases last : clauses.getLast? = some []
  · obtain ⟨front, rfl⟩ := List.getLast?_eq_some_iff.mp last
    have cut : splitTopLevel (List.intercalate [','] (front ++ [[]])) = front := by
      simp only [splitTopLevel, piecesFrom_intercalate whole (by simp), if_pos last, List.dropLast_concat]
    rw [cut, List.map_append, List.filter_append]
    exact (List.append_nil _).symm
  · rw [splitTopLevel_intercalate whole last]

end CrudScripts.Schema
