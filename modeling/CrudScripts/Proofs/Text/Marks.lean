import CrudScripts.Proofs.Text.Lines
import CrudScripts.Proofs.Text.Occurrence
import Mathlib.Data.List.Infix

/-!
Taking a text apart at a mark and at empty lines. A mark that ends a line is not found in lines that do not end with
it (`behind_append`), and a text is read up to the first empty line (`paragraph_append`).
-/
namespace CrudScripts.Text

/-- The text behind the first place where a mark stands. -/
def behind (mark s : List Char) : Option (List Char) := firstMatch mark.isPrefixOf? s

/-- The text before the first place where a mark stands; all of it where the mark stands nowhere. -/
def upTo (mark : List Char) : List Char → List Char
  | [] => []
  | c :: s => if mark.isPrefixOf (c :: s) then [] else c :: upTo mark s

/-- The text before the first empty line. -/
def paragraph (s : List Char) : List Char := upTo ['\n', '\n'] s

/-! ### Marks -/

theorem behind_mark (mark rest : List Char) : behind mark (mark ++ rest) = some rest :=
  firstMatch_of_isSome ((List.isPrefixOf?_eq_some_iff_append_eq).mpr rfl)

/-- A mark that ends a line is, where it stands at the front of a text, the first line. -/
theorem mem_cut_of_isPrefixOf? {mark s rest found : List Char} (one : '\n' ∉ mark)
    (here : (mark ++ ['\n']).isPrefixOf? (s ++ '\n' :: rest) = some found) : mark ∈ cut '\n' s := by
  rw [List.isPrefixOf?_eq_some_iff_append_eq, List.append_assoc, List.singleton_append] at here
  have lines := congrArg (cut '\n') here
  rw [cut_append_cons, cut_append_cons, cut_of_not_mem one, List.singleton_append] at lines
  obtain ⟨first, others, pieces⟩ := exists_cut '\n' s
  rw [pieces] at lines ⊢
  exact (List.cons.inj lines).1 ▸ List.mem_cons_self

/-- A letter in front of a text lengthens its first line or puts an empty line before it. -/
theorem exists_suffix_of_mem_cut {line s : List Char} (member : line ∈ cut '\n' s) (c : Char) :
    ∃ longer ∈ cut '\n' (c :: s), line <:+ longer := by
  by_cases broken : c = '\n'
  · rw [cut, if_pos broken]
    exact ⟨line, List.mem_cons_of_mem _ member, List.suffix_refl line⟩
  · obtain ⟨first, others, pieces⟩ := exists_cut '\n' s
    rw [cut_cons_of_ne broken, pieces, List.modifyHead_cons]
    rw [pieces] at member
    rcases List.mem_cons.mp member with rfl | later
    · exact ⟨c :: line, List.mem_cons_self, List.suffix_cons c line⟩
    · exact ⟨line, List.mem_cons_of_mem _ later, List.suffix_refl line⟩

theorem isPrefixOf?_eq_none {mark s : List Char} (one : '\n' ∉ mark)
    (elsewhere : ∀ line ∈ cut '\n' s, ¬ mark <:+ line) (rest : List Char) :
    (mark ++ ['\n']).isPrefixOf? (s ++ '\n' :: rest) = none :=
  Option.eq_none_iff_forall_ne_some.mpr fun _ here =>
    elsewhere mark (mem_cut_of_isPrefixOf? one here) (List.suffix_refl mark)

/-- Lines that do not end with a mark are passed over. -/
theorem behind_append {mark s : List Char} (one : '\n' ∉ mark) (elsewhere : ∀ line ∈ cut '\n' s, ¬ mark <:+ line)
    (rest : List Char) : behind (mark ++ ['\n']) (s ++ '\n' :: rest) = behind (mark ++ ['\n']) rest := by
  have here := isPrefixOf?_eq_none one elsewhere rest
  induction s with
  | nil =>
    rw [List.nil_append] at here ⊢
    rw [behind, firstMatch, here]
    rfl
  | cons c s ih =>
    have elsewhere' : ∀ line ∈ cut '\n' s, ¬ mark <:+ line := fun line member ends => by
      obtain ⟨longer, inside, tail⟩ := exists_suffix_of_mem_cut member c
      exact elsewhere longer inside (ends.trans tail)
    rw [List.cons_append] at here ⊢
    rw [behind, firstMatch, here]
    exact ih elsewhere' (isPrefixOf?_eq_none one elsewhere' rest)

/-- When two texts have a last word each and the one ends the other, it still does without the words. -/
theorem suffix_of_last_word {a b word last : List Char} (solid : ' ' ∉ word) (solid' : ' ' ∉ last)
    (ends : a ++ ' ' :: word <:+ b ++ ' ' :: last) : a <:+ b := by
  obtain ⟨front, same⟩ := ends
  have run {s : List Char} (absent : ' ' ∉ s) : ∀ c ∈ s.reverse, (c != ' ') = true := fun c member =>
    bne_iff_ne.mpr fun blank => absent (blank ▸ List.mem_reverse.mp member)
  have reversed : word.reverse ++ ' ' :: (front ++ a).reverse = last.reverse ++ ' ' :: b.reverse := by
    simpa using congrArg List.reverse same
  obtain ⟨-, rest⟩ := run_unique (run solid) (by simp) (run solid') (by simp) reversed
  exact ⟨front, List.reverse_injective (List.cons.inj rest).2⟩

/-! ### Empty lines -/

/-- What has no empty line behind its first is read to its end, when a text goes on behind it. -/
theorem paragraph_append {s : List Char} (solid : ∀ line ∈ (cut '\n' s).tail, line ≠ []) (rest : List Char) :
    paragraph (s ++ rest) = s ++ paragraph rest := by
  induction s with
  | nil => rfl
  | cons c s ih =>
    have step (inside : ['\n', '\n'].isPrefixOf (c :: (s ++ rest)) = false)
        (later : ∀ line ∈ (cut '\n' s).tail, line ≠ []) : paragraph (c :: s ++ rest) = c :: s ++ paragraph rest := by
      rw [List.cons_append, List.cons_append, ← ih later, paragraph, upTo, inside]
      rfl
    by_cases broken : c = '\n'
    · rw [cut, if_pos broken, List.tail_cons] at solid
      refine step ?_ fun line member => solid line (List.mem_of_mem_tail member)
      cases s with
      | nil => exact absurd rfl (solid [] (by simp [cut]))
      | cons d s =>
        have other : d ≠ '\n' := fun same => solid [] (by simp [cut, same]) rfl
        simp [List.isPrefixOf, other.symm]
    · rw [cut_cons_of_ne broken, List.tail_modifyHead] at solid
      exact step (by simp [List.isPrefixOf, Ne.symm broken]) solid

end CrudScripts.Text
