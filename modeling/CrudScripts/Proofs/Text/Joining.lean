import CrudScripts.Text.Scan

/-!
Cutting a text at a separator undoes joining pieces with it, when no piece has the separator
(`cut_intercalate`). The letters of a joined text are its pieces' letters, with the separator's between them
(`toList_join`).
-/
namespace CrudScripts.Text

theorem cut_ne_nil (separator : Char) (s : List Char) : cut separator s ≠ [] := by
  cases s with
  | nil => simp [cut]
  | cons c s =>
    simp only [cut]
    split
    · simp
    · split <;> simp

theorem exists_cut (separator : Char) (s : List Char) : ∃ first later, cut separator s = first :: later :=
  List.exists_cons_of_ne_nil (cut_ne_nil separator s)

theorem cut_cons_of_ne {separator c : Char} (other : c ≠ separator) (s : List Char) :
    cut separator (c :: s) = (cut separator s).modifyHead (c :: ·) := by
  obtain ⟨first, later, pieces⟩ := exists_cut separator s
  rw [cut, if_neg other, pieces]
  rfl

/-- The letters of the pieces are the letters of the text other than the separator. -/
theorem exists_mem_cut_iff {separator c : Char} {s : List Char} :
    (∃ piece ∈ cut separator s, c ∈ piece) ↔ c ∈ s ∧ c ≠ separator := by
  induction s with
  | nil => simp [cut]
  | cons d s ih =>
    by_cases separates : d = separator
    · subst separates
      simp only [cut, ↓reduceIte, List.mem_cons, exists_eq_or_imp, ih, List.not_mem_nil, false_or]
      rw [or_and_right, and_not_self_iff, false_or]
    · obtain ⟨first, later, pieces⟩ := exists_cut separator s
      rw [cut_cons_of_ne separates, pieces, List.modifyHead_cons]
      simp only [pieces, List.mem_cons, exists_eq_or_imp] at ih ⊢
      rw [or_assoc, ih, or_and_right]
      exact or_congr_left ⟨fun same => ⟨same, same ▸ separates⟩, And.left⟩

theorem of_mem_cut {separator : Char} {s piece : List Char} (member : piece ∈ cut separator s) {c : Char}
    (inside : c ∈ piece) : c ∈ s ∧ c ≠ separator := exists_mem_cut_iff.mp ⟨piece, member, inside⟩

theorem not_mem_of_mem_cut {separator : Char} {s piece : List Char} (member : piece ∈ cut separator s) :
    separator ∉ piece := fun inside => (of_mem_cut member inside).2 rfl

theorem cut_append {separator : Char} {a : List Char} (absent : separator ∉ a) (s : List Char) :
    cut separator (a ++ s) = (cut separator s).modifyHead (a ++ ·) := by
  induction a with
  | nil =>
    obtain ⟨first, later, pieces⟩ := exists_cut separator s
    simp [pieces]
  | cons c a ih =>
    have other : c ≠ separator := fun same => absent (by simp [same])
    rw [List.cons_append, cut_cons_of_ne other, ih fun member => absent (List.mem_cons_of_mem _ member),
      List.modifyHead_modifyHead]
    rfl

theorem cut_of_not_mem {separator : Char} {s : List Char} (absent : separator ∉ s) : cut separator s = [s] := by
  simpa [cut] using cut_append absent []

/-- What a separator parts is cut part by part. -/
theorem cut_append_cons (separator : Char) (a b : List Char) :
    cut separator (a ++ separator :: b) = cut separator a ++ cut separator b := by
  induction a with
  | nil => simp [cut]
  | cons c a ih =>
    rw [List.cons_append]
    by_cases separates : c = separator
    · rw [cut, cut, if_pos separates, if_pos separates, ih, List.cons_append]
    · obtain ⟨first, later, pieces⟩ := exists_cut separator a
      rw [cut_cons_of_ne separates, cut_cons_of_ne separates, ih, pieces]
      rfl

theorem cut_intercalate {separator : Char} {pieces : List (List Char)} (nonempty : pieces ≠ [])
    (absent : ∀ piece ∈ pieces, separator ∉ piece) :
    cut separator (List.intercalate [separator] pieces) = pieces := by
  induction pieces with
  | nil => exact absurd rfl nonempty
  | cons piece pieces ih =>
    have here := cut_of_not_mem (absent piece List.mem_cons_self)
    cases pieces with
    | nil => simpa using here
    | cons next pieces =>
      have rest := ih (by simp) fun other member => absent other (List.mem_cons_of_mem _ member)
      rw [List.intercalate_cons_cons, List.append_assoc, List.singleton_append, cut_append_cons, here, rest,
        List.singleton_append]

/-- What holds of the characters of a separator holds of those of a joined text exactly when it holds of those of the
    pieces. -/
theorem forall_mem_intercalate_iff {p : Char → Prop} {separator : List Char} (between : ∀ c ∈ separator, p c)
    {pieces : List (List Char)} :
    (∀ c ∈ List.intercalate separator pieces, p c) ↔ ∀ piece ∈ pieces, ∀ c ∈ piece, p c := by
  induction pieces with
  | nil => simp
  | cons piece pieces ih =>
    cases pieces with
    | nil => simp
    | cons next pieces =>
      rw [List.intercalate_cons_cons, List.forall_mem_append, List.forall_mem_append, ih,
        List.forall_mem_cons (l := next :: pieces)]
      exact ⟨fun all => ⟨all.1.1, all.2⟩, fun all => ⟨⟨all.1, between⟩, all.2⟩⟩

theorem toList_join (separator : String) (texts : List String) :
    (join separator texts).toList = List.intercalate separator.toList (texts.map String.toList) := by
  induction texts with
  | nil => rfl
  | cons text texts ih =>
    cases texts with
    | nil => simp [join]
    | cons next texts =>
      simp only [join, String.toList_append, ih, List.map_cons, List.intercalate_cons_cons]

theorem join_cons (separator first : String) (texts : List String) :
    join separator (first :: texts) = first ++ String.join (texts.map (separator ++ ·)) := by
  induction texts generalizing first with
  | nil => simp [join]
  | cons next texts ih => rw [join, ih, List.map_cons, String.join_cons, String.append_assoc, String.append_assoc]

/-- Texts that come after others are joined to them one by one. -/
theorem join_append (separator : String) {texts : List String} (given : texts ≠ []) (more : List String) :
    join separator (texts ++ more) = join separator texts ++ String.join (more.map (separator ++ ·)) := by
  obtain ⟨first, rest, rfl⟩ := List.exists_cons_of_ne_nil given
  rw [List.cons_append, join_cons, join_cons, List.map_append, String.join_append, String.append_assoc]

theorem not_mem_join {c : Char} {separator : String} (absent : c ∉ separator.toList) {texts : List String}
    (absent' : ∀ text ∈ texts, c ∉ text.toList) : c ∉ (join separator texts).toList := by
  have between : ∀ d ∈ separator.toList, d ≠ c := by
    rintro d inside rfl
    exact absent inside
  have pieces : ∀ piece ∈ texts.map String.toList, ∀ d ∈ piece, d ≠ c := by
    rintro piece member d inside rfl
    obtain ⟨text, joined, rfl⟩ := List.mem_map.mp member
    exact absent' text joined inside
  rw [toList_join]
  exact fun member => (forall_mem_intercalate_iff between).mpr pieces c member rfl

end CrudScripts.Text
