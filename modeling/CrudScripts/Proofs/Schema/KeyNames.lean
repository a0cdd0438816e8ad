import CrudScripts.Proofs.Schema.Grammar
import CrudScripts.Proofs.Schema.Splitting
import CrudScripts.Proofs.Text.Joining

/-!
The names that a clause lists between its parentheses. A token of the list is read as a name when its blanks are outside
its marks and the marks around the name (`bareKeyName_eq_iff`), and a clause gives the names in its first group
(`keyNames_of_firstGroup`).
-/
namespace CrudScripts.Schema
open CrudScripts.Text

/-! ### Bare names -/

/-- A text with neither blanks nor marks at its ends. -/
structure Bare (s : List Char) : Prop where
  trimmed : Trimmed s
  front : Stops isKeyMark s
  rear : Stops isKeyMark s.reverse

/-- A token of a name with marks around it, and blanks around these. -/
def Layered (token name : List Char) : Prop :=
  ∃ (before : Blanks) (opening closing : List Char) (after : Blanks),
    token = before.text ++ ((opening ++ (name ++ closing)) ++ after.text) ∧ ∀ c ∈ opening ++ closing, isKeyMark c = true

theorem isBlank_of_isKeyMark {c : Char} (mark : isKeyMark c = true) : isBlank c = false :=
  isBlank_of_isNameMark (isKeyMark_eq ▸ mark)

theorem plain_of_isKeyMark {c : Char} (mark : isKeyMark c = true) : c ≠ '(' ∧ c ≠ ')' ∧ c ≠ ',' :=
  plain_of_class (by decide) mark

theorem trimmed_of_marks {s : List Char} (marks : ∀ c ∈ s, isKeyMark c = true) : Trimmed s :=
  trimmed_of_solid fun c member => isBlank_of_isKeyMark (marks c member)

/-- A token is read as a bare name exactly when it is layered around it. -/
theorem bareKeyName_eq_iff {token name : List Char} (bare : Bare name) : bareKeyName token = name ↔ Layered token name := by
  constructor
  · rintro rfl
    obtain ⟨before, after, split, blank, blank'⟩ := exists_strip isBlank token
    obtain ⟨opening, closing, split', mark, mark'⟩ := exists_strip isKeyMark (trim token)
    refine ⟨⟨before, blank⟩, opening, closing, ⟨after, blank'⟩, ?_, ?_⟩
    · rw [bareKeyName, ← split']
      exact split
    · intro c member
      rcases List.mem_append.mp member with opens | closes
      · exact mark c opens
      · exact mark' c closes
  · rintro ⟨before, opening, closing, after, rfl, marks⟩
    have opened : ∀ c ∈ opening, isKeyMark c = true := fun c member => marks c (List.mem_append_left _ member)
    have closed : ∀ c ∈ closing, isKeyMark c = true := fun c member => marks c (List.mem_append_right _ member)
    have trimmed := (trimmed_of_marks opened).append (bare.trimmed.append (trimmed_of_marks closed))
    rw [bareKeyName, trim_append trimmed]
    exact strip_append bare.front bare.rear opened closed

/-! ### The names between commas -/

/-- The names between the commas of a text. -/
def listedNames (inside : List Char) : List String :=
  (((cut ',' inside).map bareKeyName).filter fun name => !name.isEmpty).map String.ofList

theorem keyNames_of_firstGroup {clause inside : List Char} (group : FirstGroup clause inside) :
    keyNames clause = listedNames inside := by
  obtain ⟨rest, found⟩ := (firstMatch_takeGroup_iff clause inside).mpr group
  rw [keyNames, found]
  rfl

theorem keyNames_of_no_group {clause : List Char} (none : ¬ ∃ inside, FirstGroup clause inside) : keyNames clause = [] :=
  (keyNames_eq_nil_iff clause).mpr fun inside group => absurd ⟨inside, group⟩ none

/-- The names of a clause whose only parentheses are around its list. -/
theorem keyNames_list {front inside : List Char} (absent : '(' ∉ front) (plain : ∀ c ∈ inside, c ≠ '(' ∧ c ≠ ')') :
    keyNames (front ++ ('(' :: inside ++ [')'])) = listedNames inside := by
  have closed : ')' ∉ inside := fun member => (plain _ member).2 rfl
  by_cases empty : inside = []
  · subst empty
    have none : firstMatch takeGroup (front ++ ['(', ')']) = none := by
      rw [firstMatch_append (takeGroup_of_not_mem absent)]
      rfl
    rw [List.cons_append, List.nil_append, keyNames, none]
    rfl
  · refine keyNames_of_firstGroup ⟨front, [], rfl, empty, closed, fun before behind split => ?_⟩
    exact absurd (by simp [split]) absent

theorem plain_intercalate {pieces : List (List Char)}
    (plain : ∀ piece ∈ pieces, ∀ c ∈ piece, c ≠ '(' ∧ c ≠ ')' ∧ c ≠ ',') :
    ∀ c ∈ List.intercalate [','] pieces, c ≠ '(' ∧ c ≠ ')' := by
  refine (forall_mem_intercalate_iff (by simp)).mpr fun piece member c letter => ?_
  obtain ⟨opening, closing, -⟩ := plain piece member c letter
  exact ⟨opening, closing⟩

/-- The names of a clause whose list is put together from tokens. -/
theorem keyNames_tokens {front : List Char} {tokens : List (List Char)} (absent : '(' ∉ front)
    (plain : ∀ token ∈ tokens, ∀ c ∈ token, c ≠ '(' ∧ c ≠ ')' ∧ c ≠ ',') :
    keyNames (front ++ ('(' :: List.intercalate [','] tokens ++ [')'])) =
      ((tokens.map bareKeyName).filter fun name => !name.isEmpty).map String.ofList := by
  rw [keyNames_list absent (plain_intercalate plain), listedNames]
  by_cases none : tokens = []
  · subst none
    rfl
  · rw [cut_intercalate none fun token member comma => (plain token member _ comma).2.2 rfl]

/-- What a clause lists is a token of its first group without its decoration, where something is left of it. -/
theorem exists_token_of_mem_keyNames {clause : List Char} {key : String} (listed : key ∈ keyNames clause) :
    ∃ inside token, FirstGroup clause inside ∧ token ∈ cut ',' inside ∧ bareKeyName token ≠ [] ∧
      key = String.ofList (bareKeyName token) := by
  by_cases group : ∃ inside, FirstGroup clause inside
  · obtain ⟨inside, group⟩ := group
    rw [keyNames_of_firstGroup group] at listed
    obtain ⟨name, kept, rfl⟩ := List.mem_map.mp listed
    obtain ⟨named, nonempty⟩ := List.mem_filter.mp kept
    obtain ⟨token, member, rfl⟩ := List.mem_map.mp named
    exact ⟨inside, token, group, member, by simpa using nonempty, rfl⟩
  · rw [keyNames_of_no_group group] at listed
    cases listed

/-- What a clause lists is not empty, and has no marks at its ends. -/
theorem ends_of_mem_keyNames {clause : List Char} {key : String} (listed : key ∈ keyNames clause) :
    key ≠ "" ∧ Stops isKeyMark key.toList ∧ Stops isKeyMark key.toList.reverse := by
  obtain ⟨inside, token, -, -, nonempty, rfl⟩ := exists_token_of_mem_keyNames listed
  rw [String.toList_ofList]
  exact ⟨by simpa using nonempty, stops_strip isKeyMark (trim token)⟩

/-- What a clause lists has neither the commas nor the closing parenthesis of the list. -/
theorem plain_of_mem_keyNames {clause : List Char} {key : String} (listed : key ∈ keyNames clause) :
    ∀ c ∈ key.toList, c ≠ ',' ∧ c ≠ ')' := by
  obtain ⟨inside, token, ⟨before, rest, -, -, closed, -⟩, member, -, rfl⟩ := exists_token_of_mem_keyNames listed
  rw [String.toList_ofList]
  intro c letter
  obtain ⟨listed, other⟩ := of_mem_cut member (mem_of_mem_strip (mem_of_mem_strip letter))
  exact ⟨other, fun closing => closed (closing ▸ listed)⟩

end CrudScripts.Schema
