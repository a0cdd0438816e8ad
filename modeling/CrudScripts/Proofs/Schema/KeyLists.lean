import CrudScripts.Proofs.Schema.KeyFlags
import CrudScripts.Proofs.Schema.KeyNames
import CrudScripts.Proofs.Schema.Splitting

/-!
Key lists that are decorated: each name between blanks and marks in any order. A list gives its names, and nothing for a
token without a name, exactly when each of its tokens is layered (`decorated_list_iff`); blanks inside the marks belong
to the name, as they do in a quoted name (`blank_inside_marks_kept`).
-/
namespace CrudScripts.Schema
open CrudScripts.Text

/-! ### Decorated lists -/

/-- A token of a key list: a name, or nothing, between blanks and marks in any order. -/
structure KeyToken where
  before : List Char
  name : List Char
  after : List Char
  decoration : ∀ c ∈ before ++ after, isBlank c = true ∨ isKeyMark c = true
  plain : ∀ c ∈ name, c ≠ '(' ∧ c ≠ ')' ∧ c ≠ ','
  bare : Bare name

namespace KeyToken

variable (token : KeyToken)

def text : List Char := token.before ++ (token.name ++ token.after)

theorem plain_text : ∀ c ∈ token.text, c ≠ '(' ∧ c ≠ ')' ∧ c ≠ ',' := by
  have around : ∀ c ∈ token.before ++ token.after, c ≠ '(' ∧ c ≠ ')' ∧ c ≠ ',' := by
    intro c member
    rcases token.decoration c member with blank | mark
    · exact plain_of_isBlank blank
    · exact plain_of_isKeyMark mark
  intro c member
  simp only [text, List.mem_append] at member
  rcases member with before | name | after
  · exact around c (List.mem_append_left _ before)
  · exact token.plain c name
  · exact around c (List.mem_append_right _ after)

/-- What begins a name is no decoration, so it is never taken away. -/
theorem bareKeyName_text_ne_nil (some : token.name ≠ []) : bareKeyName token.text ≠ [] := by
  rw [ne_eq, bareKeyName_eq_nil_iff]
  intro marks
  obtain ⟨c, rest, first⟩ := List.exists_cons_of_ne_nil some
  have solid : isBlank c = false := token.bare.trimmed.1 c (by simp [first])
  have letter : isKeyMark c = false := token.bare.front c (by simp [first])
  obtain ⟨before, after, split, blank, blank'⟩ := exists_strip isBlank token.text
  have member : c ∈ before ++ (trim token.text ++ after) := by
    rw [trim, ← split]
    simp [text, first]
  simp only [List.mem_append] at member
  rcases member with front | inside | rear
  · simp [blank c front] at solid
  · simp [marks c inside] at letter
  · simp [blank' c rear] at solid

end KeyToken

/-- A key clause with a list of tokens. -/
def listClause (tokens : List KeyToken) : List Char :=
  "PRIMARY KEY ".toList ++ ('(' :: List.intercalate [','] (tokens.map KeyToken.text) ++ [')'])

/-- The names of those tokens that have one. -/
def tokenNames (tokens : List KeyToken) : List String :=
  ((tokens.map KeyToken.name).filter fun name => !name.isEmpty).map String.ofList

theorem keyNames_listClause (tokens : List KeyToken) :
    keyNames (listClause tokens) =
      (((tokens.map KeyToken.text).map bareKeyName).filter fun name => !name.isEmpty).map String.ofList := by
  have front : '(' ∉ "PRIMARY KEY ".toList := by decide
  refine keyNames_tokens front fun piece member => ?_
  obtain ⟨token, -, rfl⟩ := List.mem_map.mp member
  exact token.plain_text

/-- Two readings of a list have the same nonempty results when they agree, unless the first leaves one out that the
    second has. -/
theorem filter_map_eq_iff {α : Type} (f g : α → List Char) (items : List α) (kept : ∀ x ∈ items, g x ≠ [] → f x ≠ []) :
    ((items.map f).filter fun s => !s.isEmpty) = ((items.map g).filter fun s => !s.isEmpty) ↔
      ∀ x ∈ items, f x = g x := by
  refine ⟨?_, fun same => by rw [List.map_congr_left same]⟩
  induction items with
  | nil => simp
  | cons x items ih =>
    have rest : ∀ x ∈ items, g x ≠ [] → f x ≠ [] := fun x member => kept x (List.mem_cons_of_mem _ member)
    intro same
    rw [List.forall_mem_cons]
    by_cases empty : g x = []
    · by_cases empty' : f x = []
      · rw [List.map_cons, List.map_cons, List.filter_cons_of_neg (by simp [empty']),
          List.filter_cons_of_neg (by simp [empty])] at same
        exact ⟨empty'.trans empty.symm, ih rest same⟩
      · -- The first reading has one result more here, and as many at least in the rest.
        have fewer : (items.map g).countP (fun s => !s.isEmpty) ≤ (items.map f).countP fun s => !s.isEmpty := by
          rw [List.countP_map, List.countP_map]
          refine List.countP_mono_left fun x member some => ?_
          simpa using rest x member (by simpa using some)
        have lengths := congrArg List.length same
        rw [List.map_cons, List.map_cons, List.filter_cons_of_pos (by simp [empty']),
          List.filter_cons_of_neg (by simp [empty]), List.length_cons, ← List.countP_eq_length_filter,
          ← List.countP_eq_length_filter] at lengths
        omega
    · have some : f x ≠ [] := kept x List.mem_cons_self empty
      rw [List.map_cons, List.map_cons, List.filter_cons_of_pos (by simp [some]),
        List.filter_cons_of_pos (by simp [empty])] at same
      obtain ⟨here, later⟩ := List.cons.inj same
      exact ⟨here, ih rest later⟩

theorem keyNames_listClause_iff (tokens : List KeyToken) :
    keyNames (listClause tokens) = tokenNames tokens ↔ ∀ token ∈ tokens, Layered token.text token.name := by
  rw [keyNames_listClause, tokenNames, List.map_inj_right fun _ _ => String.ofList_injective, List.map_map,
    filter_map_eq_iff _ _ _ fun token _ => token.bareKeyName_text_ne_nil]
  refine forall₂_congr fun token _ => ?_
  exact bareKeyName_eq_iff token.bare

theorem keyShape_listClause (tokens : List KeyToken) : KeyShape (listClause tokens) := by
  refine ⟨[], listClause tokens, ' ' :: ('(' :: List.intercalate [','] (tokens.map KeyToken.text) ++ [')']), rfl,
    .inl rfl, ⟨"PRIMARY".toList, ⟨⟨[' '], List.all_eq_true.mp rfl⟩, by decide⟩, "KEY".toList, rfl, rfl, rfl⟩, ?_⟩
  rw [stops_cons]
  decide

/-- What a key clause lists is among the key names of its statement. -/
theorem mem_keyNames_parse {sql : String} {clause : List Char} (member : clause ∈ clausesOf sql) (shape : KeyShape clause)
    {key : String} (listed : key ∈ keyNames clause) : key ∈ (parse sql).table.keyNames := by
  rw [parse_keyNames]
  refine List.mem_flatMap.mpr ⟨clause, member, ?_⟩
  rw [yieldOf_keys (mentionsKey_of_keyShape shape) (.inl shape)]
  exact listed

theorem bare_of_mem_tokenNames {tokens : List KeyToken} {key : String} (named : key ∈ tokenNames tokens) :
    Bare key.toList := by
  obtain ⟨name, kept, rfl⟩ := List.mem_map.mp named
  obtain ⟨token, -, rfl⟩ := List.mem_map.mp (List.mem_of_mem_filter kept)
  rw [String.toList_ofList]
  exact token.bare

/-- A list of tokens gives the names that are decorated in it, and nothing for tokens without a name, exactly when all
    tokens are layered; then the ends of its names are bare. What any clause lists is not empty and has no marks at its
    ends. And a list of tokens flags the columns that it names, in whatever statement it stands. -/
theorem decorated_list_iff (tokens : List KeyToken) :
    (keyNames (listClause tokens) = tokenNames tokens ↔ ∀ token ∈ tokens, Layered token.text token.name) ∧
      ((∀ token ∈ tokens, Layered token.text token.name) → ∀ key ∈ keyNames (listClause tokens), Bare key.toList) ∧
      (∀ clause, ∀ key ∈ keyNames clause,
        key ≠ "" ∧ Stops isKeyMark key.toList ∧ Stops isKeyMark key.toList.reverse) ∧
      ∀ sql, listClause tokens ∈ clausesOf sql → ∀ key ∈ keyNames (listClause tokens),
        key ∈ (parse sql).table.keyNames ∧
          ∀ c ∈ (parse sql).table.columns, lower c.name = lower key → c.isKey = true := by
  refine ⟨keyNames_listClause_iff tokens, ?_, fun clause key => ends_of_mem_keyNames, ?_⟩
  · intro layered key listed
    rw [(keyNames_listClause_iff tokens).mpr layered] at listed
    exact bare_of_mem_tokenNames listed
  · intro sql member key listed
    have known := mem_keyNames_parse member (keyShape_listClause tokens) listed
    exact ⟨known, fun c column same => (parse_isKey_iff column).mpr ⟨key, known, same.symm⟩⟩

/-- A blank inside the marks of a token belongs to its name. -/
theorem blank_inside_marks_kept :
    keyNames "PRIMARY KEY ([ Id ])".toList = [" Id "] ∧ keyNames "PRIMARY KEY ([ ])".toList = [" "] ∧
      ¬ ∀ tokens, keyNames (listClause tokens) = tokenNames tokens := by
  refine ⟨by decide, by decide, fun all => ?_⟩
  let token : KeyToken :=
    { before := "[ ".toList, name := "Id".toList, after := " ]".toList
      decoration := by simp [isBlank, isKeyMark]
      plain := by simp
      bare := ⟨⟨by decide, by decide⟩, by decide, by decide⟩ }
  exact absurd (all [token]) (by decide)

end CrudScripts.Schema
