import CrudScripts.Dialect.TypeMap
import CrudScripts.Proofs.Text.Occurrence

/-!
The classes of column types. A type belongs to the first class of a type map that it names: one that has a word, and
a key word inside the type in some case. What stands in parentheses is searched as well, so the class of a type with
parameters is that of its base or that of the parameters, whichever comes first (`map_parameters`).
-/
namespace CrudScripts.Dialect.TypeMap
open CrudScripts.Text

/-- A class that has a word, and a key word inside a text in some case. -/
def Names (rule : List String × Option String) (s : String) : Prop :=
  rule.2 ≠ none ∧ ∃ key ∈ rule.1, key.toList <:+: (lower s).toList

theorem ruleMatch_isSome_iff (rule : List String × Option String) (s : String) :
    (ruleMatch (lower s) rule).isSome = true ↔ Names rule s := by
  unfold ruleMatch Names
  split
  · rename_i inside
    simp only [List.any_eq_true, contains_iff] at inside
    rw [Option.isSome_iff_ne_none]
    exact ⟨fun word => ⟨word, inside⟩, fun named => named.1⟩
  · rename_i outside
    simp only [List.any_eq_true, contains_iff] at outside
    exact ⟨nofun, fun named => absurd named.2 outside⟩

instance (rule : List String × Option String) (s : String) : Decidable (Names rule s) :=
  decidable_of_iff _ (ruleMatch_isSome_iff rule s)

/-- The place of the first class that a text names; without one, the place behind all classes. -/
def rank (types : TypeMap) (s : String) : Nat := types.rules.findIdx fun rule => Names rule s

/-- The word of the class at a place. -/
def wordAt (types : TypeMap) (place : Nat) : String := (types.rules[place]?.bind (·.2)).getD types.string

theorem findSome?_ruleMatch (rules : List (List String × Option String)) (s : String) :
    rules.findSome? (ruleMatch (lower s)) = rules[rules.findIdx fun rule => Names rule s]?.bind (·.2) := by
  induction rules with
  | nil => rfl
  | cons rule rules ih =>
    rw [List.findSome?_cons, List.findIdx_cons]
    by_cases named : Names rule s
    · obtain ⟨word, matched⟩ := Option.isSome_iff_exists.mp ((ruleMatch_isSome_iff rule s).mpr named)
      have whole : rule.2 = some word := by
        unfold ruleMatch at matched
        split at matched
        · exact matched
        · cases matched
      simp [named, matched, whole]
    · have unmatched : ruleMatch (lower s) rule = none := by
        rw [← Option.not_isSome_iff_eq_none, ruleMatch_isSome_iff]
        exact named
      simp [named, unmatched, ih]

/-- The word for a type is that of its class. -/
theorem map_eq_wordAt (types : TypeMap) (s : String) : types.map s = types.wordAt (types.rank s) := by
  rw [map, findSome?_ruleMatch]
  rfl

/-! ### Types with parameters -/

theorem toList_lower_group (base p : String) :
    (lower (base ++ "(" ++ p ++ ")")).toList = (lower base).toList ++ '(' :: ((lower p).toList ++ [')']) := by
  have opening : "(".toList.flatMap lowerChar = ['('] := by decide
  have closing : ")".toList.flatMap lowerChar = [')'] := by decide
  simp only [lower, String.toList_append, String.toList_ofList, List.flatMap_append, opening, closing,
    List.append_assoc, List.singleton_append]

/-- A type with parameters names what its base names and what the parameters name. -/
theorem names_parameters_iff {types : TypeMap} {rule : List String × Option String} (member : rule ∈ types.rules)
    (base p : String) : Names rule (base ++ "(" ++ p ++ ")") ↔ Names rule base ∨ Names rule p := by
  have plain : ∀ keys ∈ types.rules.map (·.1), ∀ key ∈ keys, '(' ∉ key.toList ∧ ')' ∉ key.toList ∧ key.toList ≠ [] :=
    show ∀ keys ∈ [["int"], ["char", "text"], ["date", "time"], ["decimal", "numeric"], ["bool", "bit"]], ∀ key ∈ keys,
      '(' ∉ key.toList ∧ ')' ∉ key.toList ∧ key.toList ≠ [] by decide
  have parted : ∀ key ∈ rule.1, key.toList <:+: (lower (base ++ "(" ++ p ++ ")")).toList ↔
      key.toList <:+: (lower base).toList ∨ key.toList <:+: (lower p).toList := by
    intro key listed
    obtain ⟨opening, closing, nonempty⟩ := plain rule.1 (List.mem_map_of_mem member) key listed
    rw [toList_lower_group, infix_append_cons_iff opening, infix_append_cons_iff closing, List.infix_nil]
    simp only [nonempty, or_false]
  unfold Names
  constructor
  · rintro ⟨word, key, listed, inside⟩
    rcases (parted key listed).mp inside with here | there
    · exact .inl ⟨word, key, listed, here⟩
    · exact .inr ⟨word, key, listed, there⟩
  · rintro (⟨word, key, listed, here⟩ | ⟨word, key, listed, there⟩)
    · exact ⟨word, key, listed, (parted key listed).mpr (.inl here)⟩
    · exact ⟨word, key, listed, (parted key listed).mpr (.inr there)⟩

/-- The first place where one of two tests holds is the first of their two places. -/
theorem findIdx_eq_min {α : Type} {either p q : α → Bool} {xs : List α} (splits : ∀ x ∈ xs, either x = (p x || q x)) :
    xs.findIdx either = min (xs.findIdx p) (xs.findIdx q) := by
  induction xs with
  | nil => rfl
  | cons x xs ih =>
    have rest := ih fun y member => splits y (List.mem_cons_of_mem _ member)
    rw [List.findIdx_cons, List.findIdx_cons, List.findIdx_cons, splits x List.mem_cons_self, rest]
    cases p x <;> cases q x <;> simp

theorem rank_parameters (types : TypeMap) (base p : String) :
    types.rank (base ++ "(" ++ p ++ ")") = min (types.rank base) (types.rank p) := by
  refine findIdx_eq_min fun rule member => ?_
  rw [Bool.eq_iff_iff, decide_eq_true_iff, Bool.or_eq_true, decide_eq_true_iff, decide_eq_true_iff]
  exact names_parameters_iff member base p

/-- The word for a type with parameters is that for its base, unless the parameters name an earlier class. -/
theorem map_parameters (types : TypeMap) (base p : String) : types.map (base ++ "(" ++ p ++ ")") =
    if types.rank base ≤ types.rank p then types.map base else types.map p := by
  rw [map_eq_wordAt, map_eq_wordAt, map_eq_wordAt, rank_parameters]
  split
  · rename_i first
    rw [Nat.min_eq_left first]
  · rename_i later
    rw [Nat.min_eq_right (Nat.le_of_not_le later)]

end CrudScripts.Dialect.TypeMap
