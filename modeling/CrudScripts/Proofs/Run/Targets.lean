import CrudScripts.Proofs.Data.Fields
import CrudScripts.Run.Targets
import Mathlib.Data.List.Basic
import Mathlib.Data.List.Pairwise

/-!
The targets of a run are different from each other (`pairwise_of_resolveTargets`), so those that are texts have
names of their own (`exists_names_of_resolveTargets`). Names that are asked for and not blank are the targets,
without their repetitions (`resolveTargets_texts`): each stands where it is named first (`exists_distinctFrom`).
-/
namespace CrudScripts.Run
open CrudScripts.Data CrudScripts.Settings

/-- What is kept is among the values, and is none of those that were taken before. -/
theorem of_mem_distinctFrom {taken values : List Value} {v : Value} (member : v ∈ distinctFrom taken values) :
    v ∈ values ∧ ∀ w ∈ taken, v.same w = false := by
  induction values generalizing taken with
  | nil => cases member
  | cons u values ih =>
    rw [distinctFrom] at member
    split at member
    · obtain ⟨inside, other⟩ := ih member
      exact ⟨List.mem_cons_of_mem _ inside, other⟩
    · rename_i new
      rcases List.mem_cons.mp member with rfl | later
      · refine ⟨List.mem_cons_self, fun w before => ?_⟩
        rw [Bool.eq_false_iff]
        intro same
        exact new (List.any_eq_true.mpr ⟨w, before, same⟩)
      · obtain ⟨inside, other⟩ := ih later
        exact ⟨List.mem_cons_of_mem _ inside, fun w before => other w (List.mem_append_left _ before)⟩

theorem distinctFrom_pairwise (taken values : List Value) :
    (distinctFrom taken values).Pairwise fun earlier later => later.same earlier = false := by
  induction values generalizing taken with
  | nil => exact .nil
  | cons v values ih =>
    rw [distinctFrom]
    split
    · exact ih taken
    · refine List.pairwise_cons.mpr ⟨fun later member => ?_, ih _⟩
      exact (of_mem_distinctFrom member).2 v (List.mem_append_right _ (List.mem_singleton_self v))

theorem distinctFrom_texts (taken : List String) {names : List String} (distinct : (taken ++ names).Nodup) :
    distinctFrom (taken.map .text) (names.map .text) = names.map .text := by
  induction names generalizing taken with
  | nil => rfl
  | cons name names ih =>
    have new : ((taken.map Value.text).any (Value.text name).same) = false := by
      have apart : ∀ other ∈ taken, name ≠ other := fun other member same =>
        (List.nodup_append.mp distinct).2.2 other member name List.mem_cons_self same.symm
      rw [List.any_map, List.any_eq_false]
      intro other member
      exact fun same => apart other member (eq_of_beq same)
    have rest := ih (taken ++ [name]) (by simpa using distinct)
    rw [List.map_append] at rest
    rw [List.map_cons, distinctFrom, new, if_neg Bool.false_ne_true]
    exact congrArg _ rest

/-! ### Names in order -/

/-- Names in the order in which a list first has them, each once. -/
structure FirstsOf (source names : List String) : Prop where
  members : ∀ name, name ∈ names ↔ name ∈ source
  ordered : names.Pairwise fun earlier later => source.idxOf earlier < source.idxOf later

theorem FirstsOf.nodup {source names : List String} (firsts : FirstsOf source names) : names.Nodup :=
  firsts.ordered.imp fun before same => absurd before (by rw [same]; exact Nat.lt_irrefl _)

theorem same_text_iff {a b : String} : (Value.text a).same (.text b) = true ↔ a = b := beq_iff_eq

/-- What is left of names that are made distinct: those that were not taken before, each where it first stands. -/
theorem exists_distinctFrom (taken source : List String) :
    ∃ names : List String, distinctFrom (taken.map .text) (source.map .text) = names.map .text ∧
      (∀ name, name ∈ names ↔ name ∈ source ∧ name ∉ taken) ∧
      names.Pairwise fun earlier later => source.idxOf earlier < source.idxOf later := by
  induction source generalizing taken with
  | nil => exact ⟨[], rfl, by simp, .nil⟩
  | cons first source ih =>
    have known : (taken.map Value.text).any (Value.text first).same = true ↔ first ∈ taken := by
      rw [List.any_map, List.any_eq_true]
      exact ⟨fun ⟨name, inside, same⟩ => same_text_iff.mp same ▸ inside,
        fun inside => ⟨first, inside, same_text_iff.mpr rfl⟩⟩
    -- The other names all stand one place further on.
    have later {names : List String} (others : ∀ name ∈ names, name ≠ first)
        (ordered : names.Pairwise fun earlier later => source.idxOf earlier < source.idxOf later) :
        names.Pairwise fun earlier later => (first :: source).idxOf earlier < (first :: source).idxOf later := by
      refine ordered.imp_of_mem fun {a b} inA inB before => ?_
      rw [List.idxOf_cons_ne _ (others a inA).symm, List.idxOf_cons_ne _ (others b inB).symm]
      exact Nat.succ_lt_succ before
    rw [List.map_cons, distinctFrom]
    by_cases old : first ∈ taken
    · obtain ⟨names, same, members, ordered⟩ := ih taken
      have others : ∀ name ∈ names, name ≠ first := by
        rintro name member rfl
        exact ((members name).mp member).2 old
      refine ⟨names, by rw [if_pos (known.mpr old), same], fun name => ?_, later others ordered⟩
      rw [members, List.mem_cons]
      constructor
      · rintro ⟨inside, new⟩
        exact ⟨.inr inside, new⟩
      · rintro ⟨rfl | inside, new⟩
        · exact absurd old new
        · exact ⟨inside, new⟩
    · obtain ⟨names, same, members, ordered⟩ := ih (taken ++ [first])
      have others : ∀ name ∈ names, name ≠ first := by
        rintro name member rfl
        exact ((members name).mp member).2 (by simp)
      rw [List.map_append, List.map_singleton] at same
      refine ⟨first :: names, by rw [if_neg (mt known.mp old), same, List.map_cons], fun name => ?_, ?_⟩
      · rw [List.mem_cons, members, List.mem_cons, List.mem_append, List.mem_singleton]
        by_cases here : name = first
        · simp [here, old]
        · simp [here]
      · refine List.pairwise_cons.mpr ⟨fun name member => ?_, later others ordered⟩
        rw [List.idxOf_cons_self, List.idxOf_cons_ne _ (others name member).symm]
        exact Nat.succ_pos _

/-! ### Resolving -/

theorem resolveTargets_eq {requested : Value} {items : List Value} (read : elementsIfAny requested = .ok items)
    (config : Config) : resolveTargets config requested =
      (if (items.filter isTarget).isEmpty then defaultTargets config else .ok (items.filter isTarget)).map
        (distinctFrom []) := by
  rw [resolveTargets, read]
  cases none : (items.filter isTarget).isEmpty with
  | true =>
    change (if _ then defaultTargets config >>= _ else _) = _
    rw [if_pos none]
    rfl
  | false =>
    change (if _ then _ else pure _ >>= _) = _
    rw [if_neg (by simp [none])]
    rfl

theorem defaultTargets_texts {config : Config} {configured : List String}
    (read : config.setting "generation" "default_targets" .null = .ok (.list (configured.map .text))) :
    defaultTargets config = .ok ((if configured ≠ [] then configured else Dialect.supportedNames).map .text) := by
  rw [defaultTargets, read]
  cases configured <;> rfl

/-- Names that are not blank are the targets, each taken once. -/
theorem resolveTargets_texts {names : List String} (given : names ≠ [])
    (nonblank : ∀ name ∈ names, isTarget (.text name) = true) (config : Config) :
    resolveTargets config (.list (names.map .text)) = .ok (distinctFrom [] (names.map .text)) := by
  have taken : (names.map Value.text).filter isTarget = names.map .text :=
    List.filter_eq_self.mpr (List.forall_mem_map.mpr nonblank)
  have elements : elementsIfAny (.list (names.map .text)) = .ok (names.map .text) := by
    simp [elementsIfAny, Value.truthy, given, Value.elements]
  rw [resolveTargets_eq elements, taken, if_neg (by simpa using given)]
  rfl

variable {config : Config} {requested : Value} {targets : List Value}

/-- No target is equal to an earlier one. -/
theorem pairwise_of_resolveTargets (resolved : resolveTargets config requested = .ok targets) :
    targets.Pairwise fun earlier later => later.same earlier = false := by
  obtain ⟨elements, -, rest⟩ := bind_eq_ok_iff.mp resolved
  -- The values come from the request or from the configuration, and are made distinct in both cases.
  dsimp only at rest
  split at rest
  all_goals
    obtain ⟨values, -, ended⟩ := bind_eq_ok_iff.mp rest
    obtain rfl := pure_eq_ok_iff.mp ended
    exact distinctFrom_pairwise [] values

theorem exists_names_of_resolveTargets (resolved : resolveTargets config requested = .ok targets)
    (texts : ∀ target ∈ targets, ∃ name, target = .text name) :
    ∃ names : List String, targets = names.map .text ∧ names.Nodup := by
  have distinct := pairwise_of_resolveTargets resolved
  have named : ∃ names : List String, targets = names.map .text := by
    clear distinct resolved
    induction targets with
    | nil => exact ⟨[], rfl⟩
    | cons target targets ih =>
      obtain ⟨name, rfl⟩ := texts target List.mem_cons_self
      obtain ⟨names, rfl⟩ := ih fun other member => texts other (List.mem_cons_of_mem _ member)
      exact ⟨name :: names, rfl⟩
  obtain ⟨names, rfl⟩ := named
  refine ⟨names, rfl, (List.pairwise_map.mp distinct).imp ?_⟩
  intro earlier later different same
  rw [same, Value.same, beq_self_eq_true] at different
  cases different

end CrudScripts.Run
