import CrudScripts.Proofs.Run.Targets
import CrudScripts.Proofs.Settings.Loading

/-!
The targets that a loaded configuration gives to a request. Names come from the request, from the configuration or
from the list of supported dialects, the first of these that has any, and each is a target once, where it first stands.
Blank names of a request are passed over; those of a configuration are not (`targets_in_order`).
-/
namespace CrudScripts.Run
open CrudScripts.Data CrudScripts.Settings CrudScripts.Text

/-! ### Names that are asked for -/

/-- The texts of a list that are not blank. -/
def requestedNames (items : List Value) : List String :=
  (items.filterMap Value.text?).filter fun name => !allBlank name.toList

theorem filter_isTarget (items : List Value) : items.filter isTarget = (requestedNames items).map .text := by
  induction items with
  | nil => rfl
  | cons v items ih =>
    cases v with
    | text name =>
      have step : requestedNames (.text name :: items) =
          ([name].filter fun name => !allBlank name.toList) ++ requestedNames items := by
        rw [requestedNames, requestedNames, ← List.filter_append]
        rfl
      rw [step, List.map_append, ← ih]
      by_cases blank : allBlank name.toList = true <;> simp [isTarget, blank]
    | _ => exact ih

/-- The names that targets come from: the ones asked for, those of the configuration, or all that are supported. -/
def sourceNames (configured : List String) (items : List Value) : List String :=
  if requestedNames items ≠ [] then requestedNames items
  else if configured ≠ [] then configured
  else Dialect.supportedNames

/-- A request for targets: none, or a list of whatever was asked for. -/
def requestOf : Option (List Value) → Value
  | some items => .list items
  | none => .null

theorem elementsIfAny_requestOf (items : Option (List Value)) :
    elementsIfAny (requestOf items) = .ok (items.getD []) := by
  cases items with
  | none => rfl
  | some items => cases items <;> rfl

theorem requestedNames_texts (names : List String) :
    requestedNames (names.map .text) = names.filter fun name => !allBlank name.toList := by
  have texts : (names.map Value.text).filterMap Value.text? = names := by
    rw [List.filterMap_map]
    exact List.filterMap_some
  rw [requestedNames, texts]

theorem setting_of_load {machine : Machine} {settings : Value} {config : Config}
    (loaded : load machine settings = .ok config) :
    ∃ configured : List String,
      config.setting "generation" "default_targets" .null = .ok (.list (configured.map .text)) := by
  obtain ⟨_, generation, _, names, _, settled, -⟩ := exists_settled_of_load loaded
  refine ⟨names, ?_⟩
  rw [Config.setting, Config.section?, settled.lookupGeneration, Option.getD_some]
  change Except.ok ((generation.lookup "default_targets").getD .null) = _
  rw [settled.targets, Option.getD_some]

theorem sourceNames_ne_nil (configured : List String) (items : List Value) : sourceNames configured items ≠ [] := by
  unfold sourceNames
  split
  · assumption
  · split
    · assumption
    · decide

section
variable {config : Config} {configured : List String}
  (read : config.setting "generation" "default_targets" .null = .ok (.list (configured.map .text)))
include read

theorem resolveTargets_requestOf (items : Option (List Value)) : resolveTargets config (requestOf items) =
    .ok (distinctFrom [] ((sourceNames configured (items.getD [])).map .text)) := by
  rw [resolveTargets_eq (elementsIfAny_requestOf items), filter_isTarget, defaultTargets_texts read, sourceNames]
  cases requestedNames (items.getD []) <;> rfl

theorem exists_resolved (items : Option (List Value)) : ∃ names : List String,
    resolveTargets config (requestOf items) = .ok (names.map .text) ∧
      FirstsOf (sourceNames configured (items.getD [])) names := by
  obtain ⟨names, same, members, ordered⟩ := exists_distinctFrom [] (sourceNames configured (items.getD []))
  rw [List.map_nil] at same
  exact ⟨names, by rw [resolveTargets_requestOf read, same], fun name => by simpa using members name, ordered⟩

end

theorem nonblank_sourceNames_iff (configured : List String) (items : List Value) :
    (∀ name ∈ sourceNames configured items, allBlank name.toList = false) ↔
      requestedNames items ≠ [] ∨ ∀ name ∈ configured, allBlank name.toList = false := by
  have asked : ∀ name ∈ requestedNames items, allBlank name.toList = false := fun name member => by
    simpa using (List.mem_filter.mp member).2
  have supported : ∀ name ∈ Dialect.supportedNames, allBlank name.toList = false := by decide
  unfold sourceNames
  split
  · rename_i given
    exact iff_of_true asked (.inl given)
  · rename_i absent
    split
    · simp only [absent, false_or]
    · rename_i unset
      simp only [ne_eq, not_not] at unset
      exact iff_of_true supported (.inr (by simp [unset]))

section
variable {config : Config} {configured names : List String} {items : Option (List Value)}

theorem FirstsOf.ne_nil (firsts : FirstsOf (sourceNames configured (items.getD [])) names) : names ≠ [] := by
  rintro rfl
  obtain ⟨name, member⟩ := List.exists_mem_of_ne_nil _ (sourceNames_ne_nil configured (items.getD []))
  exact List.not_mem_nil ((firsts.members name).mpr member)

theorem resolveTargets_again_iff
    (read : config.setting "generation" "default_targets" .null = .ok (.list (configured.map .text)))
    (resolved : resolveTargets config (requestOf items) = .ok (names.map .text))
    (firsts : FirstsOf (sourceNames configured (items.getD [])) names) :
    resolveTargets config (requestOf (some (names.map .text))) = .ok (names.map .text) ↔
      (∀ name ∈ names, allBlank name.toList = false) ∨ ∀ name ∈ names, allBlank name.toList = true := by
  have texts {a b : List String} : (.ok (a.map .text) : Except Failure (List Value)) = .ok (b.map .text) ↔ a = b := by
    rw [Except.ok.injEq]
    exact (List.map_injective_iff.mpr fun _ _ => Value.text.inj).eq_iff
  rw [resolveTargets_requestOf read, Option.getD_some, sourceNames, requestedNames_texts]
  cases kept : names.filter fun name => !allBlank name.toList with
  | nil =>
    have blank : ∀ name ∈ names, allBlank name.toList = true := by simpa using List.filter_eq_nil_iff.mp kept
    -- Blank names were not asked for, and asking for them is asking for none.
    have unasked : requestedNames (items.getD []) = [] := by
      by_contra given
      obtain ⟨name, member⟩ := List.exists_mem_of_ne_nil _ firsts.ne_nil
      have solid := (nonblank_sourceNames_iff configured _).mpr (.inl given) name ((firsts.members name).mp member)
      rw [blank name member] at solid
      cases solid
    rw [resolveTargets_requestOf read, sourceNames, unasked] at resolved
    exact iff_of_true resolved (.inr blank)
  | cons first others =>
    have distinct : (first :: others).Nodup := kept ▸ firsts.nodup.filter _
    have solid : allBlank first.toList = false ∧ first ∈ names := by
      have member : first ∈ names.filter fun name => !allBlank name.toList := kept ▸ List.mem_cons_self
      rw [List.mem_filter] at member
      exact ⟨by simpa using member.2, member.1⟩
    rw [if_pos (List.cons_ne_nil _ _), ← List.map_nil, distinctFrom_texts [] (by simpa using distinct), texts, ← kept,
      List.filter_eq_self]
    constructor
    · intro all
      exact .inl fun name member => by simpa using all name member
    · rintro (all | none)
      · exact fun name member => by simp [all name member]
      · rw [none first solid.2] at solid
        cases solid.1

end

/-- The targets of a loaded configuration are the names that were asked for and are not blank, or else those of the
    configuration, or else all that are supported; each of them once, where it first stands. Names of the
    configuration may be blank: none of the targets is if and only if some names were asked for or no configured one
    is blank, and asking for the targets gives them again if and only if none of them is blank or all are. -/
theorem targets_in_order {machine : Machine} {settings : Value} {config : Config}
    (loaded : load machine settings = .ok config) : ∃ configured : List String,
    config.setting "generation" "default_targets" .null = .ok (.list (configured.map .text)) ∧
    ∀ items : Option (List Value), ∃ names : List String,
      resolveTargets config (requestOf items) = .ok (names.map .text) ∧ names ≠ [] ∧
      FirstsOf (sourceNames configured (items.getD [])) names ∧
      ((∀ name ∈ names, allBlank name.toList = false) ↔
        requestedNames (items.getD []) ≠ [] ∨ ∀ name ∈ configured, allBlank name.toList = false) ∧
      (resolveTargets config (requestOf (some (names.map .text))) = .ok (names.map .text) ↔
        (∀ name ∈ names, allBlank name.toList = false) ∨ ∀ name ∈ names, allBlank name.toList = true) := by
  obtain ⟨configured, read⟩ := setting_of_load loaded
  refine ⟨configured, read, fun items => ?_⟩
  obtain ⟨names, resolved, firsts⟩ := exists_resolved read items
  refine ⟨names, resolved, firsts.ne_nil, firsts, ?_, resolveTargets_again_iff read resolved firsts⟩
  rw [← nonblank_sourceNames_iff]
  simp only [firsts.members]

/-- A blank name of a configuration is a target, and is none any more when it is asked for. -/
theorem targets_of_blank_default :
    let settings : Value := .dict [("generation", .dict [("default_targets", .list [.text "", .text "MySQL"])])]
    ∃ config, load (.plain "/srv/app" String.utf8ByteSize) settings = .ok config ∧ ∃ names : List String,
      resolveTargets config (requestOf none) = .ok (names.map .text) ∧ names = ["", "MySQL"] ∧
      (¬ ∀ name ∈ names, allBlank name.toList = false) ∧
      resolveTargets config (requestOf (some (names.map .text))) ≠ .ok (names.map .text) := by
  intro settings
  have loaded : load (.plain "/srv/app" String.utf8ByteSize) settings = .ok ⟨_, _, none⟩ := rfl
  obtain ⟨configured, -, targets⟩ := targets_in_order loaded
  obtain ⟨names, resolved, -, -, -, again⟩ := targets none
  have same : names.map Value.text = ["", "MySQL"].map .text := Except.ok.inj (resolved.symm.trans rfl)
  obtain rfl : names = ["", "MySQL"] := List.map_injective_iff.mpr (fun _ _ => Value.text.inj) same
  refine ⟨_, loaded, _, resolved, rfl, by decide, fun kept => ?_⟩
  exact absurd (again.mp kept) (by decide)

end CrudScripts.Run
