import CrudScripts.Proofs.Data.Fields
import CrudScripts.Proofs.Data.Wording
import CrudScripts.Proofs.Settings.Sections

/-!
What loading makes of settings. Settings are loaded when their sections are dictionaries, the default targets are
texts, no relative base directory holds a null character or a name without bytes, and the value of the cookie has a
wording. Loading keeps what was given apart from relative base directories, default targets that count as absent, and
the value of the cookie, which becomes its wording (`load_completes`). What was loaded is loaded again as it is,
because it is settled (`Settled.load_eq`): every part of it is what loading would make of it.
-/
namespace CrudScripts.Settings
open CrudScripts.Data

/-- Settings of the right kinds. -/
structure Loadable (settings : Value) : Prop where
  sections : IsMapping settings
  directories : IsMapping (under settings "base_dirs")
  generation : IsMapping (under settings "generation")
  entitlement : IsMapping (under settings "entitlement")
  targets : AreTargets (under (under settings "generation") "default_targets")

/-- The value of the cookie in settings, or the default for it. -/
def givenCookie (settings : Value) : Value :=
  ((entries (under settings "entitlement")).lookup "cookie_value").getD (.text "1")

/-- A section completed with defaults: the value under one name is decided apart, and under every other name stands
    what was given, or the default. -/
structure Completed (given defaults : List (String × Value)) (decided : String) (value : Value)
    (completed : List (String × Value)) : Prop where
  kept : ∀ name, name ≠ decided → completed.lookup name = (given.lookup name).or (defaults.lookup name)
  decided : completed.lookup decided = some value
  present : ∀ name ∈ defaults.map (·.1), name ∈ completed.map (·.1)

/-- The configuration that settings are loaded as on a machine. -/
structure Completes (machine : Machine) (settings : Value) (config : Config) : Prop where
  runsOn : config.machine = machine
  others : ∀ name ∉ ["base_dirs", "generation", "entitlement"],
    config.sections.lookup name = (entries settings).lookup name
  directories : ∃ resolved, config.sections.lookup "base_dirs" = some (.dict resolved) ∧
    List.Forall₂ (fun given made => given.1 = made.1 ∧ Becomes machine.root given.2 made.2)
      (entries (under settings "base_dirs")) resolved
  generation : ∃ completed, ∃ names : List String, config.sections.lookup "generation" = some (.dict completed) ∧
    Completed (entries (under settings "generation")) generationDefaults "default_targets"
      (.list (names.map .text)) completed ∧
    let given := under (under settings "generation") "default_targets"
    if given.truthy then given = .list (names.map .text) else names = []
  entitlement : ∃ completed, ∃ cookie : String, config.sections.lookup "entitlement" = some (.dict completed) ∧
    (givenCookie settings).display machine.nesting = .ok cookie ∧
    Completed (entries (under settings "entitlement")) entitlementDefaults "cookie_value" (.text cookie) completed

/-! ### The steps of loading -/

/-- The generation section, with default targets that were checked. -/
def completedGeneration (given : List (String × Value)) (targets : Value) : List (String × Value) :=
  Fields.put "default_targets" targets (Fields.putAll generationDefaults given)

/-- The entitlement section, with the wording of the cookie's value. -/
def completedEntitlement (given : List (String × Value)) (cookie : String) : List (String × Value) :=
  Fields.put "cookie_value" (.text cookie) (Fields.putAll entitlementDefaults given)

theorem completeSections_eq_ok_iff {machine : Machine} {settings sections : List (String × Value)} :
    completeSections machine settings = .ok sections ↔
      IsMapping (under (.dict settings) "generation") ∧ IsMapping (under (.dict settings) "entitlement") ∧
      ∃ targets cookie,
        checkedTargets (under (.dict (Fields.putAll generationDefaults
          (entries (under (.dict settings) "generation")))) "default_targets") = .ok targets ∧
        (under (.dict (Fields.putAll entitlementDefaults
          (entries (under (.dict settings) "entitlement")))) "cookie_value").display machine.nesting = .ok cookie ∧
        sections = Fields.putAll settings
          [("generation", .dict (completedGeneration (entries (under (.dict settings) "generation")) targets)),
           ("entitlement",
             .dict (completedEntitlement (entries (under (.dict settings) "entitlement")) cookie))] := by
  constructor
  · intro completed
    obtain ⟨_, first, completed⟩ := bind_eq_ok_iff.mp completed
    obtain ⟨generation, rfl⟩ := completeSection_eq_ok_iff.mp first
    obtain ⟨_, second, completed⟩ := bind_eq_ok_iff.mp completed
    obtain ⟨entitlement, rfl⟩ := completeSection_eq_ok_iff.mp second
    obtain ⟨targets, checked, completed⟩ := bind_eq_ok_iff.mp completed
    obtain ⟨cookie, shown, completed⟩ := bind_eq_ok_iff.mp completed
    exact ⟨generation, entitlement, targets, cookie, checked, shown, (pure_eq_ok_iff.mp completed).symm⟩
  · rintro ⟨generation, entitlement, targets, cookie, checked, shown, rfl⟩
    refine bind_eq_ok_iff.mpr ⟨_, completeSection_eq_ok_iff.mpr ⟨generation, rfl⟩, ?_⟩
    refine bind_eq_ok_iff.mpr ⟨_, completeSection_eq_ok_iff.mpr ⟨entitlement, rfl⟩, ?_⟩
    exact bind_eq_ok_iff.mpr ⟨targets, checked, bind_eq_ok_iff.mpr ⟨cookie, shown, rfl⟩⟩

/-- How settings were loaded: the base directories as they were resolved, the default targets as they were checked, and
    the wording of the cookie's value. -/
structure LoadedBy (machine : Machine) (settings : Value) (resolved : List (String × Value)) (targets : Value)
    (cookie : String) (config : Config) : Prop where
  sections : IsMapping settings
  directories : IsMapping (under settings "base_dirs")
  generation : IsMapping (under settings "generation")
  entitlement : IsMapping (under settings "entitlement")
  paths : resolveDirectories machine (entries (under settings "base_dirs")) = .ok resolved
  checked : checkedTargets (under (.dict (Fields.putAll generationDefaults (entries (under settings "generation"))))
    "default_targets") = .ok targets
  shown : (under (.dict (Fields.putAll entitlementDefaults (entries (under settings "entitlement"))))
    "cookie_value").display machine.nesting = .ok cookie
  made : config = ⟨Fields.putAll (entries settings)
    [("base_dirs", .dict resolved),
     ("generation", .dict (completedGeneration (entries (under settings "generation")) targets)),
     ("entitlement", .dict (completedEntitlement (entries (under settings "entitlement")) cookie))], machine, none⟩

theorem under_put_of_ne {name other : String} (different : other ≠ name) (value : Value) (fields : List (String × Value)) :
    under (.dict (Fields.put name value fields)) other = under (.dict fields) other := by
  rw [under, under, entries, entries, Fields.lookup_put_of_ne different]

theorem load_eq_ok_iff {machine : Machine} {settings : Value} {config : Config} :
    load machine settings = .ok config ↔
      ∃ resolved targets cookie, LoadedBy machine settings resolved targets cookie config := by
  unfold load
  dsimp only
  simp only [map_eq_ok_iff, mapError_eq_ok_iff]
  constructor
  · rintro ⟨sections, loaded, rfl⟩
    obtain ⟨_, read, loaded⟩ := bind_eq_ok_iff.mp loaded
    obtain ⟨fields, mapping, rfl⟩ := memberD_eq_ok_iff.mp read
    rw [mapping] at loaded
    obtain ⟨settled, rfl⟩ := eq_dict_iff.mp mapping
    obtain ⟨_, listed, loaded⟩ := bind_eq_ok_iff.mp loaded
    obtain ⟨directories, rfl⟩ := fieldsIfAny_eq_ok_iff.mp listed
    obtain ⟨resolved, first, loaded⟩ := bind_eq_ok_iff.mp loaded
    obtain ⟨_, ⟨⟩, completed⟩ := bind_eq_ok_iff.mp loaded
    rw [completeSections_eq_ok_iff, under_put_of_ne (by decide), under_put_of_ne (by decide)] at completed
    obtain ⟨generation, entitlement, targets, cookie, checked, shown, rfl⟩ := completed
    exact ⟨resolved, targets, cookie, settled, directories, generation, entitlement, first, checked, shown, rfl⟩
  · rintro ⟨resolved, targets, cookie, loaded⟩
    have mapping := eq_dict_iff.mpr ⟨loaded.sections, rfl⟩
    rw [mapping]
    refine ⟨_, ?_, loaded.made.symm⟩
    refine bind_eq_ok_iff.mpr ⟨_, memberD_eq_ok_iff.mpr ⟨_, rfl, rfl⟩, ?_⟩
    refine bind_eq_ok_iff.mpr ⟨_, fieldsIfAny_eq_ok_iff.mpr ⟨loaded.directories, rfl⟩, ?_⟩
    refine bind_eq_ok_iff.mpr ⟨_, loaded.paths, bind_eq_ok_iff.mpr ⟨_, rfl, ?_⟩⟩
    rw [completeSections_eq_ok_iff, under_put_of_ne (by decide), under_put_of_ne (by decide)]
    exact ⟨loaded.generation, loaded.entitlement, targets, cookie, loaded.checked, loaded.shown, rfl⟩

namespace LoadedBy

variable {machine : Machine} {settings targets : Value} {resolved : List (String × Value)} {cookie : String}
  {config : Config}

theorem lookup_directories (loaded : LoadedBy machine settings resolved targets cookie config) :
    config.sections.lookup "base_dirs" = some (.dict resolved) := by
  rw [loaded.made, Fields.lookup_putAll]
  rfl

theorem lookup_generation (loaded : LoadedBy machine settings resolved targets cookie config) :
    config.sections.lookup "generation" =
      some (.dict (completedGeneration (entries (under settings "generation")) targets)) := by
  rw [loaded.made, Fields.lookup_putAll]
  rfl

theorem lookup_entitlement (loaded : LoadedBy machine settings resolved targets cookie config) :
    config.sections.lookup "entitlement" =
      some (.dict (completedEntitlement (entries (under settings "entitlement")) cookie)) := by
  rw [loaded.made, Fields.lookup_putAll]
  rfl

theorem lookup_other (loaded : LoadedBy machine settings resolved targets cookie config) {name : String}
    (other : name ∉ ["base_dirs", "generation", "entitlement"]) :
    config.sections.lookup name = (entries settings).lookup name := by
  have absent : name ∉ ["entitlement", "generation", "base_dirs"] := fun member =>
    other (by simpa [or_comm, or_left_comm] using member)
  rw [loaded.made, Fields.lookup_putAll, Fields.lookup_eq_none_iff.mpr absent, Option.none_or]

end LoadedBy

/-! ### What loading keeps -/

section
variable {given defaults : List (String × Value)} {decided : String}

theorem completed_put (once : (given.map (·.1)).Nodup) (value : Value) :
    Completed given defaults decided value (Fields.put decided value (Fields.putAll defaults given)) where
  kept name other := by rw [Fields.lookup_put_of_ne other, Fields.lookup_putAll_of_nodup once]
  decided := Fields.lookup_put_self _ _ _
  present name member :=
    (Fields.mem_map_fst_put _ _ _).mpr (.inr ((Fields.mem_map_fst_putAll _ _ _).mpr (.inl member)))

/-- A completed section is left as it is by its defaults. -/
theorem putAll_completed (distinct : (defaults.map (·.1)).Nodup) (known : decided ∈ defaults.map (·.1)) (value : Value) :
    Fields.putAll defaults (Fields.put decided value (Fields.putAll defaults given)) =
      Fields.put decided value (Fields.putAll defaults given) := by
  have there : decided ∈ (Fields.putAll defaults given).map (·.1) := (Fields.mem_map_fst_putAll _ _ _).mpr (.inl known)
  refine Fields.putAll_eq_self (Fields.nodup_put (Fields.nodup_putAll distinct given) decided value) ?_
  rw [Fields.map_fst_put_of_mem decided value _ there]
  exact Fields.map_fst_prefix_putAll defaults given

end

/-! ### Settled sections -/

/-- Sections that loading leaves as they are. -/
structure Settled (machine : Machine) (sections resolved generation entitlement : List (String × Value))
    (names : List String) (cookie : String) : Prop where
  lookupDirectories : sections.lookup "base_dirs" = some (.dict resolved)
  paths : resolveDirectories machine resolved = .ok resolved
  lookupGeneration : sections.lookup "generation" = some (.dict generation)
  generationWhole : Fields.putAll generationDefaults generation = generation
  targets : generation.lookup "default_targets" = some (.list (names.map .text))
  lookupEntitlement : sections.lookup "entitlement" = some (.dict entitlement)
  entitlementWhole : Fields.putAll entitlementDefaults entitlement = entitlement
  cookie : entitlement.lookup "cookie_value" = some (.text cookie)

section
variable {machine : Machine} {v w settings : Value} {config : Config}

theorem exists_settled_of_load (loaded : load machine settings = .ok config) :
    ∃ resolved generation entitlement names cookie,
      Settled machine config.sections resolved generation entitlement names cookie ∧ config.machine = machine ∧
        config.openLog = none := by
  obtain ⟨resolved, targets, cookie, loaded⟩ := load_eq_ok_iff.mp loaded
  obtain ⟨names, rfl, -⟩ := checkedTargets_eq_ok_iff.mp loaded.checked
  refine ⟨resolved, _, _, names, cookie, ⟨loaded.lookup_directories, resolveDirectories_of_resolved loaded.paths,
    loaded.lookup_generation, putAll_completed (by decide) (by decide) _, Fields.lookup_put_self _ _ _,
    loaded.lookup_entitlement, putAll_completed (by decide) (by decide) _, Fields.lookup_put_self _ _ _⟩, ?_⟩
  rw [loaded.made]
  exact ⟨rfl, rfl⟩

/-- Settled sections are loaded as they are. -/
theorem Settled.load_eq {sections resolved generation entitlement : List (String × Value)} {names : List String}
    {cookie : String} (settled : Settled machine sections resolved generation entitlement names cookie) :
    load machine (.dict sections) = .ok ⟨sections, machine, none⟩ := by
  have directories : under (.dict sections) "base_dirs" = .dict resolved := by
    rw [under, entries, settled.lookupDirectories, Option.getD_some]
  have first : under (.dict sections) "generation" = .dict generation := by
    rw [under, entries, settled.lookupGeneration, Option.getD_some]
  have second : under (.dict sections) "entitlement" = .dict entitlement := by
    rw [under, entries, settled.lookupEntitlement, Option.getD_some]
  have checked : checkedTargets (under (.dict (Fields.putAll generationDefaults generation)) "default_targets") =
      .ok (.list (names.map .text)) := by
    rw [settled.generationWhole, under, entries, settled.targets]
    exact checkedTargets_texts names
  have sameGeneration : completedGeneration generation (.list (names.map .text)) = generation := by
    rw [completedGeneration, settled.generationWhole, Fields.put_eq_self settled.targets]
  have shown : (under (.dict (Fields.putAll entitlementDefaults entitlement)) "cookie_value").display
      machine.nesting = .ok cookie := by
    rw [settled.entitlementWhole, under, entries, settled.cookie]
    rfl
  have sameEntitlement : completedEntitlement entitlement cookie = entitlement := by
    rw [completedEntitlement, settled.entitlementWhole, Fields.put_eq_self settled.cookie]
  have same : Fields.putAll sections [("base_dirs", .dict resolved), ("generation", .dict generation),
      ("entitlement", .dict entitlement)] = sections := by
    simp only [Fields.putAll, List.foldl, Fields.put_eq_self settled.lookupDirectories,
      Fields.put_eq_self settled.lookupGeneration, Fields.put_eq_self settled.lookupEntitlement]
  refine load_eq_ok_iff.mpr ⟨resolved, .list (names.map .text), cookie, isMapping_dict _,
    directories ▸ isMapping_dict _, first ▸ isMapping_dict _, second ▸ isMapping_dict _, ?_, ?_, ?_, ?_⟩
  · rw [directories]
    exact settled.paths
  · rw [first]
    exact checked
  · rw [second]
    exact shown
  · rw [first, second, entries, entries, entries, sameGeneration, sameEntitlement, same]

end

/-! ### Loading -/

section
variable {machine : Machine} {settings : Value} {config : Config}

/-- Default targets that are absent and those that count as absent are checked alike. -/
theorem checkedTargets_completed {given : List (String × Value)} (once : (given.map (·.1)).Nodup) :
    checkedTargets (under (.dict (Fields.putAll generationDefaults given)) "default_targets") =
      checkedTargets ((given.lookup "default_targets").getD .null) := by
  rw [under, entries, Fields.lookup_putAll_of_nodup once]
  cases given.lookup "default_targets" <;> rfl

theorem under_completed_cookie (once : ((entries (under settings "entitlement")).map (·.1)).Nodup) :
    under (.dict (Fields.putAll entitlementDefaults (entries (under settings "entitlement")))) "cookie_value" =
      givenCookie settings := by
  rw [under, entries, Fields.lookup_putAll_of_nodup once, givenCookie]
  cases (entries (under settings "entitlement")).lookup "cookie_value" <;> rfl

theorem exists_load_iff
    (once : ∀ name ∈ ["generation", "entitlement"], ((entries (under settings name)).map (·.1)).Nodup) :
    (∃ config, load machine settings = .ok config) ↔
      Loadable settings ∧ (∀ e ∈ entries (under settings "base_dirs"), IsPlainPath machine e.2) ∧
      (givenCookie settings).HasWording machine.nesting := by
  have generation := checkedTargets_completed (once "generation" (by decide))
  have entitlement := under_completed_cookie (once "entitlement" (by decide))
  simp only [load_eq_ok_iff]
  constructor
  · rintro ⟨config, resolved, targets, cookie, loaded⟩
    have checked := generation.symm.trans loaded.checked
    have shown := loaded.shown
    rw [entitlement] at shown
    exact ⟨⟨loaded.sections, loaded.directories, loaded.generation, loaded.entitlement,
        exists_checkedTargets_iff.mp ⟨targets, checked⟩⟩, exists_resolveDirectories_iff.mp ⟨resolved, loaded.paths⟩,
      Value.exists_display_iff.mp ⟨cookie, shown⟩⟩
  · rintro ⟨loadable, plain, worded⟩
    obtain ⟨resolved, paths⟩ := exists_resolveDirectories_iff.mpr plain
    obtain ⟨targets, checked⟩ := exists_checkedTargets_iff.mpr loadable.targets
    obtain ⟨cookie, shown⟩ := Value.exists_display_iff.mpr worded
    rw [← entitlement] at shown
    exact ⟨_, resolved, targets, cookie, loadable.sections, loadable.directories, loadable.generation,
      loadable.entitlement, paths, generation.trans checked, shown, rfl⟩

theorem LoadedBy.completes {resolved : List (String × Value)} {targets : Value} {cookie : String}
    (loaded : LoadedBy machine settings resolved targets cookie config)
    (once : ∀ name ∈ ["generation", "entitlement"], ((entries (under settings name)).map (·.1)).Nodup) :
    Completes machine settings config := by
  have generation := once "generation" (by decide)
  have entitlement := once "entitlement" (by decide)
  have checked := loaded.checked
  rw [checkedTargets_completed generation] at checked
  obtain ⟨names, rfl, given⟩ := checkedTargets_eq_ok_iff.mp checked
  have shown := loaded.shown
  rw [under_completed_cookie entitlement] at shown
  refine ⟨by rw [loaded.made], fun name => loaded.lookup_other, ⟨resolved, loaded.lookup_directories, ?_⟩,
    ⟨_, names, loaded.lookup_generation, completed_put generation _, given⟩,
    ⟨_, cookie, loaded.lookup_entitlement, shown, completed_put entitlement _⟩⟩
  refine (resolveDirectories_eq_ok_iff.mp loaded.paths).imp ?_
  exact fun _ _ made => ⟨made.1, (resolveDirectory_eq_ok_iff.mp made.2).1⟩

end

/-- Settings are loaded exactly when they are of the right kinds, no relative base directory holds a null character or
    a name that the file system has no bytes for, and the value of the cookie has a wording: it is a text, or neither
    too deep nor made of too long numbers. Then they are completed, and the configuration is loaded again as it is.
    That a section names each of its entries once goes without saying for a dictionary. -/
theorem load_completes (machine : Machine) {settings : Value}
    (once : ∀ name ∈ ["generation", "entitlement"], ((entries (under settings name)).map (·.1)).Nodup) :
    ((∃ config, load machine settings = .ok config) ↔
      Loadable settings ∧ (∀ e ∈ entries (under settings "base_dirs"), IsPlainPath machine e.2) ∧
      (givenCookie settings).HasWording machine.nesting) ∧
    ∀ config, load machine settings = .ok config →
      Completes machine settings config ∧ load machine (.dict config.sections) = .ok config := by
  refine ⟨exists_load_iff once, fun config loaded => ⟨?_, ?_⟩⟩
  · obtain ⟨resolved, targets, cookie, steps⟩ := load_eq_ok_iff.mp loaded
    exact steps.completes once
  · obtain ⟨resolved, generation, entitlement, names, cookie, settled, same, closed⟩ := exists_settled_of_load loaded
    rw [settled.load_eq, ← closed, ← same]

theorem load_completes_partial_sections :
    let machine := Machine.plain "/srv/app" String.utf8ByteSize
    let settings := Value.dict [("api", .dict [("port", .int 5001)]), ("base_dirs", .dict [("logs", .text "../logs")]),
      ("generation", .dict [("default_targets", .null), ("dialects", .int 6)]),
      ("entitlement", .dict [("cookie_value", .bool true)])]
    ∃ config, load machine settings = .ok config ∧ Completes machine settings config ∧
      load machine (.dict config.sections) = .ok config := by
  intro machine settings
  have once : ∀ name ∈ ["generation", "entitlement"], ((entries (under settings name)).map (·.1)).Nodup := by decide
  have loadable : Loadable settings :=
    ⟨isMapping_dict _, isMapping_dict _, isMapping_dict _, isMapping_dict _, areTargets_of_falsy rfl⟩
  have plain : ∀ e ∈ entries (under settings "base_dirs"), IsPlainPath machine e.2 := by
    intro e member
    obtain rfl := List.mem_singleton.mp member
    rintro _ ⟨⟩ -
    exact ⟨by decide, fun _ _ => rfl⟩
  have worded : (givenCookie settings).HasWording machine.nesting := .inr ⟨by decide, fun _ member => nomatch member⟩
  obtain ⟨config, loaded⟩ := (load_completes machine once).1.mpr ⟨loadable, plain, worded⟩
  exact ⟨config, loaded, (load_completes machine once).2 config loaded⟩

/-! ### Refused settings of the right kinds -/

/-- A machine that holds the half with the number 55296 as a character of its own. -/
def machineWithHalves : Machine :=
  let half? (c : Char) : Option Nat := if c = '\ue000' then some 0xD800 else none
  { Machine.plain "/srv/app" String.utf8ByteSize with
    half?
    nameFault? := encodingFault? half?
    ascii := fun c small => if_neg (by rintro rfl; exact absurd small (by decide)) }

/-- So many lists around an empty one. -/
def nested : Nat → Value
  | 0 => .list []
  | n + 1 => .list [nested n]

theorem depth_nested (n : Nat) : (nested n).depth = n + 1 := by
  induction n with
  | zero => rfl
  | succ n ih => simp [nested, Value.depth, Value.itemsDepth, ih]

/-- Settings of the right kinds that are not loaded. -/
def RefusesLoadable (machine : Machine) (settings : Value) : Prop :=
  Loadable settings ∧ ¬ ∃ config, load machine settings = .ok config

/-- Settings of the right kinds are refused for a relative base directory with a null character or with a lone half in
    its name, and for a cookie whose value is a number with too many digits or holds lists that are too deep. -/
theorem load_refuses_right_kinds :
    let machine := Machine.plain "/srv/app" String.utf8ByteSize
    let directory (path : String) := Value.dict [("base_dirs", .dict [("logs", .text path)])]
    let cookie (value : Value) := Value.dict [("entitlement", .dict [("cookie_value", value)])]
    RefusesLoadable machine (directory "a\x00b") ∧
      RefusesLoadable machineWithHalves (directory "a\ue000b") ∧
      RefusesLoadable machine (cookie (.int (10 ^ Value.maxDigits))) ∧
      RefusesLoadable machine (cookie (nested 980)) := by
  intro machine directory cookie
  have given (path : String) : Loadable (directory path) :=
    ⟨isMapping_dict _, isMapping_dict _, isMapping_of_falsy rfl, isMapping_of_falsy rfl, areTargets_of_falsy rfl⟩
  have valued (value : Value) : Loadable (cookie value) :=
    ⟨isMapping_dict _, isMapping_of_falsy rfl, isMapping_of_falsy rfl, isMapping_dict _, areTargets_of_falsy rfl⟩
  have needs (value : Value) (loaded : ∃ config, load machine (cookie value) = .ok config) :
      value.HasWording machine.nesting := by
    have once : ∀ name ∈ ["generation", "entitlement"], ((entries (under (cookie value) name)).map (·.1)).Nodup :=
      List.forall_mem_cons.mpr ⟨List.nodup_nil, List.forall_mem_singleton.mpr (List.nodup_singleton _)⟩
    exact ((exists_load_iff once).mp loaded).2.2
  refine ⟨⟨given _, ?_⟩, ⟨given _, ?_⟩, ⟨valued _, fun loaded => ?_⟩, ⟨valued _, fun loaded => ?_⟩⟩
  · rintro ⟨config, loaded⟩
    cases loaded
  · rintro ⟨config, loaded⟩
    cases loaded
  · obtain ⟨s, text⟩ | ⟨-, short⟩ := needs _ loaded
    · cases text
    · exact Value.not_isShort_pow (Nat.le_refl _) (short _ List.mem_cons_self)
  · obtain ⟨s, text⟩ | ⟨shallow, -⟩ := needs _ loaded
    · cases text
    · rw [depth_nested] at shallow
      exact absurd shallow (by decide)

end CrudScripts.Settings
