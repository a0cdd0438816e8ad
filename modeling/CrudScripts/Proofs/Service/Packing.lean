import CrudScripts.Proofs.Run.Targets
import CrudScripts.Proofs.Service.Answers

/-!
What becomes of the scripts of a run in an archive. Under a file name stands the script of the last target that
has this name, so an archive keeps the script of every target exactly when no two targets have one stem
(`archive_keeps_scripts_iff`). Supported dialects never do.
-/
namespace CrudScripts.Service
open CrudScripts.Check CrudScripts.Data CrudScripts.Run CrudScripts.Settings

def targetStem (target : Value) : String := fileStem "dialect" (targetName target)

theorem targetStem_text (name : String) : targetStem (.text name) = fileStem "dialect" name := rfl

/-- The name of the entry for a target. -/
def targetFile (table : String) (target : Value) : String := scriptFileName table (targetName target)

/-- An archive that keeps the scripts of a generated body: an entry for every target, and in the entry of a target
    the script that the body has under this target. -/
structure KeepsScripts (table : String) (targets : List Value) (entries : List (String × String))
    (results : List (String × Value)) : Prop where
  count : entries.length = targets.length
  script : ∀ target ∈ targets, ∃ text, entries.lookup (targetFile table target) = some text ∧
    results.lookup (memberName target) = some (.text text)

/-! ### Names of targets -/

section
variable {config : Config} {requested : Value} {targets : List Value}

theorem nodup_targetFile_iff (table : String) :
    (targets.map (targetFile table)).Nodup ↔ (targets.map targetStem).Nodup := by
  unfold List.Nodup
  rw [List.pairwise_map, List.pairwise_map]
  exact List.Pairwise.iff fun _ _ => not_congr scriptFileName_inj

theorem nodup_memberName (resolved : resolveTargets config requested = .ok targets)
    (texts : ∀ target ∈ targets, ∃ name, target = .text name) : (targets.map memberName).Nodup := by
  obtain ⟨names, rfl, distinct⟩ := exists_names_of_resolveTargets resolved texts
  have same : (names.map Value.text).map memberName = names := by
    rw [List.map_map]
    exact List.map_id names
  rwa [same]

theorem exists_name_of_isSupportedTarget {target : Value} (supported : Dialect.isSupportedTarget target = true) :
    ∃ name ∈ Dialect.supportedNames, target = .text name := by
  cases target with
  | text name => exact ⟨name, List.contains_iff_mem.mp supported, rfl⟩
  | _ => exact absurd supported Bool.false_ne_true

theorem exists_name_of_supported (supported : ∀ target ∈ targets, Dialect.isSupportedTarget target = true) :
    ∀ target ∈ targets, ∃ name, target = .text name := by
  intro target member
  obtain ⟨name, -, same⟩ := exists_name_of_isSupportedTarget (supported target member)
  exact ⟨name, same⟩

theorem nodup_targetStem_of_supported (resolved : resolveTargets config requested = .ok targets)
    (supported : ∀ target ∈ targets, Dialect.isSupportedTarget target = true) : (targets.map targetStem).Nodup := by
  obtain ⟨names, rfl, distinct⟩ := exists_names_of_resolveTargets resolved (exists_name_of_supported supported)
  have known : ∀ name ∈ names, name ∈ Dialect.supportedNames := by
    intro name member
    obtain ⟨other, known, same⟩ := exists_name_of_isSupportedTarget (supported _ (List.mem_map_of_mem member))
    rwa [Value.text.inj same]
  rw [List.map_map]
  refine distinct.map_on fun a first b second same => ?_
  rw [Function.comp_apply, Function.comp_apply, targetStem_text, targetStem_text] at same
  exact fileStem_supported (known a first) (known b second) same

end

/-! ### Entries of targets -/

section
variable {table : String} {targets : List Value} {script : Value → String}

/-- The last target of a name decides what stands under it. -/
theorem lookup_files_eq_some_iff {name text : String} :
    (Fields.ofPairs (targets.map fun target => (targetFile table target, script target))).lookup name = some text ↔
      ∃ before target after, targets = before ++ target :: after ∧ targetFile table target = name ∧
        script target = text ∧ ∀ later ∈ after, targetFile table later ≠ name := by
  rw [Fields.lookup_ofPairs_eq_some_iff]
  constructor
  · rintro ⟨front, back, split, absent⟩
    obtain ⟨before, rest, rfl, -, split⟩ := List.map_eq_append_iff.mp split
    obtain ⟨target, after, rfl, same, rfl⟩ := List.map_eq_cons_iff.mp split
    obtain ⟨named, written⟩ := Prod.mk.inj same
    refine ⟨before, target, after, rfl, named, written, fun later member equal => absent ?_⟩
    rw [← equal, List.map_map]
    exact List.mem_map_of_mem member
  · rintro ⟨before, target, after, rfl, rfl, rfl, absent⟩
    refine ⟨_, _, List.map_append, fun member => ?_⟩
    rw [List.map_map] at member
    obtain ⟨later, inside, same⟩ := List.mem_map.mp member
    exact absent later inside same

theorem map_fst_files : (targets.map fun target => (targetFile table target, script target)).map (·.1) =
    targets.map (targetFile table) := by
  rw [List.map_map]
  rfl

theorem length_files_eq_iff :
    (Fields.ofPairs (targets.map fun target => (targetFile table target, script target))).length = targets.length ↔
      (targets.map targetStem).Nodup := by
  rw [← nodup_targetFile_iff table, ← map_fst_files, ← Fields.length_ofPairs_eq_iff, List.length_map]

theorem keepsScripts_iff (members : (targets.map memberName).Nodup) :
    KeepsScripts table targets (Fields.ofPairs (targets.map fun target => (targetFile table target, script target)))
        (Fields.ofPairs (targets.map fun target => (memberName target, .text (script target)))) ↔
      (targets.map targetStem).Nodup := by
  constructor
  · intro kept
    exact length_files_eq_iff.mp kept.count
  · intro stems
    have files : ((targets.map fun target => (targetFile table target, script target)).map (·.1)).Nodup := by
      rwa [map_fst_files, nodup_targetFile_iff]
    refine ⟨length_files_eq_iff.mpr stems, fun target member => ⟨script target, ?_, ?_⟩⟩
    · exact Fields.lookup_ofPairs_of_nodup files (List.mem_map_of_mem member)
    · refine Fields.lookup_ofPairs_of_nodup ?_ (List.mem_map_of_mem member)
      rw [List.map_map]
      exact members

end

/-! ### Archives and generated bodies -/

section
variable {config : Config} {checker : Checker} {payload : Value} {cookies : Cookies}

/-- For a request that is answered by a generated body and by an archive, the archive holds under a file name the
    script of the last target that has this name. It has an entry for every target exactly when no two targets
    have one stem; it then holds what the body has under each target, if the body tells the targets apart, which
    it does for texts. Supported dialects have stems of their own. -/
theorem archive_keeps_scripts_iff {mediaType title : String} {packed : Archive} {content : Value}
    (downloaded : downloadAnswer config checker payload cookies = .ok (.attachment mediaType title packed))
    (generated : generateAnswer config checker payload cookies = .ok (.body 200 content)) :
    ∃ request targets fields results, readRequest config payload cookies = .ok request ∧
      resolveTargets config request.targets = .ok targets ∧ content = .dict fields ∧
      fields.lookup "results" = some (.dict results) ∧
      let t := (Schema.parse request.sql).table
      (∀ name text, packed.entries.lookup name = some text ↔ ∃ before target after,
        targets = before ++ target :: after ∧ targetFile t.name target = name ∧
        Script.generate (Dialect.ofTarget target) t request.features = text ∧
        ∀ later ∈ after, targetFile t.name later ≠ name) ∧
      (packed.entries.length = targets.length ↔ (targets.map targetStem).Nodup) ∧
      ((targets.map memberName).Nodup →
        (KeepsScripts t.name targets packed.entries results ↔ (targets.map targetStem).Nodup)) ∧
      ((∀ target ∈ targets, ∃ name, target = .text name) → (targets.map memberName).Nodup) ∧
      ((∀ target ∈ targets, Dialect.isSupportedTarget target = true) →
        KeepsScripts t.name targets packed.entries results) := by
  obtain ⟨request, targets, read, resolved, held⟩ := exists_of_downloadAnswer downloaded
  rw [held]
  obtain ⟨request', targets', entitled, fields, read', resolved', -, rfl, -, -, -, results⟩ :=
    exists_of_generateAnswer generated
  -- Both answers come from one request, and so from one list of targets.
  obtain rfl : request = request' := Except.ok.inj (read.symm.trans read')
  obtain rfl : targets = targets' := Except.ok.inj (resolved.symm.trans resolved')
  refine ⟨request, targets, fields, _, read, resolved, rfl, results, fun name text => lookup_files_eq_some_iff,
    length_files_eq_iff, keepsScripts_iff, nodup_memberName resolved, ?_⟩
  intro supported
  have members := nodup_memberName resolved (exists_name_of_supported supported)
  exact (keepsScripts_iff members).mpr (nodup_targetStem_of_supported resolved supported)

/-- Two targets with one stem: the archive has a single entry for them, whose script is compressed to 124 bytes. -/
theorem archive_of_shared_stem :
    let config : Config := { sections := [], machine := .plain "/srv/app" fun _ => 124, openLog := some "logs" }
    let payload : Value := .dict [("create_sql", .text "CREATE TABLE t (id INT PRIMARY KEY, a INT)"),
      ("targets", .list [.text "MySQL", .text "mysql"])]
    ∃ mediaType title packed content,
      downloadAnswer config (fun _ _ => .accepted) payload [] = .ok (.attachment mediaType title packed) ∧
        generateAnswer config (fun _ _ => .accepted) payload [] = .ok (.body 200 content) ∧
        ∃ request targets, readRequest config payload [] = .ok request ∧
          resolveTargets config request.targets = .ok targets ∧ targets = [.text "MySQL", .text "mysql"] ∧
          packed.entries.length ≠ targets.length := by
  intro config payload
  let targets := [Value.text "MySQL", .text "mysql"]
  let request : GenerationRequest := ⟨"CREATE TABLE t (id INT PRIMARY KEY, a INT)", .list targets, ⟨false, false⟩⟩
  have read : readRequest config payload [] = .ok request := rfl
  have texts : ∀ target ∈ targets, ∃ name, target = .text name := by simp [targets]
  have downloaded : ∃ mediaType title packed,
      downloadAnswer config (fun _ _ => .accepted) payload [] = .ok (.attachment mediaType title packed) := by
    have fits : Fits config.machine (Fields.ofPairs (request.files targets)) := fits_plain_iff.mpr (by decide +kernel)
    have prepared : Job.prepare config request.targets (request.wishes (.bool false)) =
        .ok ⟨targets, .bool false, .bool false, .bool false, 980⟩ := rfl
    obtain ⟨answer, accepted⟩ := (exists_downloadAccepted_iff prepared texts).mpr fits
    obtain ⟨_, _, packed, -, -, -, -, rfl⟩ := downloadAccepted_eq_ok_iff.mp accepted
    exact ⟨_, _, packed, answerRequest_of_ok read accepted⟩
  have generated : ∃ content, generateAnswer config (fun _ _ => .accepted) payload [] = .ok (.body 200 content) := by
    have prepared : Job.prepare config request.targets (request.wishes .null) =
        .ok ⟨targets, .bool false, .bool false, .bool true, 980⟩ := rfl
    obtain ⟨answer, accepted⟩ := (exists_generateAccepted_iff prepared texts rfl).mpr fun _ _ _ _ => rfl
    obtain ⟨_, _, -, -, -, -, rfl⟩ := generateAccepted_eq_ok_iff.mp accepted
    exact ⟨_, answerRequest_of_ok read accepted⟩
  obtain ⟨mediaType, title, packed, downloaded⟩ := downloaded
  obtain ⟨content, generated⟩ := generated
  obtain ⟨request, targets, -, -, read, resolved, -, -, -, count, -⟩ := archive_keeps_scripts_iff downloaded generated
  have asked : request = ⟨"CREATE TABLE t (id INT PRIMARY KEY, a INT)", .list [.text "MySQL", .text "mysql"],
      ⟨false, false⟩⟩ := Except.ok.inj (read.symm.trans rfl)
  subst asked
  have both : targets = [.text "MySQL", .text "mysql"] := Except.ok.inj (resolved.symm.trans rfl)
  subst both
  refine ⟨mediaType, title, packed, content, downloaded, generated, _, _, read, resolved, rfl, fun whole => ?_⟩
  exact absurd (count.mp whole) (by decide)

end

end CrudScripts.Service
