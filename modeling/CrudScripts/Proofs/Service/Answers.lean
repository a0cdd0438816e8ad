import CrudScripts.Proofs.Data.Fields
import CrudScripts.Proofs.Data.Written
import CrudScripts.Proofs.Run.Jobs
import CrudScripts.Proofs.Service.Capacity
import CrudScripts.Service.Endpoint

/-!
What a successful answer is made of. The body of a generation holds the scripts of a job that serves the
request (`exists_of_generateAnswer`); so does an archive, under the file names of the job's targets
(`exists_of_downloadAnswer`).
-/
namespace CrudScripts.Service
open CrudScripts.Check CrudScripts.Data CrudScripts.Run CrudScripts.Settings

variable {config : Config} {checker : Checker} {payload : Value} {cookies : Cookies}

/-! ### Jobs -/

/-- A job with the targets and the features of a request. -/
structure Serves (config : Config) (request : GenerationRequest) (job : Job) : Prop where
  targets : resolveTargets config request.targets = .ok job.targets
  routines : job.routines = .bool request.features.routines
  diff : job.diff = .bool request.features.diff

/-- The script that a request asks for, for a target. -/
def GenerationRequest.script (request : GenerationRequest) (target : Value) : String :=
  Script.generate (Dialect.ofTarget target) (Schema.parse request.sql).table request.features

theorem serves_of_prepare {request : GenerationRequest} {check : Value} {job : Job}
    (prepared : Job.prepare config request.targets (request.wishes check) = .ok job) : Serves config request job := by
  obtain ⟨-, -, prepared⟩ := bind_eq_ok_iff.mp prepared
  obtain ⟨targets, resolved, prepared⟩ := bind_eq_ok_iff.mp prepared
  dsimp only at prepared
  split at prepared
  all_goals
    obtain ⟨_, -, ended⟩ := bind_eq_ok_iff.mp prepared
    obtain rfl := pure_eq_ok_iff.mp ended
    exact ⟨resolved, rfl, rfl⟩

theorem Serves.script_eq {request : GenerationRequest} {job : Job} (serves : Serves config request job)
    (target : Value) : job.script (Schema.parse request.sql).table target = request.script target := by
  rw [Job.script, Job.features, serves.routines, serves.diff]
  rfl

/-! ### Answers -/

/-- An answer that is neither a refusal nor an internal error. -/
def Answer.Succeeds : Answer → Prop
  | .body status _ => status = 200
  | .attachment _ _ _ => True

theorem answerRequest_of_ok {request : Except Failure GenerationRequest}
    {accepted : GenerationRequest → Except Failure Answer} {r : GenerationRequest} {answer : Answer}
    (read : request = .ok r) (given : accepted r = .ok answer) : answerRequest request accepted = .ok answer := by
  simp only [answerRequest, read, given]

theorem answerRequest_eq_ok_iff {request : Except Failure GenerationRequest}
    {accepted : GenerationRequest → Except Failure Answer} {answer : Answer} (succeeds : answer.Succeeds) :
    answerRequest request accepted = .ok answer ↔ ∃ r, request = .ok r ∧ accepted r = .ok answer := by
  constructor
  · intro answered
    unfold answerRequest at answered
    split at answered
    · obtain rfl := Except.ok.inj answered
      cases succeeds
    · cases answered
    · rename_i r
      split at answered
      · rename_i given
        obtain rfl := Except.ok.inj answered
        exact ⟨r, rfl, given⟩
      · obtain rfl := Except.ok.inj answered
        cases succeeds
  · rintro ⟨r, read, given⟩
    exact answerRequest_of_ok read given

theorem bodyAnswer_eq_ok_iff {machine : Machine} {content : Value} {answer : Answer} :
    bodyAnswer machine content = .ok answer ↔
      (∀ s ∈ content.texts, IsWhole machine.half? s) ∧ answer = .body 200 content := by
  rw [← isWhole_written_iff machine.ascii, ← textFault?_eq_none_iff, bodyAnswer]
  cases machine.textFault? (Json.written content) <;> simp [eq_comm]

theorem scriptMembers_report (job : Job) (checker : Checker) (parsed : Schema.Parsed) :
    ((job.outcome checker parsed).report job).scriptMembers = .dict (Fields.ofPairs
      (job.targets.map fun target => (memberName target, .text (job.script parsed.table target)))) := by
  rw [Report.scriptMembers, Outcome.report, Job.outcome, List.map_map]
  rfl

/-- A body is generated when a job can be prepared and takes its targets, and the texts of the body can be written. -/
theorem generateAccepted_eq_ok_iff {request : GenerationRequest} {answer : Answer} :
    generateAccepted config checker cookies request = .ok answer ↔
      ∃ job entitled, Job.prepare config request.targets (request.wishes .null) = .ok job ∧
        (∀ target ∈ job.targets, job.Takes target) ∧ isEntitled config cookies = .ok entitled ∧
        let content := generatedBody job (job.outcome checker (Schema.parse request.sql)) entitled
        (∀ s ∈ content.texts, IsWhole config.machine.half? s) ∧ answer = .body 200 content := by
  constructor
  · intro accepted
    obtain ⟨job, prepared, accepted⟩ := bind_eq_ok_iff.mp accepted
    obtain ⟨outcome, ran, accepted⟩ := bind_eq_ok_iff.mp accepted
    obtain ⟨entitled, known, accepted⟩ := bind_eq_ok_iff.mp accepted
    obtain ⟨taken, rfl⟩ := run_eq_ok_iff.mp ran
    exact ⟨job, entitled, prepared, taken, known, bodyAnswer_eq_ok_iff.mp accepted⟩
  · rintro ⟨job, entitled, prepared, taken, known, written⟩
    exact bind_eq_ok_iff.mpr ⟨job, prepared, bind_eq_ok_iff.mpr ⟨_, run_eq_ok_iff.mpr ⟨taken, rfl⟩,
      bind_eq_ok_iff.mpr ⟨entitled, known, bodyAnswer_eq_ok_iff.mpr written⟩⟩⟩

theorem exists_generateAccepted_iff {request : GenerationRequest} {job : Job} {entitled : Bool}
    (prepared : Job.prepare config request.targets (request.wishes .null) = .ok job)
    (texts : ∀ target ∈ job.targets, ∃ name, target = .text name) (known : isEntitled config cookies = .ok entitled) :
    (∃ answer, generateAccepted config checker cookies request = .ok answer) ↔
      ∀ s ∈ (generatedBody job (job.outcome checker (Schema.parse request.sql)) entitled).texts,
        IsWhole config.machine.half? s := by
  simp only [generateAccepted_eq_ok_iff]
  constructor
  · rintro ⟨answer, job', entitled', prepared', -, known', whole, -⟩
    obtain rfl := Except.ok.inj (prepared.symm.trans prepared')
    obtain rfl := Except.ok.inj (known.symm.trans known')
    exact whole
  · intro whole
    exact ⟨_, job, entitled, prepared, fun target member => takes_of_text (texts target member) job, known, whole, rfl⟩

/-- The fields of a generated body that a request decides. -/
theorem exists_of_generateAnswer {content : Value}
    (answered : generateAnswer config checker payload cookies = .ok (.body 200 content)) :
    ∃ request targets entitled fields, readRequest config payload cookies = .ok request ∧
      resolveTargets config request.targets = .ok targets ∧ isEntitled config cookies = .ok entitled ∧
      content = .dict fields ∧ fields.lookup "pro" = some (.bool entitled) ∧
      fields.lookup "include_procedures" = some (.bool request.features.routines) ∧
      fields.lookup "include_diff" = some (.bool request.features.diff) ∧
      fields.lookup "results" = some (.dict (Fields.ofPairs
        (targets.map fun target => (memberName target, .text (request.script target))))) := by
  have succeeds : (Answer.body 200 content).Succeeds := rfl
  obtain ⟨request, read, accepted⟩ := (answerRequest_eq_ok_iff succeeds).mp answered
  obtain ⟨job, entitled, prepared, -, known, -, same⟩ := generateAccepted_eq_ok_iff.mp accepted
  obtain ⟨-, rfl⟩ := Answer.body.inj same
  have serves := serves_of_prepare prepared
  refine ⟨request, job.targets, entitled, _, read, serves.targets, known, rfl, rfl, ?_, ?_, ?_⟩
  · exact congrArg some serves.routines
  · exact congrArg some serves.diff
  · refine (congrArg some (scriptMembers_report job checker (Schema.parse request.sql))).trans ?_
    simp only [serves.script_eq]

/-! ### Archives -/

theorem eq_map_of_writeEntries {machine : Machine} {extent : Extent} {scripts entries : List (String × String)}
    (written : (writeEntries machine extent scripts).2 = .ok entries) :
    entries = scripts.map fun script => (entryName script.1, script.2) := by
  induction scripts generalizing extent entries with
  | nil => exact (Except.ok.inj written).symm
  | cons script scripts ih =>
    rw [writeEntries] at written
    dsimp only at written
    split at written
    · cases written
    · obtain ⟨later, rest, rfl⟩ := map_eq_ok_iff.mp written
      rw [List.map_cons, ← ih rest]

/-- Scripts under names that an archive keeps. -/
theorem eq_ofPairs_of_archive {machine : Machine} {files : List (String × String)} {packed : Archive}
    (kept : ∀ file ∈ files, entryName file.1 = file.1) (archived : archive machine files = .ok packed) :
    packed = ⟨deflated, Fields.ofPairs files⟩ := by
  unfold archive at archived
  dsimp only at archived
  split at archived
  · cases archived
  · obtain ⟨entries, written, rfl⟩ := map_eq_ok_iff.mp archived
    rw [eq_map_of_writeEntries written]
    refine congrArg _ ((List.map_congr_left fun entry member => ?_).trans (List.map_id _))
    rw [(Fields.forall_mem_ofPairs_iff fun name => entryName name = name).mpr kept entry member]
    rfl

/-- The name that a target has in file names; what is no text has an empty one. -/
def targetName (target : Value) : String := target.text?.getD ""

theorem eq_targetName_of_targetLabel {target : Value} {label : String} (labelled : targetLabel target = .ok label) :
    label = targetName target := by
  unfold targetLabel at labelled
  split at labelled
  · exact (Except.ok.inj labelled).symm
  · rename_i other
    split at labelled
    · cases labelled
    · have none : target.text? = none := by
        cases target with
        | text s => exact absurd rfl (other s)
        | _ => rfl
      rw [targetName, none]
      exact (Except.ok.inj labelled).symm

theorem eq_map_of_namedScripts {table : String} {scripts : List (Value × String)} {files : List (String × String)}
    (named : namedScripts table scripts = .ok files) :
    files = scripts.map fun script => (scriptFileName table (targetName script.1), script.2) := by
  induction scripts generalizing files with
  | nil => exact (Except.ok.inj named).symm
  | cons script scripts ih =>
    obtain ⟨target, text⟩ := script
    obtain ⟨label, labelled, named⟩ := bind_eq_ok_iff.mp named
    obtain ⟨later, rest, ended⟩ := bind_eq_ok_iff.mp named
    obtain rfl := pure_eq_ok_iff.mp ended
    rw [List.map_cons, ← ih rest, eq_targetName_of_targetLabel labelled]

/-- The files of a job whose targets are texts: their scripts under their file names. -/
theorem namedScripts_outcome {job : Job} (texts : ∀ target ∈ job.targets, ∃ name, target = .text name)
    (checker : Checker) (parsed : Schema.Parsed) (table : String) :
    namedScripts table (job.outcome checker parsed).scripts = .ok (job.targets.map fun target =>
      (scriptFileName table (targetName target), job.script parsed.table target)) := by
  rw [Job.outcome]
  generalize job.targets = targets at texts
  induction targets with
  | nil => rfl
  | cons target targets ih =>
    obtain ⟨⟨name, rfl⟩, later⟩ := List.forall_mem_cons.mp texts
    exact bind_eq_ok_iff.mpr ⟨name, rfl, bind_eq_ok_iff.mpr ⟨_, ih later, rfl⟩⟩

/-- Scripts are packed when a job can be prepared and takes its targets, and its scripts have file names under which
    an archive takes them. -/
theorem downloadAccepted_eq_ok_iff {request : GenerationRequest} {answer : Answer} :
    downloadAccepted config checker request = .ok answer ↔
      ∃ job files packed, Job.prepare config request.targets (request.wishes (.bool false)) = .ok job ∧
        (∀ target ∈ job.targets, job.Takes target) ∧
        namedScripts (Schema.parse request.sql).table.name
          (job.outcome checker (Schema.parse request.sql)).scripts = .ok files ∧
        archive config.machine files = .ok packed ∧
        answer = .attachment attachmentType (disposition (archiveName (Schema.parse request.sql).table.name)) packed := by
  constructor
  · intro accepted
    obtain ⟨job, prepared, accepted⟩ := bind_eq_ok_iff.mp accepted
    obtain ⟨outcome, ran, accepted⟩ := bind_eq_ok_iff.mp accepted
    obtain ⟨taken, rfl⟩ := run_eq_ok_iff.mp ran
    obtain ⟨files, named, accepted⟩ := bind_eq_ok_iff.mp accepted
    obtain ⟨packed, archived, accepted⟩ := bind_eq_ok_iff.mp accepted
    exact ⟨job, files, packed, prepared, taken, named, archived, (pure_eq_ok_iff.mp accepted).symm⟩
  · rintro ⟨job, files, packed, prepared, taken, named, archived, rfl⟩
    exact bind_eq_ok_iff.mpr ⟨job, prepared, bind_eq_ok_iff.mpr ⟨_, run_eq_ok_iff.mpr ⟨taken, rfl⟩,
      bind_eq_ok_iff.mpr ⟨files, named, bind_eq_ok_iff.mpr ⟨packed, archived, rfl⟩⟩⟩⟩

/-- The files of a request: a script for every target, under its file name. -/
def GenerationRequest.files (request : GenerationRequest) (targets : List Value) : List (String × String) :=
  targets.map fun target =>
    (scriptFileName (Schema.parse request.sql).table.name (targetName target), request.script target)

theorem isEntryName_files (machine : Machine) (request : GenerationRequest) (targets : List Value) :
    ∀ file ∈ request.files targets, IsEntryName machine file.1 :=
  List.forall_mem_map.mpr fun _ _ => isEntryName_scriptFileName machine _ _

theorem exists_downloadAccepted_iff {request : GenerationRequest} {job : Job}
    (prepared : Job.prepare config request.targets (request.wishes (.bool false)) = .ok job)
    (texts : ∀ target ∈ job.targets, ∃ name, target = .text name) :
    (∃ answer, downloadAccepted config checker request = .ok answer) ↔
      Fits config.machine (Fields.ofPairs (request.files job.targets)) := by
  have named := namedScripts_outcome texts checker (Schema.parse request.sql) (Schema.parse request.sql).table.name
  simp only [(serves_of_prepare prepared).script_eq] at named
  rw [← exists_archive_iff (isEntryName_files config.machine request job.targets)]
  simp only [downloadAccepted_eq_ok_iff]
  constructor
  · rintro ⟨answer, job', files, packed, prepared', -, named', archived, -⟩
    obtain rfl := Except.ok.inj (prepared.symm.trans prepared')
    obtain rfl := Except.ok.inj (named.symm.trans named')
    exact ⟨packed, archived⟩
  · rintro ⟨packed, archived⟩
    exact ⟨_, job, _, packed, prepared, fun target member => takes_of_text (texts target member) job, named, archived,
      rfl⟩

/-- An attachment is the archive of the scripts of a job that serves the request, under the name of the table. -/
theorem exists_job_of_downloadAnswer {mediaType title : String} {packed : Archive}
    (answered : downloadAnswer config checker payload cookies = .ok (.attachment mediaType title packed)) :
    ∃ request job files, readRequest config payload cookies = .ok request ∧ Serves config request job ∧
      namedScripts (Schema.parse request.sql).table.name
        (job.outcome checker (Schema.parse request.sql)).scripts = .ok files ∧
      archive config.machine files = .ok packed ∧
      title = disposition (archiveName (Schema.parse request.sql).table.name) := by
  have succeeds : (Answer.attachment mediaType title packed).Succeeds := trivial
  obtain ⟨request, read, accepted⟩ := (answerRequest_eq_ok_iff succeeds).mp answered
  obtain ⟨job, files, _, prepared, -, named, archived, same⟩ := downloadAccepted_eq_ok_iff.mp accepted
  obtain ⟨-, rfl, rfl⟩ := Answer.attachment.inj same
  exact ⟨request, job, files, read, serves_of_prepare prepared, named, archived, rfl⟩

theorem exists_of_downloadAnswer {mediaType title : String} {packed : Archive}
    (answered : downloadAnswer config checker payload cookies = .ok (.attachment mediaType title packed)) :
    ∃ request targets, readRequest config payload cookies = .ok request ∧
      resolveTargets config request.targets = .ok targets ∧ packed.entries = Fields.ofPairs (targets.map fun target =>
        (scriptFileName (Schema.parse request.sql).table.name (targetName target), request.script target)) := by
  obtain ⟨request, job, files, read, serves, named, archived, -⟩ := exists_job_of_downloadAnswer answered
  have written : files = request.files job.targets := by
    rw [eq_map_of_namedScripts named, Job.outcome, List.map_map]
    refine List.map_congr_left fun target _ => ?_
    rw [Function.comp_apply, serves.script_eq]
  subst written
  have kept : ∀ file ∈ request.files job.targets, entryName file.1 = file.1 :=
    fun file member => (isEntryName_files config.machine request job.targets file member).kept
  exact ⟨request, job.targets, read, serves.targets, congrArg Archive.entries (eq_ofPairs_of_archive kept archived)⟩

end CrudScripts.Service
