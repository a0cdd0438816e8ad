import CrudScripts.Proofs.Service.Answers
import CrudScripts.Proofs.Text.Occurrence
import CrudScripts.Workbench.Reply

/-!
Names of files on their way to a client. Names of scripts are safe whatever the labels, stems are kept by a second
round, and the name that a download gives to its archive is the one that a client reads off the header
(`file_names_survive`).
-/
namespace CrudScripts.Workbench
open CrudScripts.Check CrudScripts.Data CrudScripts.Run CrudScripts.Service CrudScripts.Settings CrudScripts.Text

/-- The name between the quotes of a disposition is read back, when it is given and has no quote. -/
theorem fileNameIn_disposition {name : String} (given : name ≠ "") (unquoted : '"' ∉ name.toList) :
    fileNameIn (disposition name) = some name := by
  have skipped : ∀ c ∈ "attachment; ".toList, ∀ s, fileNameAtFront (c :: s) = none := by
    have absent : 'f' ∉ "attachment; ".toList := by decide
    intro c member s
    have other : 'f' ≠ c := fun same => absent (same ▸ member)
    have elsewhere : "filename=\"".toList.isPrefixOf (c :: s) = false := by
      simp [List.isPrefixOf, other]
    rw [fileNameAtFront, elsewhere]
    rfl
  have here : fileNameAtFront ("filename=\"".toList ++ (name.toList ++ ['"'])) = some name.toList := by
    have run : takeRun (· != '"') (name.toList ++ ['"']) = some (name.toList, ['"']) := by
      refine (takeRun_eq_some_iff _ _ _ _).mpr ⟨rfl, by simpa using given, fun c member => ?_, by simp⟩
      exact bne_iff_ne.mpr fun same => unquoted (same ▸ member)
    have begins : "filename=\"".toList.isPrefixOf ("filename=\"".toList ++ (name.toList ++ ['"'])) = true :=
      List.isPrefixOf_iff_prefix.mpr (List.prefix_append _ _)
    simp only [fileNameAtFront, begins, if_true, List.drop_left, run]
  have letters : (disposition name).toList =
      "attachment; ".toList ++ ("filename=\"".toList ++ (name.toList ++ ['"'])) := by
    have mark : "attachment; filename=\"".toList = "attachment; ".toList ++ "filename=\"".toList := by decide
    have quote : "\"".toList = ['"'] := rfl
    unfold disposition
    simp only [String.toList_append, List.append_assoc, mark, quote]
  rw [fileNameIn, letters, firstMatch_append skipped, firstMatch_of_isSome here, Option.map_some, String.ofList_toList]

theorem fileNameIn_archiveName (table : String) :
    fileNameIn (disposition (archiveName table)) = some (archiveName table) := by
  refine fileNameIn_disposition ?_ ?_
  · intro empty
    have letters := congrArg String.toList empty
    simp [archiveName] at letters
  · intro member
    rw [archiveName, String.toList_append, List.mem_append] at member
    rcases member with inside | ending
    · exact absurd ((isStem_table table).letters _ inside) (by decide)
    · exact absurd ending (by decide)

/-- A response with the header of an archive has its name. -/
theorem attachmentName_of_header {r : Response} {table : String}
    (header : r.header? "content-disposition" = some (.text (disposition (archiveName table)))) (default : String) :
    attachmentName r default = .ok (archiveName table) := by
  unfold attachmentName
  rw [header]
  dsimp only
  rw [fileNameIn_archiveName, Option.getD_some]

/-- The label of a name that may be missing. -/
def nameValue : Option String → Value
  | some name => .text name
  | none => .null

theorem targetLabel_nameValue (name : Option String) : targetLabel (nameValue name) = .ok (name.getD "") := by
  cases name <;> rfl

/-- The name of a script is safe, for all names of a table and a dialect that are given or missing. A stem is its own
    stem, when the default has the form of one. A client takes the name of an archive from its header, and the header
    of a download has the name for the table of the statement. -/
theorem file_names_survive :
    (∀ table dialect : Option String, ∃ a b, targetLabel (nameValue table) = .ok a ∧
      targetLabel (nameValue dialect) = .ok b ∧ ScriptName (scriptFileName a b)) ∧
    (∀ default label, IsStem default → fileStem default (fileStem default label) = fileStem default label) ∧
    (∀ table (r : Response) fallback,
      r.header? "content-disposition" = some (.text (disposition (archiveName table))) →
      attachmentName r fallback = .ok (archiveName table)) ∧
    ∀ config checker payload cookies mediaType header packed,
      downloadAnswer config checker payload cookies = .ok (.attachment mediaType header packed) →
      ∃ request, readRequest config payload cookies = .ok request ∧
        header = disposition (archiveName (Schema.parse request.sql).table.name) := by
  refine ⟨fun table dialect => ?_, fun default label stem => ?_, fun table r fallback header => ?_, ?_⟩
  · exact ⟨_, _, targetLabel_nameValue table, targetLabel_nameValue dialect, scriptName_scriptFileName _ _⟩
  · exact fileStem_eq_self (isStem_fileStem stem label) default
  · exact attachmentName_of_header header fallback
  · intro config checker payload cookies mediaType header packed answered
    obtain ⟨request, _, _, read, -, -, -, named⟩ := exists_job_of_downloadAnswer answered
    exact ⟨request, read, named⟩

/-- A download whose archive has its name at the client. Its one script is compressed to 128 bytes. -/
theorem file_names_of_download :
    let config : Config := { sections := [], machine := .plain "/srv/app" fun _ => 128, openLog := some "logs" }
    let payload : Value := .dict [("create_sql", .text "CREATE TABLE [Order Lines] (id INT PRIMARY KEY, a INT)"),
      ("targets", .list [.text "MySQL"])]
    let r : Response :=
      ⟨200, "OK", "http://localhost:5001/api/v1/sql/generate/download",
        [("Content-Disposition", .text "attachment; filename=\"order_scripts.zip\"")], "", fun _ => '\ufffd', "", none⟩
    IsStem "script" ∧ fileStem "script" (fileStem "script" "***") = fileStem "script" "***" ∧
      ∃ mediaType header packed,
        downloadAnswer config (fun _ _ => .accepted) payload [] = .ok (.attachment mediaType header packed) ∧
        r.header? "content-disposition" = some (.text header) ∧
        attachmentName r "scripts.zip" = .ok "order_scripts.zip" := by
  intro config payload r
  obtain ⟨-, kept, received, sent⟩ := file_names_survive
  have stem : IsStem "script" := by decide
  let request : GenerationRequest :=
    ⟨"CREATE TABLE [Order Lines] (id INT PRIMARY KEY, a INT)", .list [.text "MySQL"], ⟨false, false⟩⟩
  have asked : readRequest config payload [] = .ok request := rfl
  have downloaded : ∃ mediaType header packed,
      downloadAnswer config (fun _ _ => .accepted) payload [] = .ok (.attachment mediaType header packed) := by
    have fits : Fits config.machine (Fields.ofPairs (request.files [.text "MySQL"])) :=
      fits_plain_iff.mpr (by decide +kernel)
    have prepared : Job.prepare config request.targets (request.wishes (.bool false)) =
        .ok ⟨[.text "MySQL"], .bool false, .bool false, .bool false, 980⟩ := rfl
    obtain ⟨answer, accepted⟩ := (exists_downloadAccepted_iff prepared (by simp)).mpr fits
    obtain ⟨_, _, packed, -, -, -, -, rfl⟩ := downloadAccepted_eq_ok_iff.mp accepted
    exact ⟨_, _, packed, answerRequest_of_ok asked accepted⟩
  obtain ⟨mediaType, header, packed, downloaded⟩ := downloaded
  obtain ⟨_, read, named⟩ := sent _ _ _ _ _ _ _ downloaded
  have table : (Schema.parse request.sql).table.name = "[Order" := by decide +kernel
  rw [← Except.ok.inj (asked.symm.trans read), table] at named
  subst named
  have shown : r.header? "content-disposition" = some (.text (disposition (archiveName "[Order"))) := rfl
  exact ⟨stem, kept "script" "***" stem, _, _, _, downloaded, shown, received "[Order" r "scripts.zip" shown⟩

end CrudScripts.Workbench
