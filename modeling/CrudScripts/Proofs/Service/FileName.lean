import CrudScripts.Dialect.Registry
import CrudScripts.Proofs.Text.Layout
import CrudScripts.Service.Archive
import CrudScripts.Service.FileName
import Mathlib.Data.List.Nodup
import Mathlib.Data.List.TakeWhile

/-!
File names of scripts. A stem has small letters, digits, underscores, points and hyphens only, and begins and ends
with a letter or a digit (`isStem_fileStem`), so an archive holds a script under the name that it was given
(`entryName_scriptFileName`). What is a stem already is kept as it is (`fileStem_eq_self`). Two labels give one file
name exactly when they have one stem (`scriptFileName_inj`), which supported dialects never have.
-/
namespace CrudScripts.Service
open CrudScripts.Data CrudScripts.Text

/-- Whether a character can stand in a stem. -/
def isStemChar (c : Char) : Bool := c.isLower || c.isDigit || isSeparator c

/-! ### Characters -/

theorem ascii_of_isFileChar {c : Char} (allowed : isFileChar c = true) : ∃ n < 128, c = Char.ofNat n := by
  refine ⟨c.toNat, ?_, (Char.ofNat_toNat c).symm⟩
  simp only [isFileChar, Bool.or_eq_true, isAlphanum_iff, beq_iff_eq] at allowed
  rcases allowed with ((inside | rfl) | rfl) | rfl
  · omega
  all_goals decide

theorem ascii_of_isStemChar {c : Char} (small : isStemChar c = true) : ∃ n < 128, c = Char.ofNat n := by
  refine ⟨c.toNat, ?_, (Char.ofNat_toNat c).symm⟩
  simp only [isStemChar, isSeparator, Bool.or_eq_true, isLower_iff, isDigit_iff, beq_iff_eq] at small
  rcases small with (inside | inside) | (rfl | rfl) | rfl
  · omega
  · omega
  all_goals decide

theorem of_isFileChar {c : Char} (allowed : isFileChar c = true) :
    lowerChar c = [c.toLower] ∧ isStemChar c.toLower = true ∧ isSeparator c.toLower = isSeparator c := by
  have all : ∀ n < 128, isFileChar (Char.ofNat n) = true → lowerChar (Char.ofNat n) = [(Char.ofNat n).toLower] ∧
      isStemChar (Char.ofNat n).toLower = true ∧ isSeparator (Char.ofNat n).toLower = isSeparator (Char.ofNat n) := by
    decide
  obtain ⟨n, bound, rfl⟩ := ascii_of_isFileChar allowed
  exact all n bound allowed

theorem of_isStemChar {c : Char} (small : isStemChar c = true) : isFileChar c = true ∧ lowerChar c = [c] := by
  have all : ∀ n < 128, isStemChar (Char.ofNat n) = true →
      isFileChar (Char.ofNat n) = true ∧ lowerChar (Char.ofNat n) = [Char.ofNat n] := by decide
  obtain ⟨n, bound, rfl⟩ := ascii_of_isStemChar small
  exact all n bound small

/-- Whether a character has no meaning in a path or a header: it is no separator of paths, no quote and no blank. -/
def isHarmless (c : Char) : Bool := !(isBlank c || ['/', '\\', '"', '\x27'].contains c)

theorem isHarmless_of_isStemChar {c : Char} (small : isStemChar c = true) : isHarmless c = true := by
  have all : ∀ n < 128, isStemChar (Char.ofNat n) = true → isHarmless (Char.ofNat n) = true := by decide
  obtain ⟨n, bound, rfl⟩ := ascii_of_isStemChar small
  exact all n bound small

/-! ### Stems -/

/-- A text in the form of a stem. -/
structure IsStem (s : String) : Prop where
  given : s ≠ ""
  letters : ∀ c ∈ s.toList, isStemChar c = true
  begins : Stops isSeparator s.toList
  ends : Stops isSeparator s.toList.reverse

instance (s : String) : Decidable (IsStem s) :=
  decidable_of_iff (s ≠ "" ∧ s.toList.all isStemChar = true ∧ Stops isSeparator s.toList ∧
      Stops isSeparator s.toList.reverse)
    ⟨fun ⟨given, letters, begins, ends⟩ => ⟨given, List.all_eq_true.mp letters, begins, ends⟩,
      fun stem => ⟨stem.given, List.all_eq_true.mpr stem.letters, stem.begins, stem.ends⟩⟩

theorem isFileChar_of_mem_replaceRuns {s : List Char} {inRun : Bool} {c : Char} (member : c ∈ replaceRuns inRun s) :
    isFileChar c = true := by
  induction s generalizing inRun with
  | nil => cases member
  | cons d s ih =>
    rw [replaceRuns] at member
    split at member
    · rename_i allowed
      rcases List.mem_cons.mp member with rfl | later
      · exact allowed
      · exact ih later
    · split at member
      · exact ih member
      · rcases List.mem_cons.mp member with rfl | later
        · decide
        · exact ih later

section
variable {s : List Char} (allowed : ∀ c ∈ s, isFileChar c = true)
include allowed

theorem toList_lower : (lower (String.ofList s)).toList = s.map Char.toLower := by
  rw [lower, String.toList_ofList, String.toList_ofList,
    List.flatMap_congr fun c member => (of_isFileChar (allowed c member)).1]
  exact List.map_eq_flatMap.symm

theorem stops_map_toLower (stops : Stops isSeparator s) : Stops isSeparator (s.map Char.toLower) := by
  intro c first
  rw [List.head?_map] at first
  obtain ⟨d, head, rfl⟩ := Option.map_eq_some_iff.mp first
  rw [(of_isFileChar (allowed d (List.mem_of_mem_head? head))).2.2, stops d head]

end

/-- A stem has the form of one, when its default has. -/
theorem isStem_fileStem {default : String} (stem : IsStem default) (label : String) :
    IsStem (fileStem default label) := by
  have allowed : ∀ c ∈ strip isSeparator (replaceRuns false label.toList), isFileChar c = true := fun c member =>
    isFileChar_of_mem_replaceRuns (mem_of_mem_strip member)
  obtain ⟨begins, ends⟩ := stops_strip isSeparator (replaceRuns false label.toList)
  simp only [fileStem]
  split
  · exact stem
  · rename_i given
    refine ⟨given, ?_, ?_, ?_⟩
    · rw [toList_lower allowed]
      exact List.forall_mem_map.mpr fun c member => (of_isFileChar (allowed c member)).2.1
    · rw [toList_lower allowed]
      exact stops_map_toLower allowed begins
    · rw [toList_lower allowed, ← List.map_reverse]
      exact stops_map_toLower (fun c member => allowed c (List.mem_reverse.mp member)) ends

theorem replaceRuns_eq_self {s : List Char} (allowed : ∀ c ∈ s, isFileChar c = true) : replaceRuns false s = s := by
  induction s with
  | nil => rfl
  | cons c s ih =>
    rw [replaceRuns, if_pos (allowed c List.mem_cons_self), ih fun d member => allowed d (List.mem_cons_of_mem _ member)]

/-- A label that has the form of a stem is its own stem. -/
theorem fileStem_eq_self {label : String} (stem : IsStem label) (default : String) :
    fileStem default label = label := by
  have kept : replaceRuns false label.toList = label.toList :=
    replaceRuns_eq_self fun c member => (of_isStemChar (stem.letters c member)).1
  have whole {s : List Char} (stops : Stops isSeparator s) : s.dropWhile isSeparator = s :=
    @dropWhile_append_stops _ [] s (by simp) stops
  have stripped : strip isSeparator label.toList = label.toList := by
    rw [strip, whole stem.begins, whole stem.ends, List.reverse_reverse]
  have lowered : label.toList.flatMap lowerChar = label.toList := by
    rw [List.flatMap_congr fun c member => (of_isStemChar (stem.letters c member)).2]
    exact List.flatMap_singleton' _
  simp only [fileStem, kept, stripped, String.ofList_toList, lower, lowered, if_neg stem.given]

theorem isStem_table (table : String) : IsStem (fileStem "table" table) :=
  isStem_fileStem (by decide) table

theorem isStem_dialect (dialect : String) : IsStem (fileStem "dialect" dialect) :=
  isStem_fileStem (by decide) dialect

/-! ### Names of scripts -/

theorem isStemChar_of_mem_scriptFileName (table dialect : String) :
    ∀ c ∈ (scriptFileName table dialect).toList, isStemChar c = true := by
  intro c member
  simp only [scriptFileName, String.toList_append, List.mem_append] at member
  rcases member with ((inTable | between) | inDialect) | ending
  · exact (isStem_table table).letters c inTable
  · exact List.all_eq_true.mp (by decide : "_".toList.all isStemChar = true) c between
  · exact (isStem_dialect dialect).letters c inDialect
  · exact List.all_eq_true.mp (by decide : ".sql".toList.all isStemChar = true) c ending

/-- No file name of a script is cut short in an archive. -/
theorem entryName_scriptFileName (table dialect : String) :
    entryName (scriptFileName table dialect) = scriptFileName table dialect := by
  have whole : (scriptFileName table dialect).toList.takeWhile (· != '\x00') = (scriptFileName table dialect).toList := by
    rw [List.takeWhile_eq_self_iff]
    intro c member
    have allowed := isStemChar_of_mem_scriptFileName table dialect c member
    rw [bne_iff_ne]
    rintro rfl
    exact absurd allowed (by decide)
  rw [entryName, whole, String.ofList_toList]

theorem scriptFileName_ne_empty (table dialect : String) : scriptFileName table dialect ≠ "" := by
  intro empty
  have letters := congrArg String.toList empty
  simp [scriptFileName] at letters

/-- A name of a script that is safe wherever names of files are: in a path, in an archive and in a header. -/
structure ScriptName (name : String) : Prop where
  letters : ∀ c ∈ name.toList, isStemChar c = true
  harmless : ∀ c ∈ name.toList, isHarmless c = true
  begins : ∃ first rest, name.toList = first :: rest ∧ (first.isLower || first.isDigit) = true
  ends : ".sql".toList <:+ name.toList

theorem IsStem.exists_first {s : String} (stem : IsStem s) :
    ∃ first rest, s.toList = first :: rest ∧ (first.isLower || first.isDigit) = true := by
  obtain ⟨first, rest, letters⟩ := List.exists_cons_of_ne_nil (show s.toList ≠ [] by simpa using stem.given)
  have small := stem.letters first (by simp [letters])
  have solid : isSeparator first = false := stem.begins first (by simp [letters])
  rw [isStemChar, solid, Bool.or_false] at small
  exact ⟨first, rest, letters, small⟩

theorem scriptName_scriptFileName (table dialect : String) : ScriptName (scriptFileName table dialect) where
  letters := isStemChar_of_mem_scriptFileName table dialect
  harmless c member := isHarmless_of_isStemChar (isStemChar_of_mem_scriptFileName table dialect c member)
  begins := by
    obtain ⟨first, rest, letters, small⟩ := (isStem_table table).exists_first
    refine ⟨first, rest ++ ("_".toList ++ ((fileStem "dialect" dialect).toList ++ ".sql".toList)), ?_, small⟩
    simp only [scriptFileName, String.toList_append, letters, List.cons_append, List.append_assoc]
  ends := by
    rw [scriptFileName, String.toList_append]
    exact List.suffix_append _ _

theorem scriptFileName_inj {table a b : String} :
    scriptFileName table a = scriptFileName table b ↔ fileStem "dialect" a = fileStem "dialect" b := by
  constructor
  · intro same
    have letters := congrArg String.toList same
    simp only [scriptFileName, String.toList_append, List.append_cancel_right_eq, List.append_cancel_left_eq] at letters
    exact String.toList_injective letters
  · intro same
    rw [scriptFileName, same, scriptFileName]

theorem fileStem_supported {a b : String} (first : a ∈ Dialect.supportedNames) (second : b ∈ Dialect.supportedNames)
    (same : fileStem "dialect" a = fileStem "dialect" b) : a = b := by
  have distinct : (Dialect.supportedNames.map (fileStem "dialect")).Nodup := by decide
  exact List.inj_on_of_nodup_map distinct first second same

end CrudScripts.Service
