import CrudScripts.Proofs.Schema.KeyFlags
import CrudScripts.Proofs.Script.Positional
import Mathlib.Data.List.Perm.Basic

/-!
The parameters of the routines of a table. The body of a routine refers to every parameter that its signature
declares and to no other (`Closed`), in every family and for every key. Where no two columns have one name, no two
parameters of a routine have one (`routine_parameters_closed`).
-/
namespace CrudScripts.Script
open CrudScripts.Dialect CrudScripts.Schema CrudScripts.Text

/-! ### References -/

/-- The texts that a statement sets columns to or compares them with. -/
def Statement.values : Statement → List String
  | .insert _ values => values.map (·.value)
  | .update _ assignments conditions => (assignments ++ conditions).map (·.value)
  | .select _ conditions | .delete _ conditions => conditions.map (·.value)

/-- A reference in a body names a parameter: by its name, or, in PL/pgSQL, by its place in the signature. -/
def RefersTo (family : Family) (parameters : List Column) (value name : String) : Prop :=
  match family with
  | .plpgsql => ∃ place p, value = "$" ++ toString place ∧ 1 ≤ place ∧ parameters[place - 1]? = some p ∧
      name = parameterName .plpgsql p
  | _ => name = value

/-- The names that the signature of a routine declares, in order. -/
def Routine.declared (family : Family) (r : Routine) : List String := r.parameters.map (parameterName family)

/-- A routine whose body names the parameters of its signature and nothing else. -/
structure Closed (family : Family) (r : Routine) : Prop where
  resolved : ∀ value ∈ r.body.values, ∃ name, RefersTo family r.parameters value name
  same : ∀ name, (∃ value ∈ r.body.values, RefersTo family r.parameters value name) ↔ name ∈ r.declared family

theorem parameterName_congr (family : Family) {p q : Column} (same : p.name = q.name) :
    parameterName family p = parameterName family q := by
  cases family <;> simp [parameterName, same]

theorem placeText_inj {place place' : Nat} : "$" ++ toString place = "$" ++ toString place' ↔ place = place' := by
  rw [← String.toList_inj, String.toList_append, String.toList_append, List.append_cancel_left_eq, String.toList_inj,
    toString_inj]

/-- A column that is bound to a parameter of its name is bound by a reference to this parameter. -/
theorem refersTo_reference_iff (family : Family) {parameters : List Column} {c : Column × Nat} (first : 1 ≤ c.2)
    (bound : ∃ p, parameters[c.2 - 1]? = some p ∧ p.name = c.1.name) (name : String) :
    RefersTo family parameters (reference family c.1.name c.2) name ↔ name = parameterName family c.1 := by
  by_cases positional : family = .plpgsql
  · subst positional
    obtain ⟨p, here, same⟩ := bound
    rw [← parameterName_congr .plpgsql same]
    constructor
    · rintro ⟨place, q, value, -, there, rfl⟩
      rw [← placeText_inj.mp value, here] at there
      rw [Option.some.inj there]
    · rintro rfl
      exact ⟨c.2, p, rfl, first, here, rfl⟩
  · rw [← reference_of_named positional c.1 c.2]
    cases family with
    | plpgsql => exact absurd rfl positional
    | _ => exact Iff.rfl

/-- A routine is closed when its body binds columns to parameters of their names, and every parameter is among
    them. -/
theorem closed_of_bound {family : Family} {r : Routine} {bound : List (Column × Nat)}
    (values : r.body.values = bound.map fun c => reference family c.1.name c.2)
    (bounds : BoundByName r.parameters bound) (all : ∀ p ∈ r.parameters, ∃ c ∈ bound, c.1.name = p.name) :
    Closed family r := by
  have named (c : Column × Nat) (member : c ∈ bound) (name : String) :
      RefersTo family r.parameters (reference family c.1.name c.2) name ↔ name = parameterName family c.1 :=
    refersTo_reference_iff family (bounds c member).1 (bounds c member).2 name
  refine ⟨fun value member => ?_, fun name => ⟨?_, fun declared => ?_⟩⟩
  · rw [values] at member
    obtain ⟨c, inside, rfl⟩ := List.mem_map.mp member
    exact ⟨_, (named c inside _).mpr rfl⟩
  · rintro ⟨value, member, refers⟩
    rw [values] at member
    obtain ⟨c, inside, rfl⟩ := List.mem_map.mp member
    obtain ⟨-, p, here, same⟩ := bounds c inside
    rw [(named c inside name).mp refers, ← parameterName_congr family same]
    exact List.mem_map_of_mem (List.mem_of_getElem? here)
  · obtain ⟨p, member, rfl⟩ := List.mem_map.mp declared
    obtain ⟨c, inside, same⟩ := all p member
    refine ⟨reference family c.1.name c.2, ?_, (named c inside _).mpr (parameterName_congr family same.symm)⟩
    rw [values]
    exact List.mem_map_of_mem inside

/-! ### The routines of a family -/

section
variable (family : Family) (table : String) (columns keys : List Column)

theorem map_value_bindFrom : (bindFrom (reference family) 1 columns).map (·.value) =
    (columns.zipIdx 1).map fun c => reference family c.1.name c.2 := by
  rw [bindFrom_eq, List.map_map]
  rfl

theorem exists_mem_zipIdx {p : Column} (member : p ∈ columns) : ∃ c ∈ columns.zipIdx 1, c.1.name = p.name := by
  have listed : p ∈ (columns.zipIdx 1).map Prod.fst := by rwa [List.zipIdx_map_fst]
  obtain ⟨c, inside, rfl⟩ := List.mem_map.mp listed
  exact ⟨c, inside, rfl⟩

theorem closed_insertRoutine : Closed family (insertRoutine family table columns) :=
  closed_of_bound (map_value_bindFrom family columns) (boundByName_self columns)
    fun _ member => exists_mem_zipIdx columns member

theorem closed_deleteRoutine : Closed family (deleteRoutine family table keys) :=
  closed_of_bound (map_value_bindFrom family keys) (boundByName_self keys)
    fun _ member => exists_mem_zipIdx keys member

theorem closed_updateRoutine : Closed family (updateRoutine family table columns keys) := by
  refine closed_of_bound ?_ (boundByName_update columns keys) fun p member => ?_
  · change (bindFrom (reference family) 1 columns ++ _).map (·.value) = _
    rw [List.map_append, map_value_bindFrom, located, List.map_append, List.map_map, List.map_map]
    rfl
  · rcases List.mem_append.mp member with assigned | key
    · obtain ⟨c, inside, same⟩ := exists_mem_zipIdx columns assigned
      exact ⟨c, List.mem_append_left _ inside, same⟩
    · exact ⟨_, List.mem_append_right _ (List.mem_map_of_mem (List.mem_of_mem_filter key)), rfl⟩

theorem closed_of_mem_routines {r : Routine} (member : r ∈ routines family table columns keys) : Closed family r := by
  simp only [routines, List.mem_cons, List.not_mem_nil, or_false] at member
  rcases member with rfl | rfl | rfl
  · exact closed_insertRoutine family table columns
  · exact closed_updateRoutine family table columns keys
  · exact closed_deleteRoutine family table keys

end

/-- The parameters of the routines of a table are its columns, which may be flagged. -/
theorem exists_asKey_of_mem_parameters {family : Family} {t : Table} {r : Routine}
    (member : r ∈ routines family t.name t.nonKeyColumns t.effectiveKey) {p : Column} (parameter : p ∈ r.parameters) :
    ∃ c ∈ t.columns, c.asKey = p.asKey := by
  have assigned (inside : p ∈ t.nonKeyColumns) : ∃ c ∈ t.columns, c.asKey = p.asKey :=
    ⟨p, List.mem_of_mem_filter inside, rfl⟩
  simp only [routines, List.mem_cons, List.not_mem_nil, or_false] at member
  rcases member with rfl | rfl | rfl
  · exact assigned parameter
  · rcases List.mem_append.mp parameter with inside | key
    · exact assigned inside
    · exact Table.exists_asKey_of_mem_effectiveKey (List.mem_of_mem_filter key)
  · exact Table.exists_asKey_of_mem_effectiveKey parameter

/-! ### Distinct parameters -/

/-- An equality of names that does not depend on what two names begin with alike. -/
structure NameEquality (alike : String → String → Prop) : Prop where
  symm : ∀ a b, alike a b → alike b a
  cancel : ∀ lead ∈ ["@", "p_"], ∀ a b, alike (lead ++ a) (lead ++ b) → alike a b

/-- Names that are equal apart from case. -/
def EqualApartFromCase (a b : String) : Prop := lower a = lower b

theorem nameEquality_equalApartFromCase : NameEquality EqualApartFromCase where
  symm _ _ same := same.symm
  cancel lead _ a b same := by
    have letters := congrArg String.toList same
    simp only [lower, String.toList_append, List.flatMap_append, String.toList_ofList,
      List.append_cancel_left_eq] at letters
    exact congrArg String.ofList letters

/-- Columns no two of which have equal names. -/
def DistinctNames (alike : String → String → Prop) (columns : List Column) : Prop :=
  columns.Pairwise fun a b => ¬ alike a.name b.name

section
variable {alike : String → String → Prop}

theorem NameEquality.alike_of_parameterName (equality : NameEquality alike) {family : Family} {p q : Column}
    (same : alike (parameterName family p) (parameterName family q)) : alike p.name q.name := by
  cases family with
  | tsql => exact equality.cancel "@" (by simp) _ _ same
  | _ => exact equality.cancel "p_" (by simp) _ _ same

/-- A key that stands in for an undeclared one is assigned as well, so an update declares it once: its parameters
    are the other columns and some of the declared keys. -/
theorem updateParameters_of_table (t : Table) :
    ∃ keys, keys.Sublist t.keyColumns ∧
      updateParameters t.nonKeyColumns t.effectiveKey = t.nonKeyColumns ++ keys := by
  by_cases declared : ∃ c ∈ t.columns, c.isKey = true
  · rw [Table.effectiveKey_of_declared declared]
    exact ⟨_, List.filter_sublist, rfl⟩
  · have inferred : ∀ c ∈ t.columns, c.isKey = false := by simpa using declared
    refine ⟨[], List.nil_sublist _, ?_⟩
    rw [updateParameters, List.append_cancel_left_eq, List.filter_eq_nil_iff]
    intro key member
    obtain ⟨c, inside, same⟩ := Table.exists_name_of_mem_effectiveKey member
    rw [← Table.nonKeyColumns_of_inferred inferred] at inside
    have assigned : key.name ∈ t.nonKeyColumns.map (·.name) := List.mem_map.mpr ⟨c, inside, same⟩
    simpa using assigned

variable (equality : NameEquality alike) {t : Table} (distinct : DistinctNames alike t.columns)
include distinct

theorem distinctNames_effectiveKey : DistinctNames alike t.effectiveKey := by
  by_cases declared : ∃ c ∈ t.columns, c.isKey = true
  · rw [Table.effectiveKey_of_declared declared]
    exact distinct.sublist List.filter_sublist
  · have inferred : ∀ c ∈ t.columns, c.isKey = false := by simpa using declared
    cases columns : t.columns with
    | nil => exact (Table.effectiveKey_eq_nil_iff.mpr columns) ▸ .nil
    | cons first rest =>
      rw [Table.effectiveKey_of_inferred columns inferred]
      exact List.pairwise_singleton _ _

include equality

theorem distinctNames_updateParameters : DistinctNames alike (updateParameters t.nonKeyColumns t.effectiveKey) := by
  obtain ⟨keys, some, parameters⟩ := updateParameters_of_table t
  have apart : (t.nonKeyColumns ++ t.keyColumns).Perm t.columns :=
    List.perm_append_comm.trans (List.filter_append_perm Column.isKey t.columns)
  have symmetric {a b : Column} (different : ¬ alike a.name b.name) : ¬ alike b.name a.name :=
    fun same => different (equality.symm _ _ same)
  rw [parameters]
  exact ((apart.pairwise_iff symmetric).mpr distinct).sublist (some.append_left _)

theorem distinctNames_parameters {family : Family} {r : Routine}
    (member : r ∈ routines family t.name t.nonKeyColumns t.effectiveKey) : DistinctNames alike r.parameters := by
  simp only [routines, List.mem_cons, List.not_mem_nil, or_false] at member
  rcases member with rfl | rfl | rfl
  · exact distinct.sublist List.filter_sublist
  · exact distinctNames_updateParameters equality distinct
  · exact distinctNames_effectiveKey distinct

end

/-- The routines of a table in a family. The body of each refers to the parameters that its signature declares, to
    all of them and to nothing else, and the texts of the declarations begin with these names. When no two columns of
    the table have equal names, for instance names that are equal apart from case, neither have two parameters of a
    routine, also when the key is a column that the update assigns. -/
theorem routine_parameters_closed (family : Family) (t : Table) :
    (∀ r ∈ routines family t.name t.nonKeyColumns t.effectiveKey, Closed family r ∧
        ∀ types, List.Forall₂ Declares (r.declared family) (r.parameters.map (declaration family types))) ∧
      NameEquality EqualApartFromCase ∧
      ∀ alike, NameEquality alike → DistinctNames alike t.columns →
        ∀ r ∈ routines family t.name t.nonKeyColumns t.effectiveKey,
          (r.declared family).Pairwise fun a b => ¬ alike a b := by
  refine ⟨fun r member => ⟨closed_of_mem_routines _ _ _ _ member, fun types => ?_⟩, nameEquality_equalApartFromCase,
    fun alike equality distinct r member => ?_⟩
  · rw [Routine.declared, List.forall₂_map_left_iff, List.forall₂_map_right_iff, List.forall₂_same]
    exact fun c _ => declares_declaration family types c
  · refine List.pairwise_map.mpr ((distinctNames_parameters equality distinct member).imp ?_)
    exact fun different same => different (equality.alike_of_parameterName same)

/-- A table without a key: its first column is assigned and addresses the row, and is declared once. -/
theorem routine_parameters_closed_of_inferred_key :
    let t : Table := { name := "Orders", columns := [⟨"id", "INT", false, true, true⟩, ⟨"Note", "TEXT", false, false, true⟩] }
    DistinctNames EqualApartFromCase t.columns ∧
      (updateRoutine .plpgsql t.name t.nonKeyColumns t.effectiveKey).declared .plpgsql = ["p_id", "p_Note"] ∧
      ∀ r ∈ routines .plpgsql t.name t.nonKeyColumns t.effectiveKey, Closed .plpgsql r ∧
        (r.declared .plpgsql).Pairwise fun a b => ¬ EqualApartFromCase a b := by
  intro t
  have distinct : DistinctNames EqualApartFromCase t.columns := by
    refine List.pairwise_pair.mpr ?_
    exact fun same => absurd same (by decide : ¬ lower "id" = lower "Note")
  obtain ⟨closed, equality, declared⟩ := routine_parameters_closed .plpgsql t
  exact ⟨distinct, by decide, fun r member => ⟨(closed r member).1, declared _ equality distinct r member⟩⟩

end CrudScripts.Script
