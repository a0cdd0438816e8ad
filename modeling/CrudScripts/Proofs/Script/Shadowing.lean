import CrudScripts.Proofs.Script.Parameters

/-!
Whether a name in the body of a routine can be taken for a column. Where parameters have the names of columns with a
prefix, no parameter has the name of its own column, but it may have the name of another one. The routines of a table
are free of that exactly when no column has the name of another with the prefix before it
(`routines_unshadowed_iff`).
-/
namespace CrudScripts.Script
open CrudScripts.Dialect CrudScripts.Schema CrudScripts.Text

/-- A routine in which no name of a parameter is the name of a column, in whatever case: neither one that the signature
    declares, nor one that the body sets a column to or compares it with. -/
structure Unshadowed (family : Family) (columns : List Column) (r : Routine) : Prop where
  declared : ∀ name ∈ r.declared family, ∀ c ∈ columns, ¬ EqualApartFromCase name c.name
  values : ∀ value ∈ r.body.values, ∀ c ∈ columns, ¬ EqualApartFromCase value c.name

/-- The parameter of a column has the name of a column. -/
def Captures (a b : Column) : Prop := EqualApartFromCase ("p_" ++ a.name) b.name

/-- A prefix makes another name, in whatever case. -/
theorem not_captures_self (c : Column) : ¬ Captures c c := by
  intro same
  have lengths := congrArg (fun s => s.toList.length) same
  simp only [lower, String.toList_append, String.toList_ofList, List.flatMap_append, List.length_append] at lengths
  have longer : ("p_".toList.flatMap lowerChar).length = 2 := by decide
  omega

theorem captures_congr {a a' b b' : Column} (same : a.name = a'.name) (same' : b.name = b'.name) :
    Captures a b ↔ Captures a' b' := by
  rw [Captures, Captures, same, same']

/-! ### One routine -/

section
variable {family : Family} {r : Routine}

theorem parameterName_of_byName (byName : family ∈ [Family.mysql, .plsql]) (c : Column) :
    parameterName family c = "p_" ++ c.name := by
  cases family with
  | tsql | plpgsql => simp at byName
  | mysql | plsql => rfl

/-- A body that refers to parameters by name has no other values than their names. -/
theorem mem_declared_of_mem_values (byName : family ∈ [Family.mysql, .plsql]) (closed : Closed family r) {value : String}
    (member : value ∈ r.body.values) : value ∈ r.declared family := by
  have refers : RefersTo family r.parameters value value := by
    cases family with
    | tsql | plpgsql => simp at byName
    | mysql | plsql => rfl
  exact (closed.same value).mp ⟨value, member, refers⟩

theorem unshadowed_iff (byName : family ∈ [Family.mysql, .plsql]) (closed : Closed family r) (columns : List Column) :
    Unshadowed family columns r ↔ ∀ p ∈ r.parameters, ∀ c ∈ columns, ¬ Captures p c := by
  constructor
  · intro unshadowed p parameter c member
    rw [Captures, ← parameterName_of_byName byName]
    exact unshadowed.declared _ (List.mem_map_of_mem parameter) c member
  · intro free
    have declared : ∀ name ∈ r.declared family, ∀ c ∈ columns, ¬ EqualApartFromCase name c.name := by
      intro name member c column
      obtain ⟨p, parameter, rfl⟩ := List.mem_map.mp member
      rw [parameterName_of_byName byName]
      exact free p parameter c column
    exact ⟨declared, fun value member => declared value (mem_declared_of_mem_values byName closed member)⟩

end

/-! ### The routines of a table -/

section
variable {t : Table}

/-- The parameters of the routines of a table have the names of its columns. -/
theorem exists_column_of_mem_parameters {family : Family} {r : Routine}
    (member : r ∈ routines family t.name t.nonKeyColumns t.effectiveKey) {p : Column} (parameter : p ∈ r.parameters) :
    ∃ c ∈ t.columns, c.name = p.name := by
  obtain ⟨c, inside, same⟩ := exists_asKey_of_mem_parameters member parameter
  have name : c.asKey.name = p.asKey.name := congrArg Column.name same
  exact ⟨c, inside, name⟩

/-- An update takes a parameter for every column of the table. -/
theorem exists_updateParameter_of_mem_columns {c : Column} (member : c ∈ t.columns) :
    ∃ p ∈ updateParameters t.nonKeyColumns t.effectiveKey, p.name = c.name := by
  by_cases assigned : c.name ∈ t.nonKeyColumns.map (·.name)
  · obtain ⟨p, inside, same⟩ := List.mem_map.mp assigned
    exact ⟨p, List.mem_append_left _ inside, same⟩
  · have flagged : c.isKey = true := by
      by_contra free
      have inside : c ∈ t.nonKeyColumns := List.mem_filter.mpr ⟨member, by simpa using free⟩
      exact assigned (List.mem_map_of_mem inside)
    have key : c ∈ t.effectiveKey := by
      rw [Table.effectiveKey_of_declared ⟨c, member, flagged⟩]
      exact List.mem_filter.mpr ⟨member, flagged⟩
    refine ⟨c, List.mem_append_right _ (List.mem_filter.mpr ⟨key, ?_⟩), rfl⟩
    simpa using assigned

end

/-- The routines of a table in a family that refers to parameters by name. The texts of the declarations of a routine
    begin with the names that it declares. A routine is free of names that are columns when no parameter of it captures
    a column, and all of them are when no column has the name of another with the prefix before it; the prefix keeps a
    parameter apart from its own column only. -/
theorem routines_unshadowed_iff (t : Table) (family : Family) (byName : family ∈ [Family.mysql, .plsql]) :
    (∀ r ∈ routines family t.name t.nonKeyColumns t.effectiveKey,
        (∀ types, List.Forall₂ Declares (r.declared family) (r.parameters.map (declaration family types))) ∧
          (Unshadowed family t.columns r ↔ ∀ p ∈ r.parameters, ∀ c ∈ t.columns, ¬ Captures p c)) ∧
      ((∀ r ∈ routines family t.name t.nonKeyColumns t.effectiveKey, Unshadowed family t.columns r) ↔
        ∀ a ∈ t.columns, ∀ b ∈ t.columns, ¬ Captures a b) ∧
      ∀ c : Column, ¬ Captures c c := by
  have single (r : Routine) (member : r ∈ routines family t.name t.nonKeyColumns t.effectiveKey) :
      Unshadowed family t.columns r ↔ ∀ p ∈ r.parameters, ∀ c ∈ t.columns, ¬ Captures p c :=
    unshadowed_iff byName (closed_of_mem_routines _ _ _ _ member) t.columns
  refine ⟨fun r member => ⟨fun types => ?_, single r member⟩, ⟨?_, ?_⟩, not_captures_self⟩
  · rw [Routine.declared, List.forall₂_map_left_iff, List.forall₂_map_right_iff, List.forall₂_same]
    exact fun c _ => declares_declaration family types c
  · intro unshadowed a first b second
    -- The update declares a parameter for every column.
    have update : updateRoutine family t.name t.nonKeyColumns t.effectiveKey ∈
        routines family t.name t.nonKeyColumns t.effectiveKey := by simp [routines]
    obtain ⟨p, parameter, same⟩ := exists_updateParameter_of_mem_columns first
    rw [← captures_congr same rfl]
    exact (single _ update).mp (unshadowed _ update) p parameter b second
  · intro free r member
    refine (single r member).mpr fun p parameter c column => ?_
    obtain ⟨a, inside, same⟩ := exists_column_of_mem_parameters member parameter
    rw [← captures_congr same rfl]
    exact free a inside c column

/-- A key named `id` beside a column named `p_id`: the update compares the key with a name that the other column has. -/
theorem update_shadowed_by_column :
    let t := (parse "CREATE TABLE t (id INT PRIMARY KEY, p_id INT)").table
    let update := updateRoutine .plsql t.name t.nonKeyColumns t.effectiveKey
    Family.plsql ∈ [Family.mysql, .plsql] ∧ update ∈ routines .plsql t.name t.nonKeyColumns t.effectiveKey ∧
      update.bodyText = "UPDATE t SET p_id = p_p_id WHERE id = p_id;" ∧ ¬ Unshadowed .plsql t.columns update := by
  intro t update
  have member : update ∈ routines .plsql t.name t.nonKeyColumns t.effectiveKey := by simp [routines, update]
  have byName : Family.plsql ∈ [Family.mysql, .plsql] := by simp
  have parameters : update.parameters.map (·.name) = ["p_id", "id"] := by decide +kernel
  have columns : t.columns.map (·.name) = ["id", "p_id"] := by decide +kernel
  refine ⟨byName, member, by decide +kernel, fun unshadowed => ?_⟩
  have free := (((routines_unshadowed_iff t .plsql byName).1 update member).2).mp unshadowed
  obtain ⟨key, parameter, named⟩ := List.mem_map.mp (show "id" ∈ update.parameters.map (·.name) by simp [parameters])
  obtain ⟨c, column, named'⟩ := List.mem_map.mp (show "p_id" ∈ t.columns.map (·.name) by simp [columns])
  refine free key parameter c column ?_
  rw [Captures, named, named']
  rfl

end CrudScripts.Script
