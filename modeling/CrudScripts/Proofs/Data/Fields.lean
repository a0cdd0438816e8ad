import CrudScripts.Data.Failure
import CrudScripts.Data.Fields
import Mathlib.Data.List.Dedup

/-!
Chains of stages: a chain comes to an end exactly when its first stage does, and the rest does with what the first
stage gave (`bind_eq_ok_iff`).

Named entries written one after the other. Under every name stands what was written there last
(`lookup_ofPairs_eq_some_iff`), every name has one entry (`nodup_ofPairs`), and there are as many entries as
writings exactly when no name was written to twice (`length_ofPairs_eq_iff`). Writing what stands there already
changes nothing (`put_eq_self`, `putAll_eq_self`).
-/
namespace CrudScripts.Data

section
variable {α β : Type}

theorem bind_eq_ok_iff {stage : Except Failure α} {rest : α → Except Failure β} {b : β} :
    (stage >>= rest) = .ok b ↔ ∃ a, stage = .ok a ∧ rest a = .ok b := by
  cases stage with
  | error failure => exact iff_of_false (fun ended => nomatch ended) fun ⟨_, ended, _⟩ => nomatch ended
  | ok a => exact ⟨fun ended => ⟨a, rfl, ended⟩, fun ⟨_, here, ended⟩ => Except.ok.inj here ▸ ended⟩

theorem pure_eq_ok_iff {a b : α} : (pure a : Except Failure α) = .ok b ↔ a = b :=
  ⟨Except.ok.inj, congrArg Except.ok⟩

theorem map_eq_ok_iff {stage : Except Failure α} {f : α → β} {b : β} :
    stage.map f = .ok b ↔ ∃ a, stage = .ok a ∧ f a = b := by
  cases stage <;> simp [Except.map]

theorem mapError_eq_ok_iff {stage : Except Failure α} {reword : Failure → Failure} {a : α} :
    stage.mapError reword = .ok a ↔ stage = .ok a := by
  cases stage <;> simp [Except.mapError]

end

namespace Fields

variable {α : Type}

theorem forall_bne_iff_not_mem {name : String} (entries : List (String × α)) :
    (∀ e ∈ entries, (name != e.1) = true) ↔ name ∉ entries.map (·.1) := by
  rw [List.mem_map, not_exists]
  refine forall_congr' fun e => ?_
  rw [not_and, bne_iff_ne, ne_comm]

theorem lookup_eq_none_iff {name : String} {entries : List (String × α)} :
    entries.lookup name = none ↔ name ∉ entries.map (·.1) :=
  List.lookup_eq_none_iff.trans (forall_bne_iff_not_mem entries)

theorem lookup_put_of_ne {name other : String} (different : other ≠ name) (value : α) (entries : List (String × α)) :
    (put name value entries).lookup other = entries.lookup other := by
  have unequal : (other == name) = false := by simpa using different
  induction entries with
  | nil => simp [put, different]
  | cons e rest ih =>
    obtain ⟨k, v⟩ := e
    by_cases same : k = name
    · subst same
      simp [put, List.lookup_cons, unequal]
    · simp [put, same, List.lookup_cons, ih]

theorem mem_map_fst_put {name : String} (value : α) (entries : List (String × α)) (k : String) :
    k ∈ (put name value entries).map (·.1) ↔ k = name ∨ k ∈ entries.map (·.1) := by
  by_cases present : name ∈ entries.map (·.1)
  · rw [map_fst_put_of_mem name value entries present]
    constructor
    · exact .inr
    · rintro (rfl | there)
      · exact present
      · exact there
  · rw [map_fst_put_of_not_mem name value entries present, List.mem_append, List.mem_singleton, or_comm]

theorem nodup_put {entries : List (String × α)} (distinct : (entries.map (·.1)).Nodup) (name : String) (value : α) :
    ((put name value entries).map (·.1)).Nodup := by
  by_cases present : name ∈ entries.map (·.1)
  · rwa [map_fst_put_of_mem name value entries present]
  · rw [map_fst_put_of_not_mem name value entries present]
    exact List.nodup_append.mpr ⟨distinct, List.nodup_singleton name, fun a there b here same => by
      rw [List.mem_singleton.mp here] at same
      exact present (same ▸ there)⟩

theorem putAll_cons (entries : List (String × α)) (e : String × α) (more : List (String × α)) :
    putAll entries (e :: more) = putAll (put e.1 e.2 entries) more := rfl

theorem lookup_putAll (entries more : List (String × α)) (name : String) :
    (putAll entries more).lookup name = (more.reverse.lookup name).or (entries.lookup name) := by
  induction more generalizing entries with
  | nil => rfl
  | cons e more ih =>
    rw [putAll_cons, ih, List.reverse_cons, List.lookup_append, Option.or_assoc]
    obtain ⟨k, v⟩ := e
    by_cases same : name = k
    · subst same
      rw [lookup_put_self]
      simp
    · have unequal : (name == k) = false := by simpa using same
      rw [lookup_put_of_ne same]
      simp [List.lookup_cons, unequal]

theorem mem_map_fst_putAll (entries more : List (String × α)) (k : String) :
    k ∈ (putAll entries more).map (·.1) ↔ k ∈ entries.map (·.1) ∨ k ∈ more.map (·.1) := by
  induction more generalizing entries with
  | nil => simp [putAll]
  | cons e more ih =>
    rw [putAll_cons, ih, mem_map_fst_put, List.map_cons, List.mem_cons]
    tauto

theorem nodup_putAll {entries : List (String × α)} (distinct : (entries.map (·.1)).Nodup) (more : List (String × α)) :
    ((putAll entries more).map (·.1)).Nodup := by
  induction more generalizing entries with
  | nil => exact distinct
  | cons e more ih => exact ih (nodup_put distinct e.1 e.2)

/-! ### Writing what is there -/

theorem put_eq_self {name : String} {value : α} {entries : List (String × α)}
    (present : entries.lookup name = some value) : put name value entries = entries := by
  induction entries with
  | nil => cases present
  | cons e rest ih =>
    obtain ⟨k, v⟩ := e
    by_cases same : k = name
    · subst same
      rw [List.lookup_cons_self] at present
      rw [put, if_pos rfl, Option.some.inj present]
    · have other : (name == k) = false := by simpa using Ne.symm same
      rw [List.lookup_cons, other] at present
      rw [put, if_neg same, ih present]

theorem put_append_of_not_mem {name : String} (value : α) {front : List (String × α)}
    (absent : name ∉ front.map (·.1)) (entries : List (String × α)) :
    put name value (front ++ entries) = front ++ put name value entries := by
  induction front with
  | nil => rfl
  | cons e front ih =>
    rw [List.map_cons, List.mem_cons, not_or] at absent
    rw [List.cons_append, put, if_neg (Ne.symm absent.1), ih absent.2, List.cons_append]

/-- Entries written over others whose names they begin with take the places of these, behind what was done. -/
theorem putAll_append_of_prefix (done : List (String × α)) {entries more : List (String × α)}
    (front : entries.map (·.1) <+: more.map (·.1)) (distinct : ((done ++ more).map (·.1)).Nodup) :
    putAll (done ++ entries) more = done ++ more := by
  induction more generalizing done entries with
  | nil =>
    rw [List.map_eq_nil_iff.mp (List.prefix_nil.mp front)]
    rfl
  | cons e more ih =>
    have absent : e.1 ∉ done.map (·.1) := by
      rw [List.map_append, List.map_cons] at distinct
      exact fun there => (List.nodup_append.mp distinct).2.2 e.1 there e.1 List.mem_cons_self rfl
    have later : ((done ++ [e] ++ more).map (·.1)).Nodup := by simpa using distinct
    rw [putAll_cons, put_append_of_not_mem e.2 absent]
    cases entries with
    | nil =>
      have appended := @ih (done ++ [e]) [] List.nil_prefix later
      simpa [put] using appended
    | cons other entries =>
      rw [List.map_cons, List.map_cons, List.cons_prefix_cons] at front
      rw [put, if_pos front.1]
      simpa using ih (done ++ [e]) front.2 later

/-- Entries that begin with the names of others, written over those, are left as they are. -/
theorem putAll_eq_self {entries more : List (String × α)} (distinct : (more.map (·.1)).Nodup)
    (front : entries.map (·.1) <+: more.map (·.1)) : putAll entries more = more :=
  putAll_append_of_prefix [] front distinct

/-- Writing adds names behind those that are there. -/
theorem map_fst_prefix_putAll (entries more : List (String × α)) :
    entries.map (·.1) <+: (putAll entries more).map (·.1) := by
  induction more generalizing entries with
  | nil => exact List.prefix_refl _
  | cons e more ih =>
    refine List.IsPrefix.trans ?_ (ih (put e.1 e.2 entries))
    by_cases present : e.1 ∈ entries.map (·.1)
    · exact (map_fst_put_of_mem e.1 e.2 entries present).symm ▸ List.prefix_refl _
    · rw [map_fst_put_of_not_mem e.1 e.2 entries present]
      exact List.prefix_append _ _

theorem lookup_putAll_of_nodup {more : List (String × α)} (distinct : (more.map (·.1)).Nodup)
    (entries : List (String × α)) (name : String) :
    (putAll entries more).lookup name = (more.lookup name).or (entries.lookup name) := by
  induction more generalizing entries with
  | nil => rfl
  | cons e more ih =>
    obtain ⟨k, v⟩ := e
    rw [List.map_cons, List.nodup_cons] at distinct
    rw [putAll_cons, ih distinct.2, List.lookup_cons]
    by_cases same : name = k
    · subst same
      rw [lookup_eq_none_iff.mpr distinct.1, lookup_put_self, beq_self_eq_true]
      rfl
    · rw [beq_eq_false_iff_ne.mpr same, lookup_put_of_ne same]

/-! ### Entries from pairs -/

variable {pairs : List (String × α)}

theorem nodup_ofPairs (pairs : List (String × α)) : ((ofPairs pairs).map (·.1)).Nodup := by
  apply nodup_putAll
  simp

theorem mem_map_fst_ofPairs {k : String} : k ∈ (ofPairs pairs).map (·.1) ↔ k ∈ pairs.map (·.1) := by
  rw [ofPairs, mem_map_fst_putAll]
  simp

theorem forall_mem_ofPairs_iff (p : String → Prop) : (∀ e ∈ ofPairs pairs, p e.1) ↔ ∀ e ∈ pairs, p e.1 := by
  have names (entries : List (String × α)) : (∀ e ∈ entries, p e.1) ↔ ∀ k ∈ entries.map (·.1), p k :=
    List.forall_mem_map.symm
  rw [names, names]
  exact forall_congr' fun k => by rw [mem_map_fst_ofPairs]

/-- Under a name stands what was written there last. -/
theorem lookup_ofPairs_eq_some_iff {name : String} {value : α} :
    (ofPairs pairs).lookup name = some value ↔
      ∃ before after, pairs = before ++ (name, value) :: after ∧ name ∉ after.map (·.1) := by
  rw [ofPairs, lookup_putAll, List.lookup_nil, Option.or_none, List.lookup_eq_some_iff]
  constructor
  · rintro ⟨before, after, split, absent⟩
    refine ⟨after.reverse, before.reverse, ?_, ?_⟩
    · rw [← pairs.reverse_reverse, split]
      simp
    · simpa using (forall_bne_iff_not_mem before).mp absent
  · rintro ⟨before, after, rfl, absent⟩
    refine ⟨after.reverse, before.reverse, by simp, (forall_bne_iff_not_mem _).mpr ?_⟩
    simpa using absent

theorem lookup_ofPairs_of_nodup (distinct : (pairs.map (·.1)).Nodup) {name : String} {value : α}
    (member : (name, value) ∈ pairs) : (ofPairs pairs).lookup name = some value := by
  obtain ⟨before, after, rfl⟩ := List.append_of_mem member
  refine lookup_ofPairs_eq_some_iff.mpr ⟨before, after, rfl, ?_⟩
  rw [List.map_append, List.map_cons] at distinct
  exact (List.nodup_cons.mp distinct.of_append_right).1

theorem length_ofPairs (pairs : List (String × α)) : (ofPairs pairs).length = (pairs.map (·.1)).dedup.length := by
  have same : ((ofPairs pairs).map (·.1)).Perm (pairs.map (·.1)).dedup := by
    refine (List.perm_ext_iff_of_nodup (nodup_ofPairs pairs) (List.nodup_dedup _)).mpr fun k => ?_
    rw [mem_map_fst_ofPairs, List.mem_dedup]
  rw [← same.length_eq, List.length_map]

/-- There are as many entries as pairs exactly when no two pairs have one name. -/
theorem length_ofPairs_eq_iff : (ofPairs pairs).length = pairs.length ↔ (pairs.map (·.1)).Nodup := by
  have names : (pairs.map (·.1)).length = pairs.length := List.length_map _
  rw [length_ofPairs, ← names, ← List.dedup_eq_self]
  constructor
  · exact (List.dedup_sublist _).eq_of_length
  · exact congrArg List.length

end Fields

end CrudScripts.Data
