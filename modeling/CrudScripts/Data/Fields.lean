/-!
Named entries in order of first arrival. Writing to a new name adds an entry at the end; writing to
a name that is present replaces its value and moves nothing.
-/
namespace CrudScripts.Data.Fields

variable {α : Type}

/-- The entries with a value written under a name. -/
def put (name : String) (value : α) : List (String × α) → List (String × α)
  | [] => [(name, value)]
  | (k, v) :: rest => if k = name then (name, value) :: rest else (k, v) :: put name value rest

/-- The entries with several values written one after the other. -/
def putAll (entries : List (String × α)) (more : List (String × α)) : List (String × α) :=
  more.foldl (fun acc e => put e.1 e.2 acc) entries

/-- Entries from pairs: a repeated name keeps its first place and its last value. -/
def ofPairs (pairs : List (String × α)) : List (String × α) := putAll [] pairs

theorem map_fst_put_of_mem (name : String) (value : α) (entries : List (String × α))
    (h : name ∈ entries.map (·.1)) : (put name value entries).map (·.1) = entries.map (·.1) := by
  induction entries with
  | nil => simp at h
  | cons e rest ih =>
    by_cases same : e.1 = name
    · simp [put, same]
    · have later : name ∈ rest.map (·.1) := by simpa [Ne.symm same] using h
      simp [put, same, ih later]

theorem map_fst_put_of_not_mem (name : String) (value : α) (entries : List (String × α))
    (h : name ∉ entries.map (·.1)) :
    (put name value entries).map (·.1) = entries.map (·.1) ++ [name] := by
  induction entries with
  | nil => rfl
  | cons e rest ih =>
    simp only [List.map_cons, List.mem_cons, not_or] at h
    simp [put, Ne.symm h.1, ih h.2]

theorem lookup_put_self (name : String) (value : α) (entries : List (String × α)) :
    (put name value entries).lookup name = some value := by
  induction entries with
  | nil => simp [put]
  | cons e rest ih =>
    obtain ⟨k, v⟩ := e
    by_cases same : k = name
    · simp [put, same]
    · have other : (name == k) = false := by simpa using Ne.symm same
      simp [put, same, List.lookup_cons, other, ih]

end CrudScripts.Data.Fields
