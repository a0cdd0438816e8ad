import CrudScripts.Proofs.Text.Joining
import CrudScripts.Settings.Paths

/-!
Where a resolved path leads. A place is a list of names, and the path of a place leads to it
(`walk_pathSteps_placePath`). So a path that is resolved against a root leads to where its steps lead from the root,
and is the plain path of this place: absolute, and made of names only (`leadsTo_resolvePath`).
-/
namespace CrudScripts.Settings
open CrudScripts.Text

/-- A step that is a name: it neither stays in place nor goes up. -/
structure IsName (step : String) : Prop where
  nonempty : step ≠ ""
  moves : step ≠ "."
  descends : step ≠ ".."
  whole : '/' ∉ step.toList

/-- A plain path of a place: absolute, leading there by the names of the place and nothing else. -/
structure LeadsTo (path : String) (place : List String) : Prop where
  absolute : isAbsolute path = true
  arrives : walk [] (pathSteps path) = place
  names : ∀ name ∈ place, IsName name
  plain : path = placePath place

theorem not_mem_of_mem_pathSteps {path step : String} (member : step ∈ pathSteps path) : '/' ∉ step.toList := by
  obtain ⟨piece, inside, rfl⟩ := List.mem_map.mp member
  rw [String.toList_ofList]
  exact not_mem_of_mem_cut inside

/-- Steps without a slash lead from names to names. -/
theorem isName_of_mem_walk {place steps : List String} (names : ∀ name ∈ place, IsName name)
    (whole : ∀ step ∈ steps, '/' ∉ step.toList) : ∀ name ∈ walk place steps, IsName name := by
  induction steps generalizing place with
  | nil => exact names
  | cons step steps ih =>
    have later : ∀ step ∈ steps, '/' ∉ step.toList := fun other member => whole other (List.mem_cons_of_mem _ member)
    rw [walk]
    split
    · exact ih names later
    · rename_i stays
      rw [not_or] at stays
      split
      · exact ih (fun name member => names name (List.mem_of_mem_tail member)) later
      · rename_i descends
        refine ih (List.forall_mem_cons.mpr ⟨?_, names⟩) later
        exact ⟨stays.1, stays.2, descends, whole step List.mem_cons_self⟩

theorem isName_of_mem_walk_pathSteps {place : List String} (names : ∀ name ∈ place, IsName name) (path : String) :
    ∀ name ∈ walk place (pathSteps path), IsName name :=
  isName_of_mem_walk names fun _ member => not_mem_of_mem_pathSteps member

theorem walk_names {steps : List String} (names : ∀ step ∈ steps, IsName step) (place : List String) :
    walk place steps = steps.reverse ++ place := by
  induction steps generalizing place with
  | nil => rfl
  | cons step steps ih =>
    have name := names step List.mem_cons_self
    rw [walk, if_neg (not_or.mpr ⟨name.nonempty, name.moves⟩), if_neg name.descends,
      ih fun other member => names other (List.mem_cons_of_mem _ member), List.reverse_cons, List.append_assoc,
      List.singleton_append]

theorem isAbsolute_placePath (place : List String) : isAbsolute (placePath place) = true := by
  rw [isAbsolute, placePath, String.toList_append]
  rfl

/-- The steps of the path of a place: an empty one before the slash at the front, then the names. -/
theorem pathSteps_placePath {place : List String} (names : ∀ name ∈ place, IsName name) :
    pathSteps (placePath place) = "" :: if place = [] then [""] else place.reverse := by
  have letters : (placePath place).toList = '/' :: List.intercalate ['/'] (place.reverse.map String.toList) := by
    rw [placePath, String.toList_append, toList_join]
    rfl
  rw [pathSteps, letters, cut, if_pos rfl, List.map_cons]
  split
  · rename_i top
    subst top
    rfl
  · rename_i below
    have whole : ∀ piece ∈ place.reverse.map String.toList, '/' ∉ piece := by
      rw [List.forall_mem_map]
      exact fun name member => (names name (List.mem_reverse.mp member)).whole
    rw [cut_intercalate (by simpa using below) whole, List.map_map]
    simp [Function.comp_def]

theorem walk_pathSteps_placePath {place : List String} (names : ∀ name ∈ place, IsName name) :
    walk [] (pathSteps (placePath place)) = place := by
  rw [pathSteps_placePath names, walk, if_pos (.inl rfl)]
  split
  · rename_i top
    rw [top, walk, if_pos (.inl rfl), walk]
  · rw [walk_names fun name member => names name (List.mem_reverse.mp member), List.reverse_reverse, List.append_nil]

theorem leadsTo_resolvePath (root path : String) :
    LeadsTo (resolvePath root path) (walk (walk [] (pathSteps root)) (pathSteps path)) := by
  have names := isName_of_mem_walk_pathSteps (@isName_of_mem_walk_pathSteps [] (by simp) root) path
  exact ⟨isAbsolute_placePath _, walk_pathSteps_placePath names, names, rfl⟩

example : resolvePath "/srv/app" "../logs//./old" = "/srv/logs/old" := by decide

end CrudScripts.Settings
