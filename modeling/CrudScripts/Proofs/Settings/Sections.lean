import CrudScripts.Proofs.Data.Fields
import CrudScripts.Proofs.Settings.Paths
import CrudScripts.Settings.Load
import Mathlib.Data.List.Forall2

/-!
The parts of settings and what becomes of each when settings are loaded. A section is a dictionary or absent, and
reads as its entries (`completeSection_eq_ok_iff`); default targets are texts (`checkedTargets_eq_ok_iff`); and a base
directory becomes an absolute path, if it is a path at all (`resolveDirectory_eq_ok_iff`).
-/
namespace CrudScripts.Settings
open CrudScripts.Data CrudScripts.Text

variable {v w : Value}

/-! ### Sections -/

/-- The entries of a value; what is no dictionary has none. -/
def entries : Value → List (String × Value)
  | .dict fields => fields
  | _ => []

/-- What a value holds under a name; null when it holds nothing there. -/
def under (v : Value) (name : String) : Value := ((entries v).lookup name).getD .null

/-- A dictionary, or a value that counts as absent. -/
def IsMapping (v : Value) : Prop := v.truthy = true → ∃ fields, v = .dict fields

theorem isMapping_dict (fields : List (String × Value)) : IsMapping (.dict fields) := fun _ => ⟨fields, rfl⟩

theorem isMapping_of_falsy (absent : v.truthy = false) : IsMapping v :=
  fun present => nomatch absent.symm.trans present

theorem entries_of_falsy (absent : v.truthy = false) : entries v = [] := by
  cases v with
  | dict fields =>
    cases fields with
    | nil => rfl
    | cons e fields => cases absent
  | _ => rfl

/-- A section reads as the dictionary of its entries. -/
theorem eq_dict_iff {fields : List (String × Value)} :
    (if v.truthy then v else .dict []) = .dict fields ↔ IsMapping v ∧ fields = entries v := by
  cases present : v.truthy with
  | false =>
    rw [if_neg Bool.false_ne_true, entries_of_falsy present, and_iff_right (isMapping_of_falsy present),
      Value.dict.injEq, eq_comm]
  | true =>
    rw [if_pos rfl]
    constructor
    · rintro rfl
      exact ⟨isMapping_dict fields, rfl⟩
    · rintro ⟨mapping, rfl⟩
      obtain ⟨fields, rfl⟩ := mapping present
      rfl

theorem fields_eq_ok_iff {fields : List (String × Value)} : v.fields = .ok fields ↔ v = .dict fields := by
  cases v with
  | dict others => rw [Value.fields, Except.ok.injEq, Value.dict.injEq]
  | _ => exact iff_of_false (fun read => nomatch read) fun same => nomatch same

theorem fieldsIfAny_eq_ok_iff {fields : List (String × Value)} :
    fieldsIfAny v = .ok fields ↔ IsMapping v ∧ fields = entries v := by
  have whole : fieldsIfAny v = (if v.truthy then v else .dict []).fields := by
    rw [fieldsIfAny, apply_ite Value.fields]
    rfl
  rw [whole, fields_eq_ok_iff, eq_dict_iff]

theorem memberD_eq_ok_iff {name : String} {default : Value} :
    v.memberD name default = .ok w ↔ ∃ fields, v = .dict fields ∧ w = (fields.lookup name).getD default := by
  cases v with
  | dict fields =>
    constructor
    · intro read
      exact ⟨fields, rfl, (Except.ok.inj read).symm⟩
    · rintro ⟨_, ⟨⟩, rfl⟩
      rfl
  | _ => exact iff_of_false (fun read => nomatch read) fun ⟨_, same, _⟩ => nomatch same

theorem completeSection_eq_ok_iff {name : String} {defaults completed : List (String × Value)}
    {given : Option Value} : completeSection name defaults given = .ok completed ↔
      IsMapping (given.getD .null) ∧ completed = Fields.putAll defaults (entries (given.getD .null)) := by
  unfold completeSection
  split
  · rename_i fields
    rw [Option.getD_some, and_iff_right (isMapping_dict fields), Except.ok.injEq, eq_comm]
    rfl
  · rename_i other noDict
    rw [Option.getD_some]
    cases present : other.truthy with
    | false =>
      rw [if_neg Bool.false_ne_true, entries_of_falsy present, and_iff_right (isMapping_of_falsy present),
        Except.ok.injEq, eq_comm]
      rfl
    | true =>
      refine iff_of_false (fun made => nomatch made) fun made => ?_
      obtain ⟨fields, same⟩ := made.1 present
      exact noDict fields same
  · rw [Option.getD_none, and_iff_right (isMapping_of_falsy rfl), Except.ok.injEq, eq_comm]
    rfl

/-! ### Default targets -/

/-- A list of texts, or a value that counts as absent. -/
def AreTargets (v : Value) : Prop := v.truthy = true → ∃ names : List String, v = .list (names.map .text)

theorem areTargets_of_falsy (absent : v.truthy = false) : AreTargets v :=
  fun present => nomatch absent.symm.trans present

theorem all_isText_iff {items : List Value} :
    (items.all fun item => item.text?.isSome) = true ↔ ∃ names : List String, items = names.map .text := by
  induction items with
  | nil => exact iff_of_true rfl ⟨[], rfl⟩
  | cons item items ih =>
    rw [List.all_cons, Bool.and_eq_true, ih]
    constructor
    · rintro ⟨first, names, rfl⟩
      cases item with
      | text name => exact ⟨name :: names, rfl⟩
      | _ => cases first
    · rintro ⟨names, same⟩
      obtain ⟨name, names, rfl, rfl, rfl⟩ := List.map_eq_cons_iff.mp same.symm
      exact ⟨rfl, names, rfl⟩

theorem checkedTargets_eq_ok_iff : checkedTargets v = .ok w ↔
    ∃ names : List String, w = .list (names.map .text) ∧
      if v.truthy then v = .list (names.map .text) else names = [] := by
  unfold checkedTargets
  cases present : v.truthy with
  | false =>
    constructor
    · intro checked
      exact ⟨[], (Except.ok.inj checked).symm, rfl⟩
    · rintro ⟨names, rfl, rfl⟩
      rfl
  | true =>
    rw [if_pos rfl]
    split
    · rename_i items
      split
      · rename_i texts
        obtain ⟨names, rfl⟩ := all_isText_iff.mp texts
        constructor
        · intro checked
          exact ⟨names, (Except.ok.inj checked).symm, rfl⟩
        · rintro ⟨others, rfl, same⟩
          exact congrArg _ same
      · rename_i others
        refine iff_of_false (fun checked => nomatch checked) ?_
        rintro ⟨names, -, same⟩
        exact others (all_isText_iff.mpr ⟨names, Value.list.inj same⟩)
    · rename_i noList
      refine iff_of_false (fun checked => nomatch checked) ?_
      rintro ⟨names, -, same⟩
      exact noList _ same

theorem exists_checkedTargets_iff : (∃ targets, checkedTargets v = .ok targets) ↔ AreTargets v := by
  simp only [checkedTargets_eq_ok_iff, AreTargets]
  cases present : v.truthy with
  | false => exact iff_of_true ⟨_, [], rfl, rfl⟩ fun given => nomatch given
  | true =>
    constructor
    · rintro ⟨_, names, -, same⟩ -
      exact ⟨names, same⟩
    · intro texts
      obtain ⟨names, same⟩ := texts rfl
      exact ⟨_, names, rfl, same⟩

theorem checkedTargets_texts (names : List String) :
    checkedTargets (.list (names.map .text)) = .ok (.list (names.map .text)) := by
  refine checkedTargets_eq_ok_iff.mpr ⟨names, rfl, ?_⟩
  cases names with
  | nil => rfl
  | cons name names => rfl

/-! ### Base directories -/

section
variable {root : String} {machine : Machine}

/-- A value that is no relative path with a null character in it, or with a name that the file system has no bytes
    for. -/
def IsPlainPath (machine : Machine) (v : Value) : Prop :=
  ∀ path, v = .text path → isAbsolute path = false →
    '\x00' ∉ path.toList ∧ ∀ name ∈ pathSteps path, machine.nameFault? name = none

/-- What becomes of a base directory: a relative path becomes the plain path of the place that it leads to from the
    root, and everything else stays as it is. -/
inductive Becomes (root : String) : Value → Value → Prop
  | absolute {path : String} (top : isAbsolute path = true) : Becomes root (.text path) (.text path)
  | relative {path plain : String} (low : isAbsolute path = false)
      (leads : LeadsTo plain (walk (walk [] (pathSteps root)) (pathSteps path))) : Becomes root (.text path) (.text plain)
  | other {v : Value} (kind : v.text? = none) : Becomes root v v

theorem isPlainPath_of_absolute {path : String} (top : isAbsolute path = true) : IsPlainPath machine (.text path) := by
  rintro _ ⟨⟩ low
  cases top.symm.trans low

theorem isPlainPath_of_other (kind : v.text? = none) : IsPlainPath machine v := by
  rintro path rfl
  cases kind

theorem stepFault?_eq_none_iff {step : String} :
    machine.stepFault? step = none ↔ '\x00' ∉ step.toList ∧ machine.nameFault? step = none := by
  unfold Machine.stepFault?
  cases machine.nameFault? step <;> simp

theorem exists_null_step_iff {path : String} :
    (∃ step ∈ pathSteps path, '\x00' ∈ step.toList) ↔ '\x00' ∈ path.toList := by
  simpa [pathSteps] using @exists_mem_cut_iff '/' '\x00' path.toList

theorem findSome?_stepFault?_eq_none_iff {path : String} :
    (pathSteps path).findSome? machine.stepFault? = none ↔
      '\x00' ∉ path.toList ∧ ∀ name ∈ pathSteps path, machine.nameFault? name = none := by
  rw [← exists_null_step_iff, List.findSome?_eq_none_iff]
  simp only [stepFault?_eq_none_iff, not_exists, not_and, imp_and, forall_and]

theorem resolveDirectory_of_absolute (machine : Machine) {path : String} (top : isAbsolute path = true) :
    resolveDirectory machine (.text path) = .ok (.text path) := by
  rw [resolveDirectory, if_pos top]

theorem resolveDirectory_of_other (machine : Machine) (kind : v.text? = none) : resolveDirectory machine v = .ok v := by
  cases v with
  | text path => cases kind
  | _ => rfl

theorem resolveDirectory_of_relative (machine : Machine) {path : String} (low : isAbsolute path = false) :
    resolveDirectory machine (.text path) = match (pathSteps path).findSome? machine.stepFault? with
      | some failure => .error failure
      | none => .ok (.text (resolvePath machine.root path)) := by
  have under : ¬ isAbsolute path = true := by rw [low]; exact Bool.false_ne_true
  exact if_neg under

theorem resolveDirectory_eq_ok_iff :
    resolveDirectory machine v = .ok w ↔ Becomes machine.root v w ∧ IsPlainPath machine v := by
  constructor
  · intro resolved
    cases kind : v.text? with
    | none =>
      rw [resolveDirectory_of_other machine kind] at resolved
      obtain rfl := Except.ok.inj resolved
      exact ⟨.other kind, isPlainPath_of_other kind⟩
    | some path =>
      obtain rfl : v = .text path := by
        cases v with
        | text other => exact congrArg _ (Option.some.inj kind)
        | _ => cases kind
      cases top : isAbsolute path with
      | true =>
        rw [resolveDirectory_of_absolute machine top] at resolved
        obtain rfl := Except.ok.inj resolved
        exact ⟨.absolute top, isPlainPath_of_absolute top⟩
      | false =>
        rw [resolveDirectory_of_relative machine top] at resolved
        split at resolved
        · cases resolved
        · rename_i clean
          obtain rfl := Except.ok.inj resolved
          refine ⟨.relative top (leadsTo_resolvePath machine.root path), ?_⟩
          rintro _ ⟨⟩ -
          exact findSome?_stepFault?_eq_none_iff.mp clean
  · rintro ⟨made, clean⟩
    cases made with
    | absolute top => exact resolveDirectory_of_absolute machine top
    | other kind => exact resolveDirectory_of_other machine kind
    | @relative path plain low leads =>
      have taken := findSome?_stepFault?_eq_none_iff.mpr (clean path rfl low)
      rw [resolveDirectory_of_relative machine low, taken, leads.plain]
      rfl

theorem resolveDirectories_eq_ok_iff {given resolved : List (String × Value)} :
    resolveDirectories machine given = .ok resolved ↔
      List.Forall₂ (fun given made => given.1 = made.1 ∧ resolveDirectory machine given.2 = .ok made.2) given resolved := by
  induction given generalizing resolved with
  | nil =>
    rw [List.forall₂_nil_left_iff, resolveDirectories, Except.ok.injEq, eq_comm]
  | cons e given ih =>
    rw [List.forall₂_cons_left_iff]
    constructor
    · intro made
      obtain ⟨path, first, made⟩ := bind_eq_ok_iff.mp made
      obtain ⟨later, rest, ended⟩ := bind_eq_ok_iff.mp made
      exact ⟨(e.1, path), later, ⟨rfl, first⟩, ih.mp rest, (pure_eq_ok_iff.mp ended).symm⟩
    · rintro ⟨⟨name, path⟩, later, ⟨rfl, first⟩, rest, rfl⟩
      exact bind_eq_ok_iff.mpr ⟨path, first, bind_eq_ok_iff.mpr ⟨later, ih.mpr rest, rfl⟩⟩

theorem resolveDirectory_of_becomes (made : Becomes root v w) : resolveDirectory machine w = .ok w := by
  cases made with
  | absolute top => exact resolveDirectory_of_absolute machine top
  | relative low leads => exact resolveDirectory_of_absolute machine leads.absolute
  | other kind => exact resolveDirectory_of_other machine kind

theorem resolveDirectories_of_resolved {given resolved : List (String × Value)}
    (first : resolveDirectories machine given = .ok resolved) : resolveDirectories machine resolved = .ok resolved := by
  rw [resolveDirectories_eq_ok_iff] at first ⊢
  induction first with
  | nil => exact .nil
  | cons made _ ih => exact .cons ⟨rfl, resolveDirectory_of_becomes (resolveDirectory_eq_ok_iff.mp made.2).1⟩ ih

theorem exists_becomes (root : String) (v : Value) : ∃ w, Becomes root v w := by
  cases v with
  | text path =>
    cases top : isAbsolute path with
    | true => exact ⟨_, .absolute top⟩
    | false => exact ⟨_, .relative top (leadsTo_resolvePath root path)⟩
  | _ => exact ⟨_, .other rfl⟩

theorem exists_resolveDirectories_iff {given : List (String × Value)} :
    (∃ resolved, resolveDirectories machine given = .ok resolved) ↔ ∀ e ∈ given, IsPlainPath machine e.2 := by
  simp only [resolveDirectories_eq_ok_iff, resolveDirectory_eq_ok_iff]
  induction given with
  | nil => exact iff_of_true ⟨[], .nil⟩ (by simp)
  | cons e given ih =>
    rw [List.forall_mem_cons, ← ih]
    constructor
    · rintro ⟨_, made⟩
      cases made with
      | cons first rest => exact ⟨first.2.2, _, rest⟩
    · rintro ⟨plain, resolved, rest⟩
      obtain ⟨path, made⟩ := exists_becomes machine.root e.2
      exact ⟨(e.1, path) :: resolved, .cons ⟨rfl, made, plain⟩ rest⟩

end

end CrudScripts.Settings
