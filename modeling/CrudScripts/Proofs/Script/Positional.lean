import CrudScripts.Proofs.Text.References
import CrudScripts.Script.Routine
import Mathlib.Data.List.Forall2

/-!
Routines whose bodies refer to their parameters by place. Replacing each reference of a PL/pgSQL body by the
name of the parameter at its place gives the body of every other family, which refers to its parameters by
name (`positional_routines`). No table or column name may have a dollar sign, which would read as a
reference.
-/
namespace CrudScripts.Script
open CrudScripts.Dialect CrudScripts.Schema CrudScripts.Text

/-- The name under which a family declares the parameter of a column. -/
def parameterName (family : Family) (c : Column) : String :=
  match family with
  | .tsql => "@" ++ c.name
  | .plpgsql | .mysql | .plsql => "p_" ++ c.name

/-- The name of the parameter at a place, counted from one. -/
def nameAt (family : Family) (parameters : List Column) (place : Nat) : List Char :=
  ((parameters[place - 1]?.map (parameterName family)).getD "").toList

/-- A declaration: what a family writes before the name of a parameter, the name, and a space before the rest. -/
def Declares (name text : String) : Prop :=
  ∃ before after, before ∈ ["", "  ", "IN "] ∧ text = before ++ name ++ " " ++ after

theorem declares_declaration (family : Family) (types : TypeMap) (c : Column) :
    Declares (parameterName family c) (declaration family types c) := by
  cases family with
  | tsql =>
    refine ⟨"  ", types.map c.type, by simp, ?_⟩
    rw [declaration, show "  @" = "  " ++ "@" from rfl, parameterName]
    simp only [String.append_assoc]
  | mysql =>
    refine ⟨"IN ", types.map c.type, by simp, ?_⟩
    rw [declaration, show "IN p_" = "IN " ++ "p_" from rfl, parameterName]
    simp only [String.append_assoc]
  | plpgsql => exact ⟨"", types.map c.type, by simp, by simp [declaration, parameterName]⟩
  | plsql =>
    refine ⟨"", "IN " ++ types.map c.type, by simp, ?_⟩
    rw [declaration, show " IN " = " " ++ "IN " from rfl, parameterName]
    simp only [String.append_assoc, String.empty_append]

theorem reference_of_named {family : Family} (named : family ≠ .plpgsql) (c : Column) (place : Nat) :
    reference family c.name place = parameterName family c := by
  cases family with
  | plpgsql => exact absurd rfl named
  | _ => rfl

/-! ### The places of columns -/

/-- The places that a family gives to a list of columns, in order. -/
theorem bindFrom_eq (write : String → Nat → String) (start : Nat) (columns : List Column) :
    bindFrom write start columns = (columns.zipIdx start).map fun c => ⟨c.1.name, write c.1.name c.2⟩ := by
  induction columns generalizing start with
  | nil => rfl
  | cons c columns ih => rw [bindFrom, ih, List.zipIdx_cons, List.map_cons]

theorem getElem?_of_mem_zipIdx {columns : List Column} {c : Column × Nat} (member : c ∈ columns.zipIdx 1) :
    1 ≤ c.2 ∧ columns[c.2 - 1]? = some c.1 := by
  obtain ⟨first, at'⟩ := List.mk_mem_zipIdx_iff_le_and_getElem?_sub.mp (show (c.1, c.2) ∈ _ from member)
  exact ⟨first, at'⟩

/-- A name that is among the columns or the keys is looked up at the first parameter of this name. -/
theorem getElem?_place (columns : List Column) {keys : List Column} {key : Column} (member : key ∈ keys) :
    ∃ p, (updateParameters columns keys)[place (updateParameters columns keys) key.name - 1]? = some p ∧
      p.name = key.name ∧
      ∀ q ∈ (updateParameters columns keys).take (place (updateParameters columns keys) key.name - 1),
        q.name ≠ key.name := by
  have known : ∃ p ∈ updateParameters columns keys, p.name = key.name := by
    by_cases assigned : key.name ∈ columns.map (·.name)
    · obtain ⟨c, inside, same⟩ := List.mem_map.mp assigned
      exact ⟨c, List.mem_append_left _ inside, same⟩
    · refine ⟨key, List.mem_append_right _ (List.mem_filter.mpr ⟨member, ?_⟩), rfl⟩
      simpa using assigned
  obtain ⟨p, inside, same⟩ := known
  have found : (updateParameters columns keys).findIdx (fun c => c.name == key.name) <
      (updateParameters columns keys).length :=
    List.findIdx_lt_length_of_exists ⟨p, inside, by simpa using same⟩
  refine ⟨_, List.getElem?_eq_getElem found, ?_, ?_⟩
  · simpa using List.findIdx_getElem (w := found)
  · intro q before
    obtain ⟨i, bound, rfl⟩ := List.mem_iff_getElem.mp before
    rw [List.getElem_take]
    have earlier : i < (updateParameters columns keys).findIdx (fun c => c.name == key.name) := by
      rw [List.length_take] at bound
      exact lt_of_lt_of_le bound (Nat.min_le_left _ _)
    simpa using List.not_of_lt_findIdx earlier

/-! ### Bodies -/

/-- A column bound to the parameter at a place, as PL/pgSQL writes it. -/
def placeBinding (c : Column × Nat) : Binding := ⟨c.1.name, "$" ++ toString c.2⟩

/-- A column bound to the parameter at a place by name. -/
def nameBinding (name : Nat → List Char) (c : Column × Nat) : Binding := ⟨c.1.name, String.ofList (name c.2)⟩

/-- Columns that are bound to parameters of their name. -/
def BoundByName (parameters : List Column) (bound : List (Column × Nat)) : Prop :=
  ∀ c ∈ bound, 1 ≤ c.2 ∧ ∃ p, parameters[c.2 - 1]? = some p ∧ p.name = c.1.name

/-- Columns without dollar signs in their names. -/
def WithoutDollars (columns : List Column) : Prop := ∀ c ∈ columns, '$' ∉ c.name.toList

instance (columns : List Column) : Decidable (WithoutDollars columns) := List.decidableBAll _ columns

theorem toList_placeBinding (c : Column × Nat) : (placeBinding c).value.toList = referenceText c.2 := by
  simp [placeBinding, referenceText, Nat.toString_eq_repr, Nat.toList_repr]

section
variable {name : Nat → List Char} {a b : List Char} {places : List Nat} {bound : List (Column × Nat)}

theorem resolves_values (stops : Stops Char.isDigit a) (rest : Resolves name a b places) :
    Resolves name ((join ", " (bound.map fun c => (placeBinding c).value)).toList ++ a)
      ((join ", " (bound.map fun c => (nameBinding name c).value)).toList ++ b)
      (bound.map (·.2) ++ places) := by
  have absent : ∀ cell ∈ bound.map fun c => (([] : List Char), c.2), '$' ∉ cell.1 := by
    intro cell member
    obtain ⟨c, -, rfl⟩ := List.mem_map.mp member
    simp
  have cells : Resolves name _ _ _ :=
    Resolves.intercalate (show '$' ∉ ", ".toList by decide) (by decide) (by decide) absent stops rest
  simpa [toList_join, Function.comp_def, toList_placeBinding, nameBinding] using cells

theorem resolves_equations {separator : String} (plain : '$' ∉ separator.toList) (nonempty : separator.toList ≠ [])
    (nondigit : Stops Char.isDigit separator.toList) (names : ∀ c ∈ bound, '$' ∉ c.1.name.toList)
    (stops : Stops Char.isDigit a) (rest : Resolves name a b places) :
    Resolves name ((join separator (bound.map fun c => (placeBinding c).equation)).toList ++ a)
      ((join separator (bound.map fun c => (nameBinding name c).equation)).toList ++ b)
      (bound.map (·.2) ++ places) := by
  have absent : ∀ cell ∈ bound.map fun c => (c.1.name.toList ++ " = ".toList, c.2), '$' ∉ cell.1 := by
    intro cell member
    obtain ⟨c, inside, rfl⟩ := List.mem_map.mp member
    simpa using names c inside
  have cells := Resolves.intercalate plain nonempty nondigit absent stops rest
  have positional : (bound.map fun c => (placeBinding c).equation).map String.toList =
      (bound.map fun c => (c.1.name.toList ++ " = ".toList, c.2)).map fun cell => cell.1 ++ referenceText cell.2 := by
    simp only [List.map_map, Function.comp_def, Binding.equation, String.toList_append, toList_placeBinding]
    rfl
  have named : (bound.map fun c => (nameBinding name c).equation).map String.toList =
      (bound.map fun c => (c.1.name.toList ++ " = ".toList, c.2)).map fun cell => cell.1 ++ name cell.2 := by
    simp only [List.map_map, Function.comp_def, Binding.equation, String.toList_append, nameBinding,
      String.toList_ofList]
  rw [toList_join, toList_join, positional, named]
  simpa [List.map_map, Function.comp_def] using cells

/-! ### Statements -/

theorem toList_insert (gap table : String) (values : List Binding) :
    ((Statement.insert table values).render gap).toList =
      ("INSERT INTO " ++ table ++ " (" ++ join ", " (values.map (·.column)) ++ ")" ++ gap ++ "VALUES (").toList ++
        ((join ", " (values.map (·.value))).toList ++ ");".toList) := by
  change ("INSERT INTO " ++ table ++ " (" ++ join ", " (values.map (·.column)) ++ ")" ++ gap ++ "VALUES (" ++
    join ", " (values.map (·.value)) ++ ");").toList = _
  simp only [String.toList_append, List.append_assoc]

theorem toList_update (gap table : String) (assignments conditions : List Binding) :
    ((Statement.update table assignments conditions).render gap).toList =
      ("UPDATE " ++ table ++ " SET ").toList ++ ((join ", " (assignments.map Binding.equation)).toList ++
        (" WHERE ".toList ++ ((join " AND " (conditions.map Binding.equation)).toList ++ ";".toList))) := by
  change ("UPDATE " ++ table ++ " SET " ++ assignmentText assignments ++ " WHERE " ++
    conditionText conditions ++ ";").toList = _
  simp only [assignmentText, conditionText, String.toList_append, List.append_assoc]

theorem resolves_insert {gap table : String} (plainGap : '$' ∉ gap.toList) (plain : '$' ∉ table.toList)
    (names : ∀ c ∈ bound, '$' ∉ c.1.name.toList) :
    Resolves name ((Statement.insert table (bound.map placeBinding)).render gap).toList
      ((Statement.insert table (bound.map (nameBinding name))).render gap).toList (bound.map (·.2)) := by
  have columns : '$' ∉ (join ", " (bound.map fun c => c.1.name)).toList := by
    refine not_mem_join (by decide) fun text member => ?_
    obtain ⟨c, inside, rfl⟩ := List.mem_map.mp member
    exact names c inside
  have front : '$' ∉ ("INSERT INTO " ++ table ++ " (" ++ join ", " (bound.map fun c => c.1.name) ++ ")" ++ gap ++
      "VALUES (").toList := by
    simp [plain, plainGap, columns]
  have closed : Resolves name ");".toList ");".toList [] := .of_plain (by decide)
  have values : Resolves name _ _ (bound.map (·.2) ++ []) := resolves_values (by decide) closed
  have whole := Resolves.append front values
  rw [toList_insert, toList_insert, List.map_map, List.map_map, List.map_map, List.map_map]
  rw [List.append_nil] at whole
  exact whole

theorem resolves_update (gap : String) {table : String} (plain : '$' ∉ table.toList) {assigned : List (Column × Nat)}
    (names : ∀ c ∈ assigned, '$' ∉ c.1.name.toList) (names' : ∀ c ∈ bound, '$' ∉ c.1.name.toList) :
    Resolves name ((Statement.update table (assigned.map placeBinding) (bound.map placeBinding)).render gap).toList
      ((Statement.update table (assigned.map (nameBinding name)) (bound.map (nameBinding name))).render gap).toList
      ((assigned ++ bound).map (·.2)) := by
  have closed : Resolves name ";".toList ";".toList [] := .of_plain (by decide)
  have conditions := resolves_equations (show '$' ∉ " AND ".toList by decide) (by decide) (by decide) names'
    (by decide) closed
  have middle := Resolves.append (show '$' ∉ " WHERE ".toList by decide) conditions
  have front : '$' ∉ ("UPDATE " ++ table ++ " SET ").toList := by simp [plain]
  have whole := Resolves.append front (resolves_equations (show '$' ∉ ", ".toList by decide) (by decide) (by decide)
    names ((stops_append (by decide) _).mpr (by decide)) middle)
  rw [toList_update, toList_update, List.map_map, List.map_map, List.map_map, List.map_map]
  rw [List.append_nil, ← List.map_append] at whole
  exact whole

/-- A statement that has conditions only, whatever it does with the rows. -/
theorem resolves_restricted {verb : String} (plainVerb : '$' ∉ verb.toList) {table : String}
    (plain : '$' ∉ table.toList) (names : ∀ c ∈ bound, '$' ∉ c.1.name.toList) :
    Resolves name (verb ++ table ++ " WHERE " ++ conditionText (bound.map placeBinding) ++ ";").toList
      (verb ++ table ++ " WHERE " ++ conditionText (bound.map (nameBinding name)) ++ ";").toList
      (bound.map (·.2)) := by
  have closed : Resolves name ";".toList ";".toList [] := .of_plain (by decide)
  have conditions := resolves_equations (show '$' ∉ " AND ".toList by decide) (by decide) (by decide) names
    (by decide) closed
  have front : '$' ∉ (verb ++ table ++ " WHERE ").toList := by simp [plainVerb, plain]
  have whole := Resolves.append front conditions
  have split (listed : List Binding) : (verb ++ table ++ " WHERE " ++ conditionText listed ++ ";").toList =
      (verb ++ table ++ " WHERE ").toList ++ ((join " AND " (listed.map Binding.equation)).toList ++ ";".toList) := by
    simp only [conditionText, String.toList_append, List.append_assoc]
  rw [split, split, List.map_map, List.map_map]
  rw [List.append_nil] at whole
  exact whole

end

theorem reference_eq_nameAt {family : Family} (named : family ≠ .plpgsql) {parameters : List Column} {c : Column × Nat}
    (bound : ∃ p, parameters[c.2 - 1]? = some p ∧ p.name = c.1.name) :
    reference family c.1.name c.2 = String.ofList (nameAt family parameters c.2) := by
  obtain ⟨p, here, same⟩ := bound
  rw [nameAt, here, Option.map_some, Option.getD_some, String.ofList_toList, ← same]
  exact reference_of_named named p c.2

theorem bindFrom_named {family : Family} (named : family ≠ .plpgsql) {parameters columns : List Column}
    (bound : BoundByName parameters (columns.zipIdx 1)) :
    bindFrom (reference family) 1 columns = (columns.zipIdx 1).map (nameBinding (nameAt family parameters)) := by
  rw [bindFrom_eq]
  refine List.map_congr_left fun c member => ?_
  rw [nameBinding, reference_eq_nameAt named (bound c member).2]

theorem bindFrom_positional (columns : List Column) :
    bindFrom (reference .plpgsql) 1 columns = (columns.zipIdx 1).map placeBinding := bindFrom_eq _ 1 columns

/-- Columns at the front of the parameters are bound by name at their places. -/
theorem boundByName_zipIdx (columns more : List Column) : BoundByName (columns ++ more) (columns.zipIdx 1) := by
  intro c member
  obtain ⟨first, here⟩ := getElem?_of_mem_zipIdx member
  obtain ⟨inside, -⟩ := List.getElem?_eq_some_iff.mp here
  exact ⟨first, c.1, by rw [List.getElem?_append_left inside, here], rfl⟩

theorem boundByName_self (columns : List Column) : BoundByName columns (columns.zipIdx 1) := by
  simpa using boundByName_zipIdx columns []

/-- Keys with the places at which an update looks them up. -/
def located (columns keys : List Column) : List (Column × Nat) :=
  keys.map fun key => (key, place (updateParameters columns keys) key.name)

/-- An update binds its columns at their places, and its keys where they are looked up. -/
theorem boundByName_update (columns keys : List Column) :
    BoundByName (updateParameters columns keys) (columns.zipIdx 1 ++ located columns keys) := by
  intro c member
  rcases List.mem_append.mp member with assigned | found
  · exact boundByName_zipIdx columns _ c assigned
  · obtain ⟨key, inside, rfl⟩ := List.mem_map.mp found
    obtain ⟨p, here, same, -⟩ := getElem?_place columns inside
    exact ⟨Nat.succ_pos _, p, here, same⟩

theorem withoutDollars_zipIdx {columns : List Column} (plain : WithoutDollars columns) (start : Nat) :
    ∀ c ∈ columns.zipIdx start, '$' ∉ c.1.name.toList := fun c member =>
  plain c.1 (List.fst_mem_of_mem_zipIdx member)

/-- What two routines of different families have in common when one refers by place and the other by name: the
    operation, the parameters, and the body but for the references, all of which are places of parameters. -/
structure MeansTheSame (family : Family) (positional named : Routine) : Prop where
  operation : positional.operation = named.operation
  parameters : positional.parameters = named.parameters
  places : ∀ place ∈ placesIn positional.bodyText.toList, 1 ≤ place ∧ place ≤ positional.parameters.length
  body : withNames (nameAt family positional.parameters) positional.bodyText.toList = named.bodyText.toList

theorem meansTheSame_of_resolves {family : Family} {positional named : Routine} {bound : List (Column × Nat)}
    (operation : positional.operation = named.operation) (parameters : positional.parameters = named.parameters)
    (bounds : BoundByName positional.parameters bound)
    (resolves : Resolves (nameAt family positional.parameters) positional.bodyText.toList named.bodyText.toList
      (bound.map (·.2))) : MeansTheSame family positional named where
  operation := operation
  parameters := parameters
  places := by
    rw [resolves.placesIn_eq]
    intro place member
    obtain ⟨c, inside, rfl⟩ := List.mem_map.mp member
    obtain ⟨first, p, here, -⟩ := bounds c inside
    obtain ⟨last, -⟩ := List.getElem?_eq_some_iff.mp here
    omega
  body := resolves.withNames_eq

section
variable {family : Family} (named : family ≠ .plpgsql) {table : String} (plain : '$' ∉ table.toList)
  {columns keys : List Column} (plainColumns : WithoutDollars columns) (plainKeys : WithoutDollars keys)
include named plain

include plainColumns in
theorem meansTheSame_insert :
    MeansTheSame family (insertRoutine .plpgsql table columns) (insertRoutine family table columns) := by
  have bounds := boundByName_self columns
  refine meansTheSame_of_resolves rfl rfl bounds ?_
  rw [Routine.bodyText, Routine.bodyText, insertRoutine, insertRoutine, bindFrom_positional,
    bindFrom_named named bounds]
  exact resolves_insert (by decide) plain (withoutDollars_zipIdx plainColumns 1)

include plainColumns plainKeys in
theorem meansTheSame_update :
    MeansTheSame family (updateRoutine .plpgsql table columns keys) (updateRoutine family table columns keys) := by
  have bounds := boundByName_update columns keys
  have assigned : BoundByName (updateParameters columns keys) (columns.zipIdx 1) := fun c member =>
    bounds c (List.mem_append_left _ member)
  have found : BoundByName (updateParameters columns keys) (located columns keys) := fun c member =>
    bounds c (List.mem_append_right _ member)
  have names : ∀ c ∈ located columns keys, '$' ∉ c.1.name.toList := by
    intro c member
    obtain ⟨key, inside, rfl⟩ := List.mem_map.mp member
    exact plainKeys key inside
  have conditions : (keys.map fun k => Binding.mk k.name
      (reference family k.name (place (updateParameters columns keys) k.name))) =
        (located columns keys).map (nameBinding (nameAt family (updateParameters columns keys))) := by
    rw [located, List.map_map]
    refine List.map_congr_left fun key inside => ?_
    rw [Function.comp_apply, nameBinding, ← reference_eq_nameAt named (found _ (List.mem_map_of_mem inside)).2]
  have positional : (keys.map fun k => Binding.mk k.name
      (reference .plpgsql k.name (place (updateParameters columns keys) k.name))) =
        (located columns keys).map placeBinding := by
    rw [located, List.map_map]
    rfl
  refine meansTheSame_of_resolves rfl rfl bounds ?_
  rw [Routine.bodyText, Routine.bodyText, updateRoutine, updateRoutine, bindFrom_positional,
    bindFrom_named named assigned, conditions, positional]
  exact resolves_update " " plain (withoutDollars_zipIdx plainColumns 1) names

include plainKeys in
theorem meansTheSame_delete :
    MeansTheSame family (deleteRoutine .plpgsql table keys) (deleteRoutine family table keys) := by
  have bounds := boundByName_self keys
  refine meansTheSame_of_resolves rfl rfl bounds ?_
  rw [Routine.bodyText, Routine.bodyText, deleteRoutine, deleteRoutine, bindFrom_positional,
    bindFrom_named named bounds]
  exact resolves_restricted (by decide) plain (withoutDollars_zipIdx plainKeys 1)

end

/-- The routines of PL/pgSQL, which refer to their parameters by place, mean what those of every other family
    mean, which refer to them by name. Every key is looked up at the first parameter of its name, every reference
    is the place of a parameter, and with the names of the parameters instead of the references the bodies are
    those of the other family, whose routines take the same parameters in the same order. -/
theorem positional_routines {table : String} (plain : '$' ∉ table.toList) {columns keys : List Column}
    (plainColumns : WithoutDollars columns) (plainKeys : WithoutDollars keys) :
    (∀ key ∈ keys, ∃ p, (updateParameters columns keys)[place (updateParameters columns keys) key.name - 1]? = some p ∧
        p.name = key.name ∧
        ∀ q ∈ (updateParameters columns keys).take (place (updateParameters columns keys) key.name - 1),
          q.name ≠ key.name) ∧
      (∀ family types c, Declares (parameterName family c) (declaration family types c)) ∧
      ∀ family, family ≠ .plpgsql →
        List.Forall₂ (MeansTheSame family) (routines .plpgsql table columns keys) (routines family table columns keys) := by
  refine ⟨fun key member => getElem?_place columns member, declares_declaration, fun family named => ?_⟩
  exact .cons (meansTheSame_insert named plain plainColumns)
    (.cons (meansTheSame_update named plain plainColumns plainKeys) (.cons (meansTheSame_delete named plain plainKeys) .nil))

/-- A table whose key is also assigned, so that the lookup by name goes back to the first place. -/
theorem positional_routines_orders :
    '$' ∉ "Orders".toList ∧ WithoutDollars [⟨"id", "INT", false, true, true⟩, ⟨"note", "TEXT", false, false, true⟩] ∧
      WithoutDollars [⟨"id", "INT", true, true, true⟩] ∧
      List.Forall₂ (MeansTheSame .mysql)
        (routines .plpgsql "Orders" [⟨"id", "INT", false, true, true⟩, ⟨"note", "TEXT", false, false, true⟩]
          [⟨"id", "INT", true, true, true⟩])
        (routines .mysql "Orders" [⟨"id", "INT", false, true, true⟩, ⟨"note", "TEXT", false, false, true⟩]
          [⟨"id", "INT", true, true, true⟩]) :=
  ⟨by decide, by decide, by decide, (positional_routines (by decide) (by decide) (by decide)).2.2 .mysql (by decide)⟩

end CrudScripts.Script
