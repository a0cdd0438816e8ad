import CrudScripts.Proofs.Script.RoutineRows
import Mathlib.Data.List.Forall2

/-!
What a script has of the text of a statement. Of a column it has the name, the flag and, in the routines, the word
that the dialect has for its type; so two tables that agree in these have the same scripts
(`scripts_without_free_text`).
-/
namespace CrudScripts.Script
open CrudScripts.Dialect CrudScripts.Schema CrudScripts.Text

/-- Two columns with one name and one flag, whose types are read alike. -/
structure Alike (read : String → String) (c c' : Column) : Prop where
  name : c.name = c'.name
  isKey : c.isKey = c'.isKey
  type : read c.type = read c'.type

/-! ### Columns -/

theorem alike_of_map (read : String → String) {columns columns' : List Column}
    (shape : columns.map (fun c => (c.name, c.isKey)) = columns'.map fun c => (c.name, c.isKey))
    (types : columns.map (fun c => read c.type) = columns'.map fun c => read c.type) :
    List.Forall₂ (Alike read) columns columns' := by
  induction columns generalizing columns' with
  | nil =>
    rw [List.map_eq_nil_iff.mp shape.symm]
    exact .nil
  | cons c columns ih =>
    cases columns' with
    | nil => cases shape
    | cons c' columns' =>
      obtain ⟨first, rest⟩ := List.cons.inj shape
      obtain ⟨name, isKey⟩ := Prod.mk.inj first
      obtain ⟨type, types⟩ := List.cons.inj types
      exact .cons ⟨name, isKey, type⟩ (ih rest types)

theorem map_eq_map_of_forall₂ {α β γ : Type} {R : α → β → Prop} {f : α → γ} {g : β → γ}
    (sees : ∀ a b, R a b → f a = g b) {xs : List α} {ys : List β} (related : List.Forall₂ R xs ys) :
    xs.map f = ys.map g := by
  induction related with
  | nil => rfl
  | cons first _ ih => rw [List.map_cons, List.map_cons, sees _ _ first, ih]

section
variable {read : String → String} {columns columns' : List Column} (alike : List.Forall₂ (Alike read) columns columns')
include alike

theorem names_of_alike : columns.map Column.name = columns'.map Column.name :=
  map_eq_map_of_forall₂ (fun _ _ same => same.name) alike

theorem alike_filter {keep : Column → Bool} (sees : ∀ c c', Alike read c c' → keep c = keep c') :
    List.Forall₂ (Alike read) (columns.filter keep) (columns'.filter keep) :=
  List.rel_filter (fun c c' same => iff_of_eq (congrArg (· = true) (sees c c' same))) alike

theorem bindFrom_of_alike (write : String → Nat → String) (start : Nat) :
    bindFrom write start columns = bindFrom write start columns' := by
  induction alike generalizing start with
  | nil => rfl
  | cons first _ ih => rw [bindFrom, bindFrom, first.name, ih]

theorem place_of_alike (name : String) : place columns name = place columns' name := by
  induction alike with
  | nil => rfl
  | cons first _ ih =>
    unfold place at ih ⊢
    rw [List.findIdx_cons, List.findIdx_cons, first.name, Nat.add_right_cancel ih]

variable {keys keys' : List Column} (alikeKeys : List.Forall₂ (Alike read) keys keys')
include alikeKeys

theorem alike_updateParameters :
    List.Forall₂ (Alike read) (updateParameters columns keys) (updateParameters columns' keys') := by
  unfold updateParameters
  rw [names_of_alike alike]
  exact List.rel_append alike (alike_filter alikeKeys fun _ _ same => by rw [same.name])

end

/-! ### Tables -/

/-- Two tables with one name and columns that are alike. -/
structure SameShape (read : String → String) (t t' : Table) : Prop where
  name : t.name = t'.name
  columns : List.Forall₂ (Alike read) t.columns t'.columns

section
variable {read : String → String} {t t' : Table} (same : SameShape read t t')
include same

theorem SameShape.nonKeyColumns : List.Forall₂ (Alike read) t.nonKeyColumns t'.nonKeyColumns :=
  alike_filter same.columns fun _ _ same => by rw [same.isKey]

theorem SameShape.effectiveKey : List.Forall₂ (Alike read) t.effectiveKey t'.effectiveKey := by
  have keys : List.Forall₂ (Alike read) t.keyColumns t'.keyColumns :=
    alike_filter same.columns fun _ _ same => same.isKey
  have columns := same.columns
  unfold Table.effectiveKey
  generalize t.keyColumns = declared, t'.keyColumns = declared' at keys
  generalize t.columns = all, t'.columns = all' at columns
  cases keys with
  | nil =>
    cases columns with
    | nil => exact .nil
    | cons first rest => exact .cons ⟨first.name, rfl, first.type⟩ .nil
  | cons first rest => exact .cons first rest

theorem SameShape.coreSections (d : Dialect) : coreSections d t = coreSections d t' := by
  have insert : insertStatement d t = insertStatement d t' :=
    congrArg₂ Statement.insert same.name (bindFrom_of_alike same.nonKeyColumns _ 1)
  have select : selectStatement d t = selectStatement d t' :=
    congrArg₂ Statement.select same.name (bindFrom_of_alike same.effectiveKey _ 1)
  have update : updateStatement d t = updateStatement d t' := by
    unfold updateStatement bindPlaceholders
    rw [same.name, same.nonKeyColumns.length_eq, bindFrom_of_alike same.nonKeyColumns,
      bindFrom_of_alike same.effectiveKey]
  rw [Script.coreSections, Script.coreSections, same.name, insert, update, select]

end

/-! ### Routines -/

/-- Two routines that do the same with parameters that are alike. -/
structure AlikeRoutines (read : String → String) (r r' : Routine) : Prop where
  operation : r.operation = r'.operation
  parameters : List.Forall₂ (Alike read) r.parameters r'.parameters
  body : r.body = r'.body

theorem AlikeRoutines.render {types : TypeMap} {r r' : Routine} (alike : AlikeRoutines types.map r r')
    (family : Family) (table : String) : r.render family types table = r'.render family types table := by
  have declarations : r.parameters.map (declaration family types) = r'.parameters.map (declaration family types) :=
    map_eq_map_of_forall₂ (fun c c' same => by cases family <;> simp only [declaration, same.name, same.type])
      alike.parameters
  have none : r.parameters.isEmpty = r'.parameters.isEmpty := by
    rw [← List.isEmpty_map (f := declaration family types), declarations, List.isEmpty_map]
  have opening : r.opening family types table = r'.opening family types table := by
    unfold Routine.opening Routine.signature
    cases family <;> rw [declarations, none, alike.operation]
  rw [Routine.render_eq, Routine.render_eq, opening, Routine.bodyText, Routine.bodyText, alike.body]

theorem alike_routines {read : String → String} {columns columns' keys keys' : List Column}
    (alike : List.Forall₂ (Alike read) columns columns') (alikeKeys : List.Forall₂ (Alike read) keys keys')
    (family : Family) (table : String) :
    List.Forall₂ (AlikeRoutines read) (routines family table columns keys) (routines family table columns' keys') := by
  have bodies := bindFrom_of_alike alike (reference family) 1
  have parameters := alike_updateParameters alike alikeKeys
  have conditions :
      keys.map (fun k => Binding.mk k.name (reference family k.name (place (updateParameters columns keys) k.name))) =
        keys'.map fun k => ⟨k.name, reference family k.name (place (updateParameters columns' keys') k.name)⟩ := by
    simp only [place_of_alike parameters]
    exact map_eq_map_of_forall₂ (fun _ _ same => by rw [same.name]) alikeKeys
  have insert : (insertRoutine family table columns).body = (insertRoutine family table columns').body :=
    congrArg (Statement.insert table) bodies
  have update : (updateRoutine family table columns keys).body = (updateRoutine family table columns' keys').body :=
    congrArg₂ (Statement.update table) bodies conditions
  have delete : (deleteRoutine family table keys).body = (deleteRoutine family table keys').body :=
    congrArg (Statement.delete table) (bindFrom_of_alike alikeKeys (reference family) 1)
  exact .cons ⟨rfl, alike, insert⟩ (.cons ⟨rfl, parameters, update⟩ (.cons ⟨rfl, alikeKeys, delete⟩ .nil))

/-- The routines of two tables are the same when the words that the dialect has for the types are. -/
theorem routineSection_of_sameShape {d : Dialect} {t t' : Table} (name : t.name = t'.name)
    (same : ∀ written, d.routines = some written → SameShape written.types.map t t') :
    routineSection d t.name t.nonKeyColumns t.effectiveKey =
      routineSection d t'.name t'.nonKeyColumns t'.effectiveKey := by
  unfold routineSection
  cases known : d.routines with
  | none => rfl
  | some written =>
    have shape := same written known
    have texts : (routines written.family t.name t.nonKeyColumns t.effectiveKey).map
        (Routine.render written.family written.types t.name) =
      (routines written.family t'.name t'.nonKeyColumns t'.effectiveKey).map
        (Routine.render written.family written.types t'.name) := by
      rw [name]
      exact map_eq_map_of_forall₂ (fun _ _ alike => alike.render written.family t'.name)
        (alike_routines shape.nonKeyColumns shape.effectiveKey written.family t'.name)
    change join "\n\n" (routineHeading written.family d.name ::
        (routines written.family t.name t.nonKeyColumns t.effectiveKey).map
          (Routine.render written.family written.types t.name)) =
      join "\n\n" (routineHeading written.family d.name ::
        (routines written.family t'.name t'.nonKeyColumns t'.effectiveKey).map
          (Routine.render written.family written.types t'.name))
    rw [texts]

/-! ### Scripts -/

/-- Two statements whose tables have one name and the same names and flags of columns in order have the same scripts
    without routines, for every dialect; and also those with routines, when the dialect writes none or has the same
    words for the types of the columns. Such a word is one of the few that the dialect has, whatever the type. -/
theorem scripts_without_free_text (sql sql' : String) (d : Dialect)
    (name : (parse sql).table.name = (parse sql').table.name)
    (shape : (parse sql).table.columns.map (fun c => (c.name, c.isKey)) =
      (parse sql').table.columns.map fun c => (c.name, c.isKey)) :
    let t := (parse sql).table
    let t' := (parse sql').table
    (∀ diff, generate d t ⟨false, diff⟩ = generate d t' ⟨false, diff⟩) ∧
      ((∀ written, d.routines = some written →
          t.columns.map (fun c => written.types.map c.type) = t'.columns.map fun c => written.types.map c.type) →
        ∀ features, generate d t features = generate d t' features) ∧
      ∀ written, d.routines = some written → ∀ type,
        written.types.map type ∈ written.types.string :: written.types.rules.filterMap (·.2) := by
  intro t t'
  have core : coreSections d t = coreSections d t' := by
    -- Nothing of a type is read outside routines.
    have unread : t.columns.map (fun _ => "") = t'.columns.map fun _ => "" := by
      have lengths := congrArg List.length shape
      rw [List.length_map, List.length_map] at lengths
      rw [List.map_const', List.map_const', lengths]
    exact SameShape.coreSections ⟨name, alike_of_map (fun _ => "") shape unread⟩ d
  refine ⟨fun diff => ?_, fun types features => ?_, fun written _ => map_mem_words written.types⟩
  · have plain (t : Table) : extraSections d t ⟨false, diff⟩ = if diff then [diffPlaceholder] else [] := rfl
    rw [generate, generate, core, plain, plain]
  · have routines := routineSection_of_sameShape name fun written known =>
      ⟨name, alike_of_map _ shape (types written known)⟩
    rw [generate, generate, core, extraSections, extraSections, routines]

/-- Two statements that differ in types, defaults, flags and dropped clauses, and in how the key is given. -/
theorem scripts_of_alike_statements :
    let sql := "CREATE TABLE t (id INT IDENTITY(1,1) PRIMARY KEY, a VARCHAR(20) DEFAULT 'x' NOT NULL)"
    let sql' := "CREATE TABLE t (id BIGINT, a TEXT, UNIQUE (a), PRIMARY KEY (ID))"
    (parse sql).table ≠ (parse sql').table ∧ generate (Dialect.named "SQL Server") (parse sql).table ⟨true, true⟩ =
      generate (Dialect.named "SQL Server") (parse sql').table ⟨true, true⟩ := by
  intro sql sql'
  have first : (parse sql).table = ⟨"t", [⟨"id", "INT", true, true, true⟩, ⟨"a", "VARCHAR(20)", false, false, false⟩],
    ["id"]⟩ := by decide +kernel
  have second : (parse sql').table = ⟨"t", [⟨"id", "BIGINT", true, false, true⟩, ⟨"a", "TEXT", false, false, true⟩],
    ["ID"]⟩ := by decide +kernel
  have words : ∀ written, (Dialect.named "SQL Server").routines = some written →
      (parse sql).table.columns.map (fun c => written.types.map c.type) =
        (parse sql').table.columns.map fun c => written.types.map c.type := by
    intro written known
    obtain rfl : written = ⟨.tsql, sqlServerTypes⟩ := (Option.some.inj known).symm
    rw [first, second]
    decide
  have scripts := scripts_without_free_text sql sql' (Dialect.named "SQL Server") (by rw [first, second])
    (by rw [first, second]; decide)
  exact ⟨by rw [first, second]; decide, scripts.2.1 words ⟨true, true⟩⟩

end CrudScripts.Script
