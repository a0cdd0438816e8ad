import CrudScripts.Proofs.Script.RoutineText
import CrudScripts.Proofs.Script.RowStatements

/-!
The rows that stored routines address. A routine has its body on a line of its own, and no other line of it
addresses rows (`rowStatements_render`).
-/
namespace CrudScripts.Script
open CrudScripts.Dialect CrudScripts.Schema CrudScripts.Text

/-! ### Names and type words in a routine -/

theorem binds_updateRoutine (family : Family) (columns keys : List Column) :
    Binds (reference family) (keys.map Column.name)
      (keys.map fun k => ⟨k.name, reference family k.name (place (updateParameters columns keys) k.name)⟩) where
  columns := by simp
  values := by
    intro b member
    obtain ⟨k, -, rfl⟩ := List.mem_map.mp member
    exact ⟨_, rfl⟩

theorem keepsLines_reference (family : Family) : KeepsLines (reference family) := by
  intro name index one
  cases family with
  | tsql => exact .append (by decide) one
  | plpgsql => exact .append (by decide) (oneLine_toString index)
  | mysql => exact .append (by decide) one
  | plsql => exact .append (by decide) one

/-- A word of a type map. -/
theorem map_mem_words (types : TypeMap) (source : String) :
    types.map source ∈ types.string :: types.rules.filterMap (·.2) := by
  unfold TypeMap.map
  cases found : types.rules.findSome? (TypeMap.ruleMatch (lower source)) with
  | none => exact List.mem_cons_self
  | some word =>
    obtain ⟨rule, member, matched⟩ := List.exists_of_findSome?_eq_some found
    refine List.mem_cons_of_mem _ (List.mem_filterMap.mpr ⟨rule, member, ?_⟩)
    unfold TypeMap.ruleMatch at matched
    split at matched
    · exact matched
    · cases matched

theorem oneLine_map {d : Dialect} (member : d ∈ registry) {written : Routines} (routines : d.routines = some written)
    (source : String) : OneLine (written.types.map source) := by
  have words : ∀ d ∈ registry, ∀ written ∈ d.routines,
      ∀ word ∈ written.types.string :: written.types.rules.filterMap (·.2), OneLine word := by decide
  exact words d member written routines _ (map_mem_words written.types source)

/-- Only registered dialects have routines, and only under their names. -/
theorem registered_of_routines {target : Data.Value} {written : Routines}
    (routines : (Dialect.ofTarget target).routines = some written) :
    Dialect.ofTarget target ∈ registry ∧ target = .text (Dialect.ofTarget target).name := by
  cases target with
  | text name =>
    change (Dialect.named name).routines = some written at routines
    refine ⟨?_, congrArg _ (Dialect.name_named name).symm⟩
    change Dialect.named name ∈ registry
    unfold Dialect.named at routines ⊢
    cases found : registry.find? fun d => d.name == name with
    | none =>
      rw [found] at routines
      cases routines
    | some d => exact List.mem_of_find?_eq_some found
  | _ => cases routines

/-- The dialects with routines. -/
theorem routines_ne_none_iff (target : Data.Value) : (Dialect.ofTarget target).routines ≠ none ↔
    ∃ name ∈ ["SQL Server", "MySQL", "MariaDB", "PostgreSQL", "Oracle"], target = .text name := by
  have names : ∀ d ∈ registry, d.routines ≠ none →
      d.name ∈ ["SQL Server", "MySQL", "MariaDB", "PostgreSQL", "Oracle"] := by decide
  have listed : ∀ name ∈ ["SQL Server", "MySQL", "MariaDB", "PostgreSQL", "Oracle"],
      (Dialect.named name).routines ≠ none := by decide
  constructor
  · intro some
    obtain ⟨written, routines⟩ := Option.ne_none_iff_exists'.mp some
    obtain ⟨member, same⟩ := registered_of_routines routines
    exact ⟨_, names _ member some, same⟩
  · rintro ⟨name, member, rfl⟩
    exact listed name member

theorem oneLine_declaration (family : Family) {types : TypeMap} (words : ∀ source, OneLine (types.map source))
    {c : Column} (one : OneLine c.name) : OneLine (declaration family types c) := by
  have type := words c.type
  cases family with
  | tsql => simp [declaration, one, type, show OneLine "  @" by decide, show OneLine " " by decide]
  | mysql => simp [declaration, one, type, show OneLine "IN p_" by decide, show OneLine " " by decide]
  | plpgsql => simp [declaration, one, type, show OneLine "p_" by decide, show OneLine " " by decide]
  | plsql => simp [declaration, one, type, show OneLine "p_" by decide, show OneLine " IN " by decide]

/-! ### The lines of a routine -/

/-- Parameters on lines of their own begin no statement. -/
theorem rowStatements_declarations {types : TypeMap} (words : ∀ source, OneLine (types.map source))
    {columns : List Column} (names : ∀ c ∈ columns, OneLine c.name) :
    rowStatements (join ",\n" (columns.map (declaration .tsql types))) = [] := by
  induction columns with
  | nil => exact show rowStatements "" = [] by decide
  | cons c columns ih =>
    have text : declaration .tsql types c = "  @" ++ (c.name ++ " " ++ types.map c.type) := by
      simp only [declaration, String.append_assoc]
    have first := oneLine_declaration .tsql words (names c List.mem_cons_self)
    rw [text] at first
    cases columns with
    | nil =>
      rw [List.map_singleton, text]
      exact rowStatements_of_aside (by decide) first
    | cons next columns =>
      have later := ih fun other member => names other (List.mem_cons_of_mem _ member)
      have apart (rest : String) : "  @" ++ (c.name ++ " " ++ types.map c.type) ++ ",\n" ++ rest =
          "  @" ++ (c.name ++ " " ++ types.map c.type ++ ",") ++ "\n" ++ rest := by
        rw [show ",\n" = "," ++ "\n" from rfl]
        simp only [String.append_assoc]
      rw [List.map_cons, List.map_cons, join, ← List.map_cons, text, apart, rowStatements_append, later,
        rowStatements_of_aside (by decide)]
      · rfl
      · rw [← String.append_assoc]
        exact first.append (by decide)

theorem rowStatements_routineHeading {d : Dialect} (member : d ∈ registry) {written : Routines}
    (routines : d.routines = some written) : rowStatements (routineHeading written.family d.name) = [] := by
  have headings : ∀ d ∈ registry, ∀ written ∈ d.routines,
      rowStatements (routineHeading written.family d.name) = [] := by decide
  exact headings d member written routines

section
variable {table : String} (oneTable : OneLine table)
include oneTable

theorem oneLine_routineName (family : Family) (operation : Operation) :
    OneLine (routineName family table operation) := by
  cases family <;> cases operation <;>
    simp [routineName, operationWord, oneTable] <;> decide

/-- The lines before a body address no rows. -/
theorem rowStatements_opening (family : Family) {types : TypeMap} (words : ∀ source, OneLine (types.map source))
    {r : Routine} (names : ∀ c ∈ r.parameters, OneLine c.name) : rowStatements (r.opening family types table) = [] := by
  have declared : ∀ c ∈ r.parameters, OneLine (declaration family types c) := fun c member =>
    oneLine_declaration family words (names c member)
  have name := oneLine_routineName oneTable family r.operation
  have signature : OneLine (r.signature family types table) :=
    ((name.append (by decide)).append (oneLine_join_map (by decide) declared)).append (by decide)
  cases family with
  | tsql =>
    change rowStatements ("CREATE OR ALTER PROCEDURE " ++ routineName .tsql table r.operation ++ "\n" ++
      ((if r.parameters.isEmpty then "" else join ",\n" (r.parameters.map (declaration .tsql types)) ++ "\n") ++
        "AS\nBEGIN\n  SET NOCOUNT ON;")) = []
    rw [rowStatements_append, rowStatements_of_aside (by decide) (.append (by decide) name), List.nil_append]
    cases none : r.parameters.isEmpty with
    | true =>
      rw [if_pos rfl]
      decide
    | false =>
      rw [if_neg Bool.false_ne_true, rowStatements_append, rowStatements_declarations words names]
      decide
  | mysql =>
    change rowStatements ("DELIMITER $$" ++ "\n" ++ ("CREATE PROCEDURE " ++ r.signature .mysql types table) ++ "\n" ++
      "BEGIN") = []
    rw [rowStatements_append, rowStatements_append, rowStatements_of_aside (by decide) (.append (by decide) signature)]
    decide
  | plpgsql =>
    change rowStatements ("CREATE OR REPLACE FUNCTION " ++ (r.signature .plpgsql types table ++ " RETURNS void AS $$") ++
      "\n" ++ "BEGIN") = []
    rw [rowStatements_append,
      rowStatements_of_aside (by decide) (.append (by decide) (signature.append (by decide)))]
    decide
  | plsql =>
    change rowStatements ("CREATE OR REPLACE PROCEDURE " ++ (r.signature .plsql types table ++ " AS") ++ "\n" ++
      "BEGIN") = []
    rw [rowStatements_append,
      rowStatements_of_aside (by decide) (.append (by decide) (signature.append (by decide)))]
    decide

/-- The lines of a routine that address rows are those of its body. -/
theorem rowStatements_render (family : Family) {types : TypeMap} (words : ∀ source, OneLine (types.map source))
    {r : Routine} (names : ∀ c ∈ r.parameters, OneLine c.name) :
    rowStatements (r.render family types table) = rowStatements ("  " ++ r.bodyText) := by
  have closed : rowStatements (closing family) = [] := by cases family <;> decide
  rw [r.render_eq, rowStatements_append, rowStatements_append, rowStatements_opening oneTable family words names, closed]
  simp

/-! ### The routines of a dialect -/

/-- What addresses rows among the routines of a dialect: the bodies of its update and of its delete. A remark
    takes the place of routines that are not written. -/
def RoutineRows (d : Dialect) (table : String) (assigned keys rows : List String) : Prop :=
  match d.routines with
  | some written => ∃ update delete, rows = [update, delete] ∧
      Updates (reference written.family) table assigned keys update ∧
      Restricted (reference written.family) keys ("DELETE FROM " ++ table) delete
  | none => rows = rowStatements
      ("-- " ++ d.name ++ ": stored procedures not generated; use the parameterized DML above.")

omit oneTable in
theorem updates_updateRoutine (family : Family) (columns keys : List Column) :
    Updates (reference family) table (columns.map Column.name) (keys.map Column.name)
      (updateRoutine family table columns keys).bodyText :=
  ⟨_, binds_bindFrom (reference family) 1 columns, _, binds_updateRoutine family columns keys, rfl⟩

omit oneTable in
theorem restricted_deleteRoutine (family : Family) (keys : List Column) :
    Restricted (reference family) (keys.map Column.name) ("DELETE FROM " ++ table)
      (deleteRoutine family table keys).bodyText :=
  ⟨_, binds_bindFrom (reference family) 1 keys, rfl⟩

/-- The three routines of a table address rows in the bodies of two of them. -/
theorem rowStatements_routines (family : Family) {types : TypeMap} (words : ∀ source, OneLine (types.map source))
    {columns keys : List Column} (names : ∀ c ∈ columns, OneLine c.name) (keyNames : ∀ k ∈ keys, OneLine k.name) :
    ((routines family table columns keys).map (Routine.render family types table)).flatMap rowStatements =
      [(updateRoutine family table columns keys).bodyText, (deleteRoutine family table keys).bodyText] := by
  have keeps := keepsLines_reference family
  have oneColumns := List.forall_mem_map.mpr names
  have oneKeys := List.forall_mem_map.mpr keyNames
  have binds := binds_bindFrom (reference family) 1 columns
  have insert : rowStatements ((insertRoutine family table columns).render family types table) = [] := by
    rw [rowStatements_render oneTable family words names]
    exact (rowStatements_insert oneTable (binds.oneLine_column oneColumns) (binds.oneLine_value keeps oneColumns)).2
  have parameters : ∀ c ∈ updateParameters columns keys, OneLine c.name := by
    intro c member
    rcases List.mem_append.mp member with assigned | key
    · exact names c assigned
    · exact keyNames c (List.mem_of_mem_filter key)
  have update : rowStatements ((updateRoutine family table columns keys).render family types table) =
      [(updateRoutine family table columns keys).bodyText] := by
    rw [rowStatements_render oneTable family words parameters]
    exact (updates_updateRoutine family columns keys).rowStatements_eq keeps oneTable oneColumns oneKeys
      (by decide) (by decide)
  have delete : rowStatements ((deleteRoutine family table keys).render family types table) =
      [(deleteRoutine family table keys).bodyText] := by
    rw [rowStatements_render oneTable family words keyNames]
    exact (restricted_deleteRoutine family keys).rowStatements_eq keeps oneKeys (by decide) (by decide) (by decide)
      (by decide) oneTable
  rw [routines, List.map_cons, List.map_cons, List.map_cons, List.map_nil, List.flatMap_cons, List.flatMap_cons,
    List.flatMap_cons, insert, update, delete]
  rfl

theorem routineRows_routineSection (target : Data.Value) {columns keys : List Column}
    (names : ∀ c ∈ columns, OneLine c.name) (keyNames : ∀ k ∈ keys, OneLine k.name) :
    RoutineRows (Dialect.ofTarget target) table (columns.map Column.name) (keys.map Column.name)
      (rowStatements (routineSection (Dialect.ofTarget target) table columns keys)) := by
  unfold RoutineRows routineSection
  cases some : (Dialect.ofTarget target).routines with
  | none => rfl
  | some written =>
    have registered := (registered_of_routines some).1
    refine ⟨_, _, ?_, updates_updateRoutine written.family columns keys, restricted_deleteRoutine written.family keys⟩
    dsimp only
    rw [rowStatements_paragraphs, List.flatMap_cons, rowStatements_routineHeading registered some,
      rowStatements_routines oneTable written.family (oneLine_map registered some) names keyNames]
    rfl

end

end CrudScripts.Script
