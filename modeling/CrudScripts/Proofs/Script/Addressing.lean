import CrudScripts.Proofs.Script.RoutineRows

/-!
The rows that a script addresses. Every statement of a script that addresses rows compares the effective key of the
table, column by column (`addressesBy_generate`); so none of them addresses rows without a key, unless the name of
the dialect brings lines of its own (`AddressesBy.restricted`).
-/
namespace CrudScripts.Script
open CrudScripts.Dialect CrudScripts.Schema CrudScripts.Text

/-- What addresses rows in a script: an `UPDATE`, a `SELECT` and what its routines run, each restricted by keys.
    In front stand lines of the dialect's name, should it have more than one. -/
def AddressesBy (d : Dialect) (routines : Bool) (table : String) (assigned keys : List String) (script : String) :
    Prop :=
  ∃ update select more,
    rowStatements script = rowStatements ("-- Dialect: " ++ d.name) ++ update :: select :: more ∧
    Updates (placeholders d) table assigned keys update ∧
    Restricted (placeholders d) keys ("SELECT * FROM " ++ table) select ∧
    if routines then RoutineRows d table assigned keys more else more = []

theorem rowStatements_generate (d : Dialect) (t : Table) (features : Features) :
    rowStatements (generate d t features) =
      (coreSections d t).flatMap rowStatements ++ (extraSections d t features).flatMap rowStatements := by
  rw [← List.flatMap_append]
  exact filterMap_lines_generate (by decide) d t features

/-- A section of a script with a comment of one line at its head. -/
theorem rowStatements_headed {comment : String} (first : rowStatements comment = []) (body : String) :
    rowStatements (comment ++ "\n" ++ body) = rowStatements body := by
  rw [rowStatements_append, first, List.nil_append]

section
variable {t : Table} (oneTable : OneLine t.name) (names : ∀ c ∈ t.columns, OneLine c.name)
include oneTable names

/-- The sections that every script has address rows in the `UPDATE` and in the `SELECT`. -/
theorem rowStatements_coreSections (d : Dialect) : (coreSections d t).flatMap rowStatements =
    rowStatements ("-- Dialect: " ++ d.name) ++
      [scriptText (updateStatement d t), scriptText (selectStatement d t)] := by
  have keeps := keepsLines_placeholders d
  have oneColumns := List.forall_mem_map.mpr (oneLine_nonKeyColumns names)
  have oneKeys := List.forall_mem_map.mpr (oneLine_effectiveKey names)
  have binds := binds_bindFrom (placeholders d) 1 t.nonKeyColumns
  have blank : "".toList.all isBlank = true := rfl
  have insert : rowStatements ("-- INSERT\n" ++ scriptText (insertStatement d t)) = [] :=
    (rowStatements_insert oneTable (binds.oneLine_column oneColumns) (binds.oneLine_value keeps oneColumns)).1
  have update : rowStatements ("-- UPDATE by PK\n" ++ scriptText (updateStatement d t)) =
      [scriptText (updateStatement d t)] := by
    have alone := (updates_updateStatement d t).rowStatements_eq keeps oneTable oneColumns oneKeys blank (by decide)
    rw [String.empty_append] at alone
    rw [show "-- UPDATE by PK\n" = "-- UPDATE by PK" ++ "\n" from rfl, rowStatements_headed (by decide), alone]
  have select : rowStatements ("-- SELECT by PK\n" ++ scriptText (selectStatement d t)) =
      [scriptText (selectStatement d t)] := by
    have alone := (restricted_selectStatement d t).rowStatements_eq keeps oneKeys blank (by decide) (by decide)
      (by decide) oneTable
    rw [String.empty_append] at alone
    rw [show "-- SELECT by PK\n" = "-- SELECT by PK" ++ "\n" from rfl, rowStatements_headed (by decide), alone]
  have heading : rowStatements ("-- Dialect: " ++ d.name ++ "\n-- Table: " ++ t.name) =
      rowStatements ("-- Dialect: " ++ d.name) := by
    rw [show "\n-- Table: " = "\n" ++ "-- Table: " from rfl, ← String.append_assoc, String.append_assoc,
      rowStatements_append, rowStatements_of_aside (by decide) (.append (by decide) oneTable), List.append_nil]
  rw [coreSections, List.flatMap_cons, List.flatMap_cons, List.flatMap_cons, List.flatMap_cons, heading, insert,
    update, select]
  rfl

theorem addressesBy_generate (target : Data.Value) (features : Features) :
    AddressesBy (Dialect.ofTarget target) features.routines t.name (t.nonKeyColumns.map Column.name)
      (t.effectiveKey.map Column.name) (generate (Dialect.ofTarget target) t features) := by
  refine ⟨_, _, (extraSections (Dialect.ofTarget target) t features).flatMap rowStatements, ?_,
    updates_updateStatement _ t, restricted_selectStatement _ t, ?_⟩
  · rw [rowStatements_generate, rowStatements_coreSections oneTable names, List.append_assoc]
    rfl
  · have placeholder : rowStatements diffPlaceholder = [] := by decide +kernel
    have routines := routineRows_routineSection oneTable target (oneLine_nonKeyColumns names)
      (oneLine_effectiveKey names)
    cases features with
    | mk wanted diff =>
      cases wanted <;> cases diff <;> simp [extraSections, placeholder, routines]

end

/-- In a script for a dialect whose name is on one line, everything that addresses rows is restricted by keys. -/
theorem AddressesBy.restricted {d : Dialect} {routines : Bool} {table script : String} {assigned keys : List String}
    (addresses : AddressesBy d routines table assigned keys script) (one : OneLine d.name) :
    ∀ statement ∈ rowStatements script, ∃ write action, Restricted write keys action statement := by
  obtain ⟨update, select, more, rows, ⟨assignments, -, updates⟩, selects, rest⟩ := addresses
  have heading : rowStatements ("-- Dialect: " ++ d.name) = [] :=
    rowStatements_of_aside (by decide) (.append (by decide) one)
  intro statement member
  rw [rows, heading, List.nil_append, List.mem_cons, List.mem_cons] at member
  rcases member with rfl | rfl | later
  · exact ⟨_, _, updates⟩
  · exact ⟨_, _, selects⟩
  · cases routines with
    | false =>
      rw [if_neg Bool.false_ne_true] at rest
      rw [rest] at later
      cases later
    | true =>
      rw [if_pos rfl] at rest
      unfold RoutineRows at rest
      split at rest
      · obtain ⟨update, delete, rfl, ⟨assignments, -, updates⟩, deletes⟩ := rest
        rcases List.mem_cons.mp later with rfl | last
        · exact ⟨_, _, updates⟩
        · rw [List.mem_singleton.mp last]
          exact ⟨_, _, deletes⟩
      · rw [rest, String.append_assoc, rowStatements_of_aside (by decide)
          (.append (by decide) (one.append (by decide)))] at later
        cases later

end CrudScripts.Script
