import CrudScripts.Proofs.Script.Positional
import CrudScripts.Proofs.Script.StatementLists

/-!
The placeholders of the three statements of a table. All dialects fill one form: the same texts around the same
places, and each place belongs to a column and an index. The places of a statement are numbered from one without
gaps, an `UPDATE` going on from its assignments to its conditions, and where placeholders are numerals, these are
the numbers that its text shows (`placeholders_numbered`).
-/
namespace CrudScripts.Script
open CrudScripts.Schema CrudScripts.Text

/-! ### Forms -/

/-- A piece of a statement: a text that all dialects have, or the place of a column's placeholder at an index. -/
inductive Piece where
  | fixed (text : String)
  | place (column : String) (index : Nat)

def Piece.fill (d : Dialect) : Piece → String
  | .fixed text => text
  | .place column index => d.placeholder.render column index

/-- The text of a form with a dialect's placeholders in its places. -/
def fill (d : Dialect) (form : List Piece) : String := String.join (form.map (Piece.fill d))

def Piece.place? : Piece → Option (String × Nat)
  | .fixed _ => none
  | .place column index => some (column, index)

/-- The places of a form in order. -/
def places (form : List Piece) : List (String × Nat) := form.filterMap Piece.place?

/-- The names of columns with their indices, counted from a start. -/
def indexed (start : Nat) (columns : List Column) : List (String × Nat) :=
  (columns.zipIdx start).map fun c => (c.1.name, c.2)

/-- Cells with a text between each two. -/
def listForm (separator : String) (cells : List (List Piece)) : List Piece :=
  List.intercalate [.fixed separator] cells

theorem places_cons_fixed (text : String) (form : List Piece) : places (.fixed text :: form) = places form := rfl

theorem places_append (form more : List Piece) : places (form ++ more) = places form ++ places more :=
  List.filterMap_append

theorem places_listForm (separator : String) (cells : List (List Piece)) :
    places (listForm separator cells) = cells.flatMap places := by
  induction cells with
  | nil => rfl
  | cons cell cells ih =>
    cases cells with
    | nil => simp [listForm]
    | cons next cells =>
      rw [listForm, List.intercalate_cons_cons, ← listForm, List.append_assoc, places_append, List.singleton_append,
        places_cons_fixed, ih, ← List.flatMap_cons]

theorem indexed_append (start : Nat) (columns more : List Column) :
    indexed start (columns ++ more) = indexed start columns ++ indexed (start + columns.length) more := by
  rw [indexed, List.zipIdx_append, List.map_append]
  rfl

section
variable (d : Dialect)

theorem fill_append (form more : List Piece) : fill d (form ++ more) = fill d form ++ fill d more := by
  rw [fill, List.map_append, String.join_append, fill, fill]

theorem fill_cons (piece : Piece) (form : List Piece) : fill d (piece :: form) = piece.fill d ++ fill d form := by
  rw [fill, List.map_cons, String.join_cons, fill]

theorem fill_listForm (separator : String) (cells : List (List Piece)) :
    fill d (listForm separator cells) = join separator (cells.map (fill d)) := by
  induction cells with
  | nil => rfl
  | cons cell cells ih =>
    cases cells with
    | nil => simp [listForm, join]
    | cons next cells =>
      rw [listForm, List.intercalate_cons_cons, ← listForm, fill_append, fill_append, ih]
      rfl

/-! ### The form of each statement -/

theorem bindPlaceholders_eq (start : Nat) (columns : List Column) :
    bindPlaceholders d start columns = (indexed start columns).map fun p => ⟨p.1, d.placeholder.render p.1 p.2⟩ := by
  rw [bindPlaceholders, bindFrom_eq, indexed, List.map_map]
  rfl

def valueCells (start : Nat) (columns : List Column) : List (List Piece) :=
  (indexed start columns).map fun p => [.place p.1 p.2]

def equationCells (start : Nat) (columns : List Column) : List (List Piece) :=
  (indexed start columns).map fun p => [.fixed p.1, .fixed " = ", .place p.1 p.2]

theorem fill_valueCells (start : Nat) (columns : List Column) :
    (valueCells start columns).map (fill d) = (bindPlaceholders d start columns).map (·.value) := by
  rw [bindPlaceholders_eq, valueCells, List.map_map, List.map_map]
  rfl

theorem fill_equationCells (start : Nat) (columns : List Column) :
    (equationCells start columns).map (fill d) = (bindPlaceholders d start columns).map Binding.equation := by
  rw [bindPlaceholders_eq, equationCells, List.map_map, List.map_map]
  refine List.map_congr_left fun p _ => ?_
  apply String.toList_inj.mp
  simp [fill, Piece.fill, Binding.equation]

end

theorem flatMap_places_valueCells (start : Nat) (columns : List Column) :
    (valueCells start columns).flatMap places = indexed start columns := by
  rw [valueCells, List.flatMap_map]
  exact List.flatMap_singleton' _

theorem flatMap_places_equationCells (start : Nat) (columns : List Column) :
    (equationCells start columns).flatMap places = indexed start columns := by
  rw [equationCells, List.flatMap_map]
  exact List.flatMap_singleton' _

def insertForm (t : Table) : List Piece :=
  .fixed ("INSERT INTO " ++ t.name ++ " (" ++ join ", " (t.nonKeyColumns.map Column.name) ++ ")\nVALUES (") ::
    (listForm ", " (valueCells 1 t.nonKeyColumns) ++ [.fixed ");"])

def updateForm (t : Table) : List Piece :=
  .fixed ("UPDATE " ++ t.name ++ " SET ") :: (listForm ", " (equationCells 1 t.nonKeyColumns) ++ .fixed " WHERE " ::
    (listForm " AND " (equationCells (t.nonKeyColumns.length + 1) t.effectiveKey) ++ [.fixed ";"]))

def selectForm (t : Table) : List Piece :=
  .fixed ("SELECT * FROM " ++ t.name ++ " WHERE ") ::
    (listForm " AND " (equationCells 1 t.effectiveKey) ++ [.fixed ";"])

section
variable (t : Table)

theorem places_insertForm : places (insertForm t) = indexed 1 t.nonKeyColumns := by
  rw [insertForm, places_cons_fixed, places_append, places_listForm, flatMap_places_valueCells]
  exact List.append_nil _

theorem places_updateForm : places (updateForm t) = indexed 1 (t.nonKeyColumns ++ t.effectiveKey) := by
  rw [updateForm, places_cons_fixed, places_append, places_cons_fixed, places_append, places_listForm,
    places_listForm, flatMap_places_equationCells, flatMap_places_equationCells, indexed_append, Nat.add_comm 1]
  exact congrArg _ (List.append_nil _)

theorem places_selectForm : places (selectForm t) = indexed 1 t.effectiveKey := by
  rw [selectForm, places_cons_fixed, places_append, places_listForm, flatMap_places_equationCells]
  exact List.append_nil _

theorem statementTexts_eq_fill (d : Dialect) :
    statementTexts d t = [fill d (insertForm t), fill d (updateForm t), fill d (selectForm t)] := by
  rw [statementTexts_eq, StatementLists.texts, statementLists, insertForm, updateForm, selectForm]
  simp only [fill_cons, fill_append, fill_listForm, fill_valueCells, fill_equationCells, Piece.fill,
    bindPlaceholders, map_column_bindFrom]
  simp [fill, String.append_assoc]

end

/-! ### The numbers that texts show -/

theorem bindPlaceholders_positional {d : Dialect} (positional : d.placeholder = .dollarIndex) (start : Nat)
    (columns : List Column) : bindPlaceholders d start columns = (columns.zipIdx start).map placeBinding := by
  rw [bindPlaceholders, bindFrom_eq]
  refine List.map_congr_left fun c _ => ?_
  rw [positional]
  rfl

theorem withoutDollars_nonKeyColumns {t : Table} (plain : WithoutDollars t.columns) :
    WithoutDollars t.nonKeyColumns := fun c member => plain c (List.mem_of_mem_filter member)

theorem withoutDollars_effectiveKey {t : Table} (plain : WithoutDollars t.columns) : WithoutDollars t.effectiveKey := by
  intro key member
  obtain ⟨c, inside, same⟩ := Table.exists_name_of_mem_effectiveKey member
  rw [← same]
  exact plain c inside

section
variable {d : Dialect} (positional : d.placeholder = .dollarIndex) {t : Table} (plain : '$' ∉ t.name.toList)
  (plainColumns : WithoutDollars t.columns)
include positional plain plainColumns

theorem placesIn_insertStatement :
    placesIn (scriptText (insertStatement d t)).toList = List.range' 1 t.nonKeyColumns.length := by
  have names := withoutDollars_zipIdx (withoutDollars_nonKeyColumns plainColumns) 1
  have resolves : Resolves (fun _ => []) _ _ _ := resolves_insert (show '$' ∉ "\n".toList by decide) plain names
  rw [insertStatement, bindPlaceholders_positional positional, ← List.zipIdx_map_snd]
  exact resolves.placesIn_eq

/-- The numbers of the conditions go on from those of the assignments. -/
theorem placesIn_updateStatement : placesIn (scriptText (updateStatement d t)).toList =
    List.range' 1 (t.nonKeyColumns.length + t.effectiveKey.length) := by
  have resolves : Resolves (fun _ => []) _ _ _ := resolves_update "\n" plain
    (withoutDollars_zipIdx (withoutDollars_nonKeyColumns plainColumns) 1)
    (withoutDollars_zipIdx (withoutDollars_effectiveKey plainColumns) (t.nonKeyColumns.length + 1))
  rw [updateStatement, bindPlaceholders_positional positional, bindPlaceholders_positional positional,
    ← List.range'_append_1, ← List.zipIdx_map_snd, ← List.zipIdx_map_snd, Nat.add_comm 1, ← List.map_append]
  exact resolves.placesIn_eq

theorem placesIn_selectStatement :
    placesIn (scriptText (selectStatement d t)).toList = List.range' 1 t.effectiveKey.length := by
  have names := withoutDollars_zipIdx (withoutDollars_effectiveKey plainColumns) 1
  have resolves : Resolves (fun _ => []) _ _ _ :=
    resolves_restricted (show '$' ∉ "SELECT * FROM ".toList by decide) plain names
  rw [selectStatement, bindPlaceholders_positional positional, ← List.zipIdx_map_snd]
  exact resolves.placesIn_eq

end

/-- Where placeholders are numerals, the three statements of a table show the numbers from one without gaps: as many
    as there are columns to insert, to assign and to compare, and to compare. And in every dialect, supported or not,
    each statement is the same form, filled with the dialect's placeholders for these columns at these numbers. -/
theorem placeholders_numbered (t : Table) :
    ('$' ∉ t.name.toList → WithoutDollars t.columns →
      (statementTexts (Dialect.named "PostgreSQL") t).map (fun text => placesIn text.toList) =
        [List.range' 1 t.nonKeyColumns.length, List.range' 1 (t.nonKeyColumns.length + t.effectiveKey.length),
         List.range' 1 t.effectiveKey.length]) ∧
      ∃ insert update select : List Piece,
        places insert = indexed 1 t.nonKeyColumns ∧ places update = indexed 1 (t.nonKeyColumns ++ t.effectiveKey) ∧
        places select = indexed 1 t.effectiveKey ∧
        ∀ dialect : String, statementTexts (Dialect.named dialect) t =
          [fill (Dialect.named dialect) insert, fill (Dialect.named dialect) update,
           fill (Dialect.named dialect) select] := by
  refine ⟨fun plain plainColumns => ?_, ?_⟩
  · have positional : (Dialect.named "PostgreSQL").placeholder = .dollarIndex := by decide
    rw [statementTexts, List.map_cons, List.map_cons, List.map_cons, List.map_nil,
      placesIn_insertStatement positional plain plainColumns, placesIn_updateStatement positional plain plainColumns,
      placesIn_selectStatement positional plain plainColumns]
  · exact ⟨insertForm t, updateForm t, selectForm t, places_insertForm t, places_updateForm t, places_selectForm t,
      fun dialect => statementTexts_eq_fill t (Dialect.named dialect)⟩

/-- A table without a declared key, so that its first column is both assigned and compared. -/
theorem placeholders_numbered_of_inferred_key :
    let t : Table := ⟨"t", [⟨"a", "INT", false, false, true⟩, ⟨"b", "INT", false, false, true⟩], []⟩
    '$' ∉ t.name.toList ∧ WithoutDollars t.columns ∧
      (statementTexts (Dialect.named "PostgreSQL") t).map (fun text => placesIn text.toList) =
        [[1, 2], [1, 2, 3], [1]] :=
  ⟨by decide, by decide, (placeholders_numbered _).1 (by decide) (by decide)⟩

end CrudScripts.Script
