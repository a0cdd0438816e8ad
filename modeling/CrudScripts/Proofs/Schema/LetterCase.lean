import CrudScripts.Proofs.Schema.Grammar
import CrudScripts.Proofs.Text.Capitals
import CrudScripts.Schema.Parse

/-!
The case of the letters of a statement. Every reader of a statement finds in its capitals what it finds in the
statement, in capitals: so the columns, the key names and the reports of both readings go together one by one, with the
same flags (`parse_toUpper`). Only the name that stands in for a missing one stays as it is.
-/
namespace CrudScripts

/-- A report on a statement in capitals, about the table of a name. -/
def Warning.toUpper (table : String) : Warning → Warning
  | .droppedClause clause => .droppedClause clause.toUpper
  | .duplicateColumn column _ => .duplicateColumn column.toUpper table
  | other => other

end CrudScripts

namespace CrudScripts.Schema
open CrudScripts.Text

/-! ### The outer shape -/

theorem body_capitals (sql : List Char) : body (capitals sql) = capitals (body sql) := by
  have opening := ignoresCase_bne (d := '(') (by decide)
  have closing := ignoresCase_bne (d := ')') (by decide)
  simp only [body, beforeLastClose, dropWhile_capitals opening, ← capitals_drop, ← capitals_reverse,
    dropWhile_capitals closing]

theorem ignoresCase_depthAfter (d : Int) : IgnoresCase (depthAfter d) := fun c => by
  simp only [depthAfter, toUpper_eq_iff (d := '(') (by decide), toUpper_eq_iff (d := ')') (by decide)]

theorem piecesFrom_capitals (d : Int) (s : List Char) :
    piecesFrom d (capitals s) = (piecesFrom d s).map capitals := by
  induction s generalizing d with
  | nil => rfl
  | cons c s ih =>
    simp only [capitals_cons, piecesFrom, ignoresCase_depthAfter d c, toUpper_eq_iff (d := ',') (by decide), ih]
    split
    · rfl
    · cases piecesFrom (depthAfter d c) s <;> rfl

theorem splitTopLevel_capitals (s : List Char) : splitTopLevel (capitals s) = (splitTopLevel s).map capitals := by
  have last : ((piecesFrom 0 s).map capitals).getLast? = some [] ↔ (piecesFrom 0 s).getLast? = some [] := by
    rw [List.getLast?_map]
    cases (piecesFrom 0 s).getLast? with
    | none => simp
    | some piece => simp [capitals_eq_nil_iff]
  simp only [splitTopLevel, piecesFrom_capitals, last]
  split
  · exact List.map_dropLast.symm
  · rfl

/-- A name behind the words `CREATE TABLE`. -/
def NamesTable (sql : List Char) : Prop :=
  ∃ (before create : List Char) (gap : Gap) (table : List Char) (gap' : Gap) (c : Char) (after : List Char),
    sql = before ++ (create ++ (gap.text ++ (table ++ (gap'.text ++ c :: after)))) ∧ Spells "CREATE" create ∧
      Spells "TABLE" table ∧ isNameChar c = true

theorem isSome_nameAtFront_iff (s : List Char) : (nameAtFront s).isSome = true ↔
    ∃ (create : List Char) (gap : Gap) (table : List Char) (gap' : Gap) (c : Char) (after : List Char),
      s = create ++ (gap.text ++ (table ++ (gap'.text ++ c :: after))) ∧ Spells "CREATE" create ∧
        Spells "TABLE" table ∧ isNameChar c = true := by
  simp only [nameAtFront, Option.bind_eq_bind, Option.isSome_iff_exists, Option.bind_eq_some_iff,
    @dropKeywords_eq_some_iff "CREATE" "TABLE" (by decide) (by decide)]
  constructor
  · rintro ⟨_, words, ⟨create, gap, table, rfl, spelled, spelled'⟩, rest, dropped, ⟨name, after⟩, taken, -⟩
    obtain ⟨gap', rfl, gapped, blank, -⟩ := (dropBlanks_eq_some_iff _ _).mp dropped
    obtain ⟨rfl, named, all, -⟩ := (takeRun_eq_some_iff _ _ _ _).mp taken
    obtain ⟨c, name, rfl⟩ := List.exists_cons_of_ne_nil named
    exact ⟨create, gap, table, ⟨⟨gap', blank⟩, gapped⟩, c, name ++ after, rfl, spelled, spelled',
      all c List.mem_cons_self⟩
  · rintro ⟨create, gap, table, gap', c, after, rfl, spelled, spelled', named⟩
    have solid : isBlank c = false := by
      simp only [isNameChar, Bool.and_eq_true, Bool.not_eq_true'] at named
      exact named.1
    have dropped := gap'.dropBlanks_append (s := c :: after) ((stops_cons _ _ _).mpr solid)
    cases taken : takeRun isNameChar (c :: after) with
    | none =>
      rw [takeRun_eq_none_iff, stops_cons, named] at taken
      cases taken
    | some run =>
      exact ⟨run.1, gap'.text ++ c :: after, ⟨create, gap, table, rfl, spelled, spelled'⟩, _, dropped, run, taken, rfl⟩

theorem occurs_nameAtFront_iff (sql : List Char) : occurs nameAtFront sql = true ↔ NamesTable sql := by
  simp only [occurs_iff, isSome_nameAtFront_iff, NamesTable]
  constructor
  · rintro ⟨before, _, rfl, create, gap, table, gap', c, after, rfl, spelled, spelled', named⟩
    exact ⟨before, create, gap, table, gap', c, after, rfl, spelled, spelled', named⟩
  · rintro ⟨before, create, gap, table, gap', c, after, rfl, spelled, spelled', named⟩
    exact ⟨before, _, rfl, create, gap, table, gap', c, after, rfl, spelled, spelled', named⟩

theorem NamesTable.not_allBlank {sql : List Char} (names : NamesTable sql) : allBlank sql = false := by
  obtain ⟨before, create, gap, table, gap', c, after, rfl, -, -, named⟩ := names
  simp only [isNameChar, Bool.and_eq_true, Bool.not_eq_true'] at named
  exact List.all_eq_false.mpr ⟨c, by simp, by simp [named.1]⟩

theorem ignoresCase_isNameChar : IgnoresCase isNameChar := fun c => by
  have opening : (c.toUpper != '(') = (c != '(') := ignoresCase_bne (by decide) c
  rw [isNameChar, ignoresCase_isBlank c, opening, isNameChar]

theorem readsCapitals_nameAtFront : ReadsCapitals capitals nameAtFront := by
  have run : ReadsCapitals capitals fun s => (takeRun isNameChar s).map Prod.fst := by
    intro s
    simp only [readsCapitals_takeRun ignoresCase_isNameChar s, Option.map_map]
    rfl
  have reads := ((readsCapitals_dropKeywords "CREATE" "TABLE").bind readsCapitals_dropBlanks).bind run
  -- The step as a chain of steps, each on what the one before it leaves.
  have chained (s : List Char) : nameAtFront s = ((dropKeywords "CREATE" "TABLE" s).bind dropBlanks).bind
      fun s => (takeRun isNameChar s).map Prod.fst := by
    rw [Option.bind_assoc, nameAtFront]
    refine congrArg _ (funext fun s => congrArg _ (funext fun s => ?_))
    cases takeRun isNameChar s <;> rfl
  intro s
  rw [chained, chained]
  exact reads s

/-- The name is in capitals, or the one that stands in for a missing name. -/
theorem tableName_capitals (sql : List Char) :
    NamesTable sql ∧ tableName (capitals sql) = (tableName sql).toUpper ∨
      ¬ NamesTable sql ∧ tableName sql = "Table" ∧ tableName (capitals sql) = "Table" := by
  rw [← occurs_nameAtFront_iff, occurs, tableName, tableName, readsCapitals_nameAtFront.firstMatch sql]
  cases firstMatch nameAtFront sql with
  | none => exact .inr ⟨by simp, rfl, rfl⟩
  | some name => exact .inl ⟨rfl, ofList_capitals name⟩

/-! ### Column definitions -/

def ColumnParts.capitals (parts : ColumnParts) : ColumnParts where
  name := Text.capitals parts.name
  base := Text.capitals parts.base
  parameters := Text.capitals parts.parameters
  modifiers := Text.capitals parts.modifiers

/-- A column in capitals: its name and its type are, and its flags stay. -/
def Column.toUpper (c : Column) : Column := { c with name := c.name.toUpper, type := c.type.toUpper }

theorem ignoresCase_isNameMark : IgnoresCase isNameMark := ignoresCase_of_letters (by decide)

theorem readsCapitals_takeColumnName : ReadsCapitals (Prod.map capitals capitals) takeColumnName := by
  intro s
  cases s with
  | nil => rfl
  | cons c s =>
    simp only [capitals_cons, takeColumnName, ignoresCase_isNameMark c]
    by_cases mark : isNameMark c = true
    · have plain : c.isAlpha = false := of_isNameMark (p := fun c => c.isAlpha = false) (by decide) mark
      simp only [if_pos mark, readsCapitals_takeRun ignoresCase_isWord s]
      cases takeRun isWord s with
      | none => rfl
      | some taken =>
        obtain ⟨name, rest⟩ := taken
        cases rest with
        | nil => rfl
        | cons d rest =>
          simp only [Option.map_some, Prod.map_apply, capitals_cons, (toUpper_eq_iff plain c).mpr rfl,
            toUpper_eq_iff plain]
          split <;> rfl
    · simp only [if_neg mark]
      exact readsCapitals_takeRun ignoresCase_isWord (c :: s)

theorem takeParameters_capitals (s : List Char) :
    takeParameters (capitals s) = Prod.map capitals capitals (takeParameters s) := by
  unfold takeParameters
  rw [readsCapitals_takeGroup s]
  cases takeGroup s with
  | none => rfl
  | some group => simp [show Char.toUpper '(' = '(' from rfl, show Char.toUpper ')' = ')' from rfl]

theorem readsCapitals_columnParts : ReadsCapitals ColumnParts.capitals columnParts := by
  intro s
  simp only [columnParts, Option.bind_eq_bind, readsCapitals_takeColumnName s, Option.bind_map]
  cases takeColumnName s with
  | none => rfl
  | some named =>
    obtain ⟨name, s⟩ := named
    simp only [Option.bind_some, Function.comp_apply, Prod.map_apply, readsCapitals_dropBlanks s, Option.bind_map]
    cases dropBlanks s with
    | none => rfl
    | some s =>
      simp only [Option.bind_some, Function.comp_apply, readsCapitals_takeRun ignoresCase_isWord s, Option.bind_map]
      cases takeRun isWord s with
      | none => rfl
      | some typed =>
        obtain ⟨base, s⟩ := typed
        dsimp only [Option.bind_some, Function.comp_apply, Prod.map_apply]
        rw [takeParameters_capitals, Prod.map_snd, dropWhile_capitals ignoresCase_isBlank]
        rfl

theorem marksIdentity_capitals (modifiers : List Char) :
    marksIdentity (capitals modifiers) = marksIdentity modifiers := by
  simp only [marksIdentity, (readsCapitals_dropKeyword _).occurs]

theorem forbidsNull_capitals (modifiers : List Char) : forbidsNull (capitals modifiers) = forbidsNull modifiers :=
  (readsCapitals_dropKeywords "NOT" "NULL").occurs modifiers

theorem parseColumn_capitals (clause : List Char) :
    parseColumn (capitals clause) = (parseColumn clause).map Column.toUpper := by
  rw [parseColumn, readsCapitals_columnParts clause, Option.map_map, parseColumn, Option.map_map]
  refine congrArg (fun column => (columnParts clause).map column) (funext fun parts => ?_)
  simp only [Function.comp_apply, ColumnParts.capitals, Column.toUpper, ← capitals_append, ofList_capitals,
    marksIdentity_capitals, forbidsNull_capitals]

/-! ### Key clauses -/

theorem readsCapitals_dropPrimaryKey : ReadsCapitals capitals dropPrimaryKey := readsCapitals_dropKeywords "PRIMARY" "KEY"

theorem mentionsPrimaryKey_capitals (s : List Char) : mentionsPrimaryKey (capitals s) = mentionsPrimaryKey s :=
  readsCapitals_dropPrimaryKey.occurs s

theorem readsCapitals_dropConstraint : ReadsCapitals capitals dropConstraint := by
  have solid : IgnoresCase fun c => !isBlank c := fun c => congrArg not (ignoresCase_isBlank c)
  have named : ReadsCapitals capitals fun s => (takeRun (fun c => !isBlank c) s).bind fun taken => dropBlanks taken.2 := by
    intro s
    simp only [readsCapitals_takeRun solid s, Option.bind_map]
    cases takeRun (fun c => !isBlank c) s with
    | none => rfl
    | some taken => exact readsCapitals_dropBlanks taken.2
  have reads := ((readsCapitals_dropKeyword "CONSTRAINT".toList).bind readsCapitals_dropBlanks).bind named
  intro s
  have same := reads s
  simp only [Option.bind_assoc] at same
  exact same

theorem isKeyClause_capitals (clause : List Char) : isKeyClause (capitals clause) = isKeyClause clause := by
  have behind : (dropConstraint (capitals clause)).getD (capitals clause) =
      capitals ((dropConstraint clause).getD clause) := by
    rw [readsCapitals_dropConstraint clause]
    cases dropConstraint clause <;> rfl
  rw [isKeyClause, behind, readsCapitals_dropPrimaryKey, isKeyClause]
  cases dropPrimaryKey ((dropConstraint clause).getD clause) with
  | none => rfl
  | some rest =>
    cases rest with
    | nil => rfl
    | cons c rest => exact congrArg not (ignoresCase_continuesWord c)

theorem bareKeyName_capitals (token : List Char) : bareKeyName (capitals token) = capitals (bareKeyName token) := by
  rw [bareKeyName, trim_capitals, strip_capitals (ignoresCase_of_letters (by decide))]
  rfl

theorem keyNames_capitals (clause : List Char) : keyNames (capitals clause) = (keyNames clause).map String.toUpper := by
  unfold keyNames
  rw [readsCapitals_takeGroup.firstMatch clause]
  cases firstMatch takeGroup clause with
  | none => rfl
  | some group =>
    obtain ⟨inside, rest⟩ := group
    have bare : (cut ',' (capitals inside)).map bareKeyName = ((cut ',' inside).map bareKeyName).map capitals := by
      rw [cut_capitals (by decide), List.map_map, List.map_map]
      exact List.map_congr_left fun token _ => bareKeyName_capitals token
    have kept : (fun name => !name.isEmpty) ∘ capitals = fun name : List Char => !name.isEmpty :=
      funext fun name => congrArg not (isEmpty_capitals name)
    dsimp only [Option.map_some, Prod.map_apply]
    rw [bare, List.filter_map, kept, List.map_map, List.map_map]
    exact List.map_congr_left fun name _ => ofList_capitals name

/-! ### Clauses -/

/-- What a clause in capitals declares. -/
def Clause.toUpper : Clause → Clause
  | .keyList names => .keyList (names.map String.toUpper)
  | .column c declaresKey => .column c.toUpper declaresKey
  | .unread text => .unread (capitals text)

namespace Clause

theorem read_capitals (clause : List Char) : read (capitals clause) = (read clause).toUpper := by
  unfold read
  rw [isKeyClause_capitals, parseColumn_capitals, mentionsPrimaryKey_capitals, keyNames_capitals]
  split
  · rfl
  · cases parseColumn clause with
    | some c => rfl
    | none =>
      dsimp only [Option.map_none]
      split <;> rfl

variable (clause : Clause)

theorem column?_toUpper : clause.toUpper.column? = clause.column?.map Column.toUpper := by cases clause <;> rfl

theorem keyNames_toUpper : clause.toUpper.keyNames = clause.keyNames.map String.toUpper := by
  cases clause with
  | column c declaresKey => cases declaresKey <;> rfl
  | _ => rfl

theorem unread?_toUpper : clause.toUpper.unread? = clause.unread?.map capitals := by cases clause <;> rfl

end Clause

theorem readClauses_capitals (s : List Char) : readClauses (capitals s) = (readClauses s).map Clause.toUpper := by
  have trimmed : ((splitTopLevel s).map capitals).map trim = ((splitTopLevel s).map trim).map capitals := by
    rw [List.map_map, List.map_map]
    exact List.map_congr_left fun clause _ => trim_capitals clause
  have kept : (fun clause => !clause.isEmpty) ∘ capitals = fun clause : List Char => !clause.isEmpty :=
    funext fun clause => congrArg not (isEmpty_capitals clause)
  rw [readClauses, splitTopLevel_capitals, trimmed, List.filter_map, kept, List.map_map, readClauses, List.map_map]
  exact List.map_congr_left fun clause _ => Clause.read_capitals clause

/-! ### Tables -/

theorem lower_toUpper (name : String) : lower name.toUpper = lower name := by
  rw [lower, toList_toUpper, capitals, List.flatMap_map]
  exact congrArg (fun small => String.ofList (name.toList.flatMap small)) (funext ignoresCase_lowerChar)

theorem flagKeys_toUpper (names : List String) (columns : List Column) :
    flagKeys (names.map String.toUpper) (columns.map Column.toUpper) =
      (flagKeys names columns).map Column.toUpper := by
  have lowered : (names.map String.toUpper).map lower = names.map lower := by
    rw [List.map_map]
    exact List.map_congr_left fun name _ => lower_toUpper name
  simp only [flagKeys, lowered, List.map_map]
  refine List.map_congr_left fun c _ => ?_
  simp only [Function.comp_apply, show lower c.toUpper.name = lower c.name from lower_toUpper c.name]
  split <;> rfl

theorem duplicates_toUpper (seen : List String) (columns : List Column) :
    duplicates seen (columns.map Column.toUpper) = (duplicates seen columns).map Column.toUpper := by
  induction columns generalizing seen with
  | nil => rfl
  | cons c columns ih =>
    simp only [List.map_cons, duplicates, show lower c.toUpper.name = lower c.name from lower_toUpper c.name, ih]
    split <;> rfl

/-- Clauses in capitals make a table in capitals, under whatever name. -/
theorem assemble_toUpper (name name' : String) (clauses : List Clause) :
    assemble name' (clauses.map Clause.toUpper) =
      { table := {
          name := name'
          columns := (assemble name clauses).table.columns.map Column.toUpper
          keyNames := (assemble name clauses).table.keyNames.map String.toUpper }
        warnings := (assemble name clauses).warnings.map (Warning.toUpper name') } := by
  have keys : (clauses.map Clause.toUpper).flatMap Clause.keyNames =
      (clauses.flatMap Clause.keyNames).map String.toUpper := by
    rw [List.flatMap_map, List.map_flatMap]
    exact congrArg (clauses.flatMap ·) (funext Clause.keyNames_toUpper)
  have columns : (clauses.map Clause.toUpper).filterMap Clause.column? =
      (clauses.filterMap Clause.column?).map Column.toUpper := by
    rw [List.filterMap_map, List.map_filterMap]
    exact congrArg (clauses.filterMap ·) (funext Clause.column?_toUpper)
  have unread : (clauses.map Clause.toUpper).filterMap Clause.unread? =
      (clauses.filterMap Clause.unread?).map capitals := by
    rw [List.filterMap_map, List.map_filterMap]
    exact congrArg (clauses.filterMap ·) (funext Clause.unread?_toUpper)
  simp only [assemble, keys, columns, unread, flagKeys_toUpper, duplicates_toUpper, List.map_append, List.map_map]
  refine congrArg (Parsed.mk _) (congrArg₂ _ ?_ rfl)
  exact List.map_congr_left fun text _ => congrArg Warning.droppedClause (ofList_capitals text)

/-- A statement in capitals is read as the statement is, with its columns, key names and reports in capitals, one by
    one and with the same flags. The name of the table is in capitals too, if there is one. -/
theorem parse_toUpper (sql : String) :
    (parse sql.toUpper).table.columns = (parse sql).table.columns.map Column.toUpper ∧
      (parse sql.toUpper).table.keyNames = (parse sql).table.keyNames.map String.toUpper ∧
      (parse sql.toUpper).warnings =
        (parse sql).warnings.map (Warning.toUpper (parse sql.toUpper).table.name) ∧
      (NamesTable sql.toList ∧ (parse sql.toUpper).table.name = (parse sql).table.name.toUpper ∨
        ¬ NamesTable sql.toList ∧ (parse sql).table.name = "Table" ∧ (parse sql.toUpper).table.name = "Table") := by
  cases blank : allBlank sql.toList with
  | true =>
    have unnamed : ¬ NamesTable sql.toList := fun names => by simp [names.not_allBlank] at blank
    have same : parse sql.toUpper = parse sql := by
      simp only [parse, toList_toUpper, allBlank_capitals, blank, if_pos]
    have empty : parse sql = {} := by simp only [parse, blank, if_pos]
    rw [same, empty]
    exact ⟨rfl, rfl, rfl, .inr ⟨unnamed, rfl, rfl⟩⟩
  | false =>
    have read : parse sql = assemble (tableName sql.toList) (readClauses (body sql.toList)) := by
      simp only [parse, blank, Bool.false_eq_true, if_false]
    have read' : parse sql.toUpper =
        assemble (tableName (capitals sql.toList)) ((readClauses (body sql.toList)).map Clause.toUpper) := by
      simp only [parse, toList_toUpper, allBlank_capitals, blank, Bool.false_eq_true, if_false, body_capitals,
        readClauses_capitals]
    rw [read', read, assemble_toUpper (tableName sql.toList)]
    dsimp only
    exact ⟨rfl, rfl, rfl, tableName_capitals sql.toList⟩

end CrudScripts.Schema
