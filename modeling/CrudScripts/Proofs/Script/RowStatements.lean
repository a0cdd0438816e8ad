import CrudScripts.Proofs.Script.KeySplit
import CrudScripts.Proofs.Text.Lines
import CrudScripts.Script.Assembly

/-!
The statements of a script that address rows. They are read off the script line by line (`rowStatements`), and one
is restricted by keys when it ends in one equation for each of them (`Restricted`). An `INSERT` addresses no row
(`rowStatements_insert`). Every statement and every line of one begins with a verb and ends with a parenthesis or a
semicolon (`framedLines_statementTexts`).
-/
namespace CrudScripts.Script
open CrudScripts.Dialect CrudScripts.Schema CrudScripts.Text

/-! ### Reading a script line by line -/

/-- How a statement that addresses rows begins. -/
def rowVerbs : List String := ["UPDATE ", "SELECT ", "DELETE "]

def addressesRows (line : List Char) : Bool := rowVerbs.any fun verb => verb.toList.isPrefixOf line

/-- The statement of a line that addresses rows, without the blanks in front of it. -/
def rowStatement? (line : List Char) : Option String :=
  if addressesRows (line.dropWhile isBlank) then some (String.ofList (line.dropWhile isBlank)) else none

/-- The statements of a script that address rows, in order. -/
def rowStatements (script : String) : List String := (lines script).filterMap rowStatement?

theorem rowStatements_append (a b : String) : rowStatements (a ++ "\n" ++ b) = rowStatements a ++ rowStatements b := by
  rw [rowStatements, lines_append, List.filterMap_append]
  rfl

theorem rowStatements_paragraphs (sections : List String) :
    rowStatements (join "\n\n" sections) = sections.flatMap rowStatements :=
  filterMap_lines_paragraphs (by decide) sections

/-- A script is read section by section, when an empty line says nothing. -/
theorem filterMap_lines_generate {α : Type} {read : List Char → Option α} (nothing : read [] = none) (d : Dialect)
    (t : Table) (features : Features) : (lines (generate d t features)).filterMap read =
      (coreSections d t ++ extraSections d t features).flatMap fun s => (lines s).filterMap read := by
  have closed : generate d t features = join "\n\n" (coreSections d t ++ extraSections d t features) ++ "\n" ++ "" := by
    rw [String.append_empty, generate]
  have rest : (lines "").filterMap read = [] := filterMap_lines_paragraphs nothing []
  rw [closed, lines_append, List.filterMap_append, filterMap_lines_paragraphs nothing, rest, List.append_nil]

/-- A text whose first letter begins no statement that addresses rows. -/
def Aside (lead : String) : Prop := ∃ c ∈ (lead.toList.dropWhile isBlank).take 1, c ∉ ['U', 'S', 'D']

instance (lead : String) : Decidable (Aside lead) := List.decidableBEx _ _

theorem rowStatements_of_aside {lead rest : String} (aside : Aside lead) (one : OneLine (lead ++ rest)) :
    rowStatements (lead ++ rest) = [] := by
  obtain ⟨c, first, none⟩ := aside
  obtain ⟨others, front⟩ : ∃ others, lead.toList.dropWhile isBlank = c :: others := by
    cases letters : lead.toList.dropWhile isBlank with
    | nil => simp [letters] at first
    | cons d others =>
      rw [letters, List.take_succ_cons, List.take_zero, List.mem_singleton] at first
      exact ⟨others, by rw [first]⟩
  have shown : (lead ++ rest).toList.dropWhile isBlank = c :: (others ++ rest.toList) := by
    rw [String.toList_append, List.dropWhile_append, front]
    rfl
  have elsewhere : addressesRows (c :: (others ++ rest.toList)) = false := by
    simp only [List.mem_cons, List.not_mem_nil, or_false, not_or] at none
    simp [addressesRows, rowVerbs, List.isPrefixOf, beq_eq_false_iff_ne.mpr (Ne.symm none.1),
      beq_eq_false_iff_ne.mpr (Ne.symm none.2.1), beq_eq_false_iff_ne.mpr (Ne.symm none.2.2)]
  rw [rowStatements, lines_of_oneLine one, List.filterMap_cons, rowStatement?, shown, elsewhere]
  rfl

theorem rowStatements_of_verb {indent lead rest : String} (blank : indent.toList.all isBlank = true)
    (known : addressesRows lead.toList = true) (one : OneLine (indent ++ (lead ++ rest))) :
    rowStatements (indent ++ (lead ++ rest)) = [lead ++ rest] := by
  obtain ⟨verb, listed, begins⟩ := List.any_eq_true.mp known
  obtain ⟨more, same⟩ := List.isPrefixOf_iff_prefix.mp begins
  -- No verb begins with a blank, so taking off blanks stops in front of it.
  have solid : ∀ v ∈ rowVerbs, Stops isBlank v.toList ∧ v.toList ≠ [] := by decide
  have letters : (lead ++ rest).toList = verb.toList ++ (more ++ rest.toList) := by
    rw [String.toList_append, ← same, List.append_assoc]
  have stops : Stops isBlank (lead ++ rest).toList := by
    rw [letters]
    exact (stops_append (solid verb listed).2 _).mpr (solid verb listed).1
  have shown : (indent ++ (lead ++ rest)).toList.dropWhile isBlank = (lead ++ rest).toList := by
    rw [String.toList_append]
    exact dropWhile_append_stops (List.all_eq_true.mp blank) stops
  have addresses : addressesRows (lead ++ rest).toList = true := by
    refine List.any_eq_true.mpr ⟨verb, listed, ?_⟩
    rw [letters]
    exact List.isPrefixOf_iff_prefix.mpr (List.prefix_append _ _)
  rw [rowStatements, lines_of_oneLine one, List.filterMap_cons, rowStatement?, shown, if_pos addresses]
  simp

/-! ### Statements that are restricted by keys -/

/-- Bindings of columns, one for each in order, whose values are what `write` gives for the column at an index. -/
structure Binds (write : String → Nat → String) (columns : List String) (bindings : List Binding) : Prop where
  columns : bindings.map (·.column) = columns
  values : ∀ b ∈ bindings, ∃ index, b.value = write b.column index

/-- A statement that acts on the rows in which each key equals the value that `write` gives for it. -/
def Restricted (write : String → Nat → String) (keys : List String) (action statement : String) : Prop :=
  ∃ conditions, Binds write keys conditions ∧
    statement = action ++ " WHERE " ++ join " AND " (conditions.map Binding.equation) ++ ";"

/-- An `UPDATE` of a table that assigns columns in the rows that the keys address. -/
def Updates (write : String → Nat → String) (table : String) (assigned keys : List String) (statement : String) :
    Prop :=
  ∃ assignments, Binds write assigned assignments ∧
    Restricted write keys ("UPDATE " ++ table ++ " SET " ++ join ", " (assignments.map Binding.equation)) statement

theorem binds_bindFrom (write : String → Nat → String) (start : Nat) (columns : List Column) :
    Binds write (columns.map Column.name) (bindFrom write start columns) where
  columns := map_column_bindFrom write start columns
  values _ := exists_value_of_mem_bindFrom

section
variable (d : Dialect) (t : Table)

/-- The placeholders of a dialect. -/
def placeholders (name : String) (index : Nat) : String := d.placeholder.render name index

theorem updates_updateStatement : Updates (placeholders d) t.name (t.nonKeyColumns.map Column.name)
    (t.effectiveKey.map Column.name) (scriptText (updateStatement d t)) :=
  ⟨_, binds_bindFrom (placeholders d) 1 t.nonKeyColumns, _,
    binds_bindFrom (placeholders d) (t.nonKeyColumns.length + 1) t.effectiveKey, rfl⟩

theorem restricted_selectStatement : Restricted (placeholders d) (t.effectiveKey.map Column.name)
    ("SELECT * FROM " ++ t.name) (scriptText (selectStatement d t)) :=
  ⟨_, binds_bindFrom (placeholders d) 1 t.effectiveKey, rfl⟩

end

theorem Restricted.begins {write : String → Nat → String} {keys : List String} {lead rest statement : String}
    (restricted : Restricted write keys (lead ++ rest) statement) : ∃ more, statement = lead ++ more := by
  obtain ⟨conditions, -, rfl⟩ := restricted
  exact ⟨rest ++ (" WHERE " ++ (join " AND " (conditions.map Binding.equation) ++ ";")), by
    simp only [String.append_assoc]⟩

theorem Restricted.ends {write : String → Nat → String} {keys : List String} {action statement : String}
    (restricted : Restricted write keys action statement) : ∃ front, statement = front ++ ";" := by
  obtain ⟨conditions, -, rfl⟩ := restricted
  exact ⟨_, rfl⟩

theorem Updates.begins {write : String → Nat → String} {table statement : String} {assigned keys : List String}
    (updates : Updates write table assigned keys statement) : ∃ more, statement = "UPDATE " ++ more := by
  obtain ⟨assignments, -, restricted⟩ := updates
  rw [String.append_assoc, String.append_assoc] at restricted
  exact restricted.begins

theorem Updates.ends {write : String → Nat → String} {table statement : String} {assigned keys : List String}
    (updates : Updates write table assigned keys statement) : ∃ front, statement = front ++ ";" := by
  obtain ⟨assignments, -, restricted⟩ := updates
  exact restricted.ends

/-! ### What is on one line -/

/-- A way to write values that keeps names on their lines. -/
def KeepsLines (write : String → Nat → String) : Prop := ∀ name index, OneLine name → OneLine (write name index)

theorem keepsLines_placeholders (d : Dialect) : KeepsLines (placeholders d) := by
  intro name index one
  unfold placeholders
  cases d.placeholder with
  | atName => exact .append (by decide) one
  | dollarIndex => exact .append (by decide) (oneLine_toString index)
  | questionMark => exact show OneLine "?" by decide
  | colonName => exact .append (by decide) one

section
variable {write : String → Nat → String} (keeps : KeepsLines write) {columns : List String} {bindings : List Binding}
  (binds : Binds write columns bindings) (one : ∀ name ∈ columns, OneLine name)
include binds one

theorem Binds.oneLine_column : ∀ b ∈ bindings, OneLine b.column := by
  intro b member
  rw [← binds.columns] at one
  exact one _ (List.mem_map_of_mem member)

include keeps

theorem Binds.oneLine_value : ∀ b ∈ bindings, OneLine b.value := by
  intro b member
  obtain ⟨index, same⟩ := binds.values b member
  rw [same]
  exact keeps _ _ (binds.oneLine_column one b member)

theorem Binds.oneLine_equations {separator : String} (plain : OneLine separator) :
    OneLine (join separator (bindings.map Binding.equation)) := by
  refine oneLine_join_map plain fun b inside => ?_
  have column := binds.oneLine_column one b inside
  have value := binds.oneLine_value keeps one b inside
  simp [Binding.equation, column, value, show OneLine " = " by decide]

end

section
variable {write : String → Nat → String} (keeps : KeepsLines write) {keys : List String}
  (one : ∀ key ∈ keys, OneLine key)
include keeps one

/-- A statement that is restricted by keys is on one line. -/
theorem Restricted.oneLine {action statement : String} (restricted : Restricted write keys action statement)
    (plain : OneLine action) : OneLine statement := by
  obtain ⟨conditions, binds, rfl⟩ := restricted
  have listed := binds.oneLine_equations keeps one (show OneLine " AND " by decide)
  exact ((plain.append (by decide)).append listed).append (by decide)

theorem Updates.oneLine {table : String} (oneTable : OneLine table) {assigned : List String}
    (oneAssigned : ∀ name ∈ assigned, OneLine name) {statement : String}
    (updates : Updates write table assigned keys statement) : OneLine statement := by
  obtain ⟨assignments, binds, restricted⟩ := updates
  have listed := binds.oneLine_equations keeps oneAssigned (show OneLine ", " by decide)
  exact restricted.oneLine keeps one (((OneLine.append (by decide) oneTable).append (by decide)).append listed)

end

section
variable {t : Table} (names : ∀ c ∈ t.columns, OneLine c.name)
include names

theorem oneLine_nonKeyColumns : ∀ c ∈ t.nonKeyColumns, OneLine c.name := fun c member =>
  names c (List.mem_of_mem_filter member)

theorem oneLine_effectiveKey : ∀ key ∈ t.effectiveKey, OneLine key.name := by
  intro key member
  obtain ⟨c, inside, same⟩ := Table.exists_name_of_mem_effectiveKey member
  exact same ▸ names c inside

end

/-- The two parts of an `INSERT`. -/
theorem render_insert (gap table : String) (bindings : List Binding) :
    (Statement.insert table bindings).render gap =
      "INSERT INTO " ++ (table ++ " (" ++ join ", " (bindings.map (·.column)) ++ ")") ++ gap ++
        ("VALUES (" ++ (join ", " (bindings.map (·.value)) ++ ");")) := by
  change "INSERT INTO " ++ table ++ " (" ++ join ", " (bindings.map (·.column)) ++ ")" ++ gap ++
    "VALUES (" ++ join ", " (bindings.map (·.value)) ++ ");" = _
  simp only [String.append_assoc]

/-- Each of the two parts of an `INSERT` is on one line. -/
theorem oneLine_insert {table : String} (oneTable : OneLine table) {bindings : List Binding}
    (columns : ∀ b ∈ bindings, OneLine b.column) (values : ∀ b ∈ bindings, OneLine b.value) :
    OneLine ("INSERT INTO " ++ (table ++ " (" ++ join ", " (bindings.map (·.column)) ++ ")")) ∧
      OneLine ("VALUES (" ++ (join ", " (bindings.map (·.value)) ++ ");")) :=
  ⟨.append (by decide) (((oneTable.append (by decide)).append (oneLine_join_map (by decide) columns)).append
    (by decide)), .append (by decide) ((oneLine_join_map (by decide) values).append (by decide))⟩

/-! ### How statements and their lines begin and end -/

/-- How a line of a statement begins. -/
def lineLeads : List String := ["INSERT INTO ", "VALUES (", "UPDATE ", "SELECT * FROM "]

/-- How a line of a statement ends. -/
def lineEnds : List String := [")", ";"]

/-- A text that begins and ends as statements and their lines do. -/
structure Framed (s : List Char) : Prop where
  begins : ∃ lead ∈ lineLeads, lead.toList <+: s
  ends : ∃ close ∈ lineEnds, close.toList <:+ s

theorem Framed.of_append {lead more front close s : String} (begins : s = lead ++ more) (known : lead ∈ lineLeads)
    (ends : s = front ++ close) (known' : close ∈ lineEnds) : Framed s.toList where
  begins := ⟨lead, known, by rw [begins, String.toList_append]; exact List.prefix_append _ _⟩
  ends := ⟨close, known', by rw [ends, String.toList_append]; exact List.suffix_append _ _⟩

theorem Framed.trimmed {s : List Char} (framed : Framed s) : Trimmed s := by
  have leads : ∀ lead ∈ lineLeads, lead.toList ≠ [] ∧ Stops isBlank lead.toList := by decide
  have closes : ∀ close ∈ lineEnds, close.toList ≠ [] ∧ Stops isBlank close.toList.reverse := by decide
  constructor
  · obtain ⟨lead, known, more, rfl⟩ := framed.begins
    exact (stops_append (leads lead known).1 more).mpr (leads lead known).2
  · obtain ⟨close, known, front, rfl⟩ := framed.ends
    exact (stops_reverse_append (closes close known).1 front).mpr (closes close known).2

theorem Framed.ne_nil {s : List Char} (framed : Framed s) : s ≠ [] := by
  rintro rfl
  obtain ⟨lead, known, begins⟩ := framed.begins
  exact absurd (List.prefix_nil.mp begins) ((show ∀ lead ∈ lineLeads, lead.toList ≠ [] by decide) lead known)

/-- What ends a framed text ends with a parenthesis or a semicolon, unless it is empty. -/
theorem Framed.suffix {s t : List Char} (framed : Framed s) (given : t ≠ []) (ends : t <:+ s) :
    ∃ close ∈ lineEnds, close.toList <:+ t := by
  obtain ⟨close, known, closes⟩ := framed.ends
  have short : close.toList.length ≤ t.length := by
    have one : ∀ close ∈ lineEnds, close.toList.length = 1 := by decide
    rw [one close known]
    exact List.length_pos_iff.mpr given
  exact ⟨close, known, List.suffix_of_suffix_length_le closes ends short⟩

/-- A text that is framed, and each line of it. -/
structure FramedLines (s : String) : Prop where
  whole : Framed s.toList
  lines : ∀ line ∈ lines s, Framed line

theorem FramedLines.of_oneLine {s : String} (one : OneLine s) (framed : Framed s.toList) : FramedLines s where
  whole := framed
  lines := by
    rw [lines_of_oneLine one]
    exact List.forall_mem_singleton.mpr framed

theorem FramedLines.append {a b : String} (first : FramedLines a) (second : FramedLines b) :
    FramedLines (a ++ "\n" ++ b) where
  whole := by
    obtain ⟨lead, known, begins⟩ := first.whole.begins
    obtain ⟨close, known', ends⟩ := second.whole.ends
    rw [String.toList_append, String.toList_append]
    exact ⟨⟨lead, known, (begins.trans (List.prefix_append _ _)).trans (List.prefix_append _ _)⟩,
      ⟨close, known', ends.trans (List.suffix_append _ _)⟩⟩
  lines := by
    rw [lines_append]
    exact List.forall_mem_append.mpr ⟨first.lines, second.lines⟩

section
variable (d : Dialect) {t : Table} (oneTable : OneLine t.name) (names : ∀ c ∈ t.columns, OneLine c.name)
include oneTable names

theorem framedLines_statementTexts : ∀ text ∈ statementTexts d t, FramedLines text := by
  have keeps := keepsLines_placeholders d
  have oneColumns := List.forall_mem_map.mpr (oneLine_nonKeyColumns names)
  have oneKeys := List.forall_mem_map.mpr (oneLine_effectiveKey names)
  have insert : FramedLines (scriptText (insertStatement d t)) := by
    have binds := binds_bindFrom (placeholders d) 1 t.nonKeyColumns
    obtain ⟨listed, written⟩ :=
      oneLine_insert oneTable (binds.oneLine_column oneColumns) (binds.oneLine_value keeps oneColumns)
    have closed (values : String) : "VALUES (" ++ (values ++ ");") = "VALUES (" ++ (values ++ ")") ++ ";" := by
      rw [String.append_assoc, String.append_assoc]
      rfl
    change FramedLines ((Statement.insert t.name (bindFrom (placeholders d) 1 t.nonKeyColumns)).render "\n")
    rw [render_insert]
    exact .append (.of_oneLine listed (.of_append rfl (by decide) String.append_assoc.symm (by decide)))
      (.of_oneLine written (.of_append rfl (by decide) (closed _) (by decide)))
  have update : FramedLines (scriptText (updateStatement d t)) := by
    have updates := updates_updateStatement d t
    obtain ⟨more, begins⟩ := updates.begins
    obtain ⟨front, ends⟩ := updates.ends
    exact .of_oneLine (updates.oneLine keeps oneKeys oneTable oneColumns)
      (.of_append begins (by decide) ends (by decide))
  have select : FramedLines (scriptText (selectStatement d t)) := by
    have restricted := restricted_selectStatement d t
    obtain ⟨more, begins⟩ := restricted.begins
    obtain ⟨front, ends⟩ := restricted.ends
    exact .of_oneLine (restricted.oneLine keeps oneKeys (.append (by decide) oneTable))
      (.of_append begins (by decide) ends (by decide))
  intro text member
  simp only [statementTexts, List.mem_cons, List.not_mem_nil, or_false] at member
  rcases member with rfl | rfl | rfl
  · exact insert
  · exact update
  · exact select

end

/-! ### The lines of a script -/

theorem Restricted.rowStatements_eq {write : String → Nat → String} (keeps : KeepsLines write) {keys : List String}
    (one : ∀ key ∈ keys, OneLine key) {indent lead rest statement : String}
    (restricted : Restricted write keys (lead ++ rest) statement) (blank : indent.toList.all isBlank = true)
    (plain : OneLine indent) (known : addressesRows lead.toList = true) (oneLead : OneLine lead)
    (oneRest : OneLine rest) : rowStatements (indent ++ statement) = [statement] := by
  have whole := plain.append (restricted.oneLine keeps one (oneLead.append oneRest))
  obtain ⟨more, rfl⟩ := restricted.begins
  exact rowStatements_of_verb blank known whole

theorem Updates.rowStatements_eq {write : String → Nat → String} (keeps : KeepsLines write) {table : String}
    (oneTable : OneLine table) {assigned keys : List String} (oneAssigned : ∀ name ∈ assigned, OneLine name)
    (one : ∀ key ∈ keys, OneLine key) {indent statement : String} (updates : Updates write table assigned keys statement)
    (blank : indent.toList.all isBlank = true) (plain : OneLine indent) :
    rowStatements (indent ++ statement) = [statement] := by
  have whole := plain.append (updates.oneLine keeps one oneTable oneAssigned)
  obtain ⟨more, rfl⟩ := updates.begins
  exact rowStatements_of_verb blank (by decide) whole

/-- An `INSERT` addresses no row, on two lines or on one. -/
theorem rowStatements_insert {table : String} (oneTable : OneLine table) {bindings : List Binding}
    (columns : ∀ b ∈ bindings, OneLine b.column) (values : ∀ b ∈ bindings, OneLine b.value) :
    rowStatements ("-- INSERT\n" ++ (Statement.insert table bindings).render "\n") = [] ∧
      rowStatements ("  " ++ (Statement.insert table bindings).render " ") = [] := by
  obtain ⟨listed, written⟩ := oneLine_insert oneTable columns values
  constructor
  · rw [render_insert, show "-- INSERT\n" = "-- INSERT" ++ "\n" from rfl, rowStatements_append, rowStatements_append,
      rowStatements_of_aside (show Aside "INSERT INTO " by decide) listed,
      rowStatements_of_aside (show Aside "VALUES (" by decide) written]
    decide
  · have regroup (a b : String) : "  " ++ ("INSERT INTO " ++ a ++ " " ++ b) = "  INSERT INTO " ++ (a ++ " " ++ b) := by
      rw [show "  INSERT INTO " = "  " ++ "INSERT INTO " from rfl]
      simp only [String.append_assoc]
    have whole := OneLine.append (show OneLine "  " by decide)
      ((listed.append (show OneLine " " by decide)).append written)
    rw [render_insert]
    rw [regroup] at whole ⊢
    exact rowStatements_of_aside (by decide) whole

end CrudScripts.Script
