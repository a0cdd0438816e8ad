import CrudScripts.Proofs.Schema.Names
import CrudScripts.Proofs.Script.Numbering
import CrudScripts.Proofs.Script.RoutineRows
import CrudScripts.Proofs.Text.Counting

/-!
The quotes around the bodies of routines. Two families write a body between two marks `$$`. Names of columns, type
words and references do not have the mark inside, so a routine has two of them, and two more for each one in the name
of the table: one where the routine is named and one in its body (`body_quotes_iff`).
-/
namespace CrudScripts.Script
open CrudScripts.Dialect CrudScripts.Schema CrudScripts.Text

/-- How many quotes a text has. -/
def quotes (s : String) : Nat := occurrences "$$" s

theorem apart_quote {s : String} (plain : '$' ∉ s.toList) : Apart "$$" s := by
  have letters : "$$".toList = ['$', '$'] := by decide
  intro c member
  simp only [letters, List.mem_cons, List.not_mem_nil, or_false, or_self]
  rintro rfl
  exact plain member

/-! ### Texts without dollar signs -/

section
variable {gap : String} (plain : '$' ∉ gap.toList)
include plain

theorem quotes_of_plain : quotes gap = 0 := occurrences_of_apart (by decide) (apart_quote plain)

theorem quotes_behind (b : String) : quotes (gap ++ b) = quotes b :=
  occurrences_behind (by decide) (apart_quote plain) b

theorem quotes_before (a : String) : quotes (a ++ gap) = quotes a :=
  occurrences_before (by decide) (apart_quote plain) a

theorem quotes_around (between : gap ≠ "") (a b : String) : quotes (a ++ gap ++ b) = quotes a + quotes b :=
  occurrences_around (by decide) between (apart_quote plain) a b

theorem quotes_join (between : gap ≠ "") {α : Type} {text : α → String} {xs : List α}
    (none : ∀ x ∈ xs, quotes (text x) = 0) : quotes (join gap (xs.map text)) = 0 :=
  occurrences_join (by decide) between (apart_quote plain) (List.forall_mem_map.mpr none)

end

/-! ### Bodies -/

/-- A column without dollar signs in its name, with a value that has no quote inside. -/
structure Unquoted (b : Binding) : Prop where
  column : '$' ∉ b.column.toList
  value : quotes b.value = 0

theorem quotes_reference (family : Family) {name : String} (plain : '$' ∉ name.toList) (place : Nat) :
    quotes (reference family name place) = 0 := by
  have digits : '$' ∉ (toString place).toList := fun member => absurd (isDigit_of_mem_toString member) (by decide)
  cases family with
  | tsql => exact quotes_before plain "@"
  | plpgsql => exact quotes_before digits "$"
  | mysql | plsql => exact quotes_before plain "p_"

theorem unquoted_bindFrom (family : Family) {columns : List Column} (plain : WithoutDollars columns) (start : Nat) :
    ∀ b ∈ bindFrom (reference family) start columns, Unquoted b := by
  rw [bindFrom_eq]
  intro b member
  obtain ⟨c, inside, rfl⟩ := List.mem_map.mp member
  have name := withoutDollars_zipIdx plain start c inside
  exact ⟨name, quotes_reference family name c.2⟩

section
variable {table : String} {bindings conditions : List Binding} (all : ∀ b ∈ bindings, Unquoted b)
include all

theorem quotes_equations {separator : String} (plain : '$' ∉ separator.toList) (between : separator ≠ "") :
    quotes (join separator (bindings.map Binding.equation)) = 0 :=
  quotes_join plain between fun b inside => by
    rw [Binding.equation, quotes_around (by decide) (by decide), (all b inside).value,
      quotes_of_plain (all b inside).column]

theorem quotes_insert : quotes ((Statement.insert table bindings).render " ") = quotes table := by
  have columns : quotes (join ", " (bindings.map (·.column))) = 0 :=
    quotes_join (by decide) (by decide) fun b inside => quotes_of_plain (all b inside).column
  have values : quotes (join ", " (bindings.map (·.value))) = 0 :=
    quotes_join (by decide) (by decide) fun b inside => (all b inside).value
  unfold Statement.render
  rw [quotes_before (by decide), quotes_around (by decide) (by decide), values, quotes_before (by decide),
    quotes_before (by decide), quotes_around (by decide) (by decide), columns, quotes_behind (by decide), Nat.add_zero]

theorem quotes_update (all' : ∀ b ∈ conditions, Unquoted b) :
    quotes ((Statement.update table bindings conditions).render " ") = quotes table := by
  have assigned : quotes (assignmentText bindings) = 0 := quotes_equations all (by decide) (by decide)
  have compared : quotes (conditionText conditions) = 0 := quotes_equations all' (by decide) (by decide)
  unfold Statement.render
  rw [quotes_before (by decide), quotes_around (by decide) (by decide), compared,
    quotes_around (by decide) (by decide), assigned, quotes_behind (by decide), Nat.add_zero]

theorem quotes_delete : quotes ((Statement.delete table bindings).render " ") = quotes table := by
  have compared : quotes (conditionText bindings) = 0 := quotes_equations all (by decide) (by decide)
  unfold Statement.render
  rw [quotes_before (by decide), quotes_around (by decide) (by decide), compared, quotes_behind (by decide),
    Nat.add_zero]

end

section
variable {family : Family} {table : String} {columns keys : List Column} (plain : WithoutDollars columns)
  (plain' : WithoutDollars keys) {r : Routine} (member : r ∈ routines family table columns keys)
include plain plain' member

/-- A body has the quotes of the table's name, which it mentions once. -/
theorem quotes_bodyText : quotes r.bodyText = quotes table := by
  simp only [routines, List.mem_cons, List.not_mem_nil, or_false] at member
  rcases member with rfl | rfl | rfl
  · exact quotes_insert (unquoted_bindFrom family plain 1)
  · refine quotes_update (unquoted_bindFrom family plain 1) fun b compared => ?_
    obtain ⟨k, inside, rfl⟩ := List.mem_map.mp compared
    exact ⟨plain' k inside, quotes_reference family (plain' k inside) _⟩
  · exact quotes_delete (unquoted_bindFrom family plain' 1)

theorem withoutDollars_parameters : WithoutDollars r.parameters := by
  simp only [routines, List.mem_cons, List.not_mem_nil, or_false] at member
  rcases member with rfl | rfl | rfl
  · exact plain
  · exact List.forall_mem_append.mpr ⟨plain, fun k inside => plain' k (List.mem_of_mem_filter inside)⟩
  · exact plain'

end

/-! ### Routines -/

theorem quotes_routineName (family : Family) (table : String) (operation : Operation) :
    quotes (routineName family table operation) = quotes table := by
  have word : '$' ∉ (operationWord family operation).toList := by cases family <;> cases operation <;> decide
  have lead : '$' ∉ (if family = .tsql then "dbo." else "").toList := by cases family <;> decide
  rw [routineName, quotes_before word, quotes_before (by decide), quotes_behind lead]

/-- The families that write a body between quotes. -/
def Quoting (family : Family) : Prop := family = .mysql ∨ family = .plpgsql

section
variable {types : TypeMap} (words : ∀ source, '$' ∉ (types.map source).toList) {r : Routine}
  (plain : WithoutDollars r.parameters)
include words plain

theorem quotes_declarations (family : Family) :
    quotes (join ", " (r.parameters.map (declaration family types))) = 0 := by
  refine quotes_join (by decide) (by decide) fun c inside => ?_
  unfold declaration
  cases family with
  | tsql | mysql | plpgsql | plsql =>
    rw [quotes_before (words c.type), quotes_before (by decide), quotes_behind (by decide),
      quotes_of_plain (plain c inside)]

/-- Before its body a routine has one quote, and those of the table's name. -/
theorem quotes_opening {family : Family} (quoting : Quoting family) (table : String) :
    quotes (r.opening family types table) = 1 + quotes table := by
  have signed : quotes (routineName family table r.operation ++ "(" ++
      join ", " (r.parameters.map (declaration family types))) = quotes table := by
    rw [quotes_around (by decide) (by decide), quotes_declarations words plain, quotes_routineName, Nat.add_zero]
  unfold Routine.opening Routine.signature
  rcases quoting with rfl | rfl
  · have mark : quotes "DELIMITER $$" = 1 := by decide
    rw [quotes_before (by decide), quotes_before (by decide), quotes_around (by decide) (by decide), mark,
      quotes_behind (by decide), quotes_before (by decide), signed]
  · have mark : quotes " RETURNS void AS $$" = 1 := by decide
    rw [quotes_before (by decide), quotes_before (by decide), quotes_behind (by decide),
      quotes_around (by decide) (by decide), signed, mark, Nat.add_comm]

theorem quotes_render {family : Family} (quoting : Quoting family) (table : String) :
    quotes (r.render family types table) = 2 + (quotes table + quotes r.bodyText) := by
  have closed : quotes (closing family) = 1 := by rcases quoting with rfl | rfl <;> decide
  rw [Routine.render_eq, quotes_around (by decide) (by decide), quotes_around (by decide) (by decide),
    quotes_behind (by decide), quotes_opening words plain quoting, closed]
  omega

end

/-! ### The routines of a reading -/

theorem withoutDollars_parse (sql : String) : WithoutDollars (parse sql).table.columns := fun _ member inside =>
  absurd (isWord_of_mem_name_parse member inside) (by decide)

/-- The dialects whose routines have quotes around their bodies. -/
def quotingNames : List String := ["PostgreSQL", "MySQL", "MariaDB"]

theorem exists_routines_of_mem {name : String} (member : name ∈ quotingNames) :
    ∃ written, (Dialect.named name).routines = some written ∧ Quoting written.family ∧
      ∀ source, '$' ∉ (written.types.map source).toList := by
  have words : ∀ types ∈ [mysqlTypes, postgresTypes], ∀ word ∈ types.string :: types.rules.filterMap (·.2),
      '$' ∉ word.toList := by decide
  have mysql (source : String) := words mysqlTypes (by decide) _ (map_mem_words mysqlTypes source)
  have postgres (source : String) := words postgresTypes (by decide) _ (map_mem_words postgresTypes source)
  simp only [quotingNames, List.mem_cons, List.not_mem_nil, or_false] at member
  rcases member with rfl | rfl | rfl
  · exact ⟨⟨.plpgsql, postgresTypes⟩, by decide, .inr rfl, postgres⟩
  · exact ⟨⟨.mysql, mysqlTypes⟩, by decide, .inl rfl, mysql⟩
  · exact ⟨⟨.mysql, mysqlTypes⟩, by decide, .inl rfl, mysql⟩

/-- A routine whose body is quoted has two quotes, and two more for each that the name of the table has inside: one
    where the routine is named, and one in its body, which it ends early. So exactly the tables without a quote in
    their names have routines that end where they should. -/
theorem body_quotes_iff (sql : String) {name : String} (member : name ∈ quotingNames) :
    ∃ written, (Dialect.named name).routines = some written ∧
      let t := (parse sql).table
      ∀ r ∈ routines written.family t.name t.nonKeyColumns t.effectiveKey,
        quotes r.bodyText = quotes t.name ∧
          quotes (r.render written.family written.types t.name) = 2 + 2 * quotes t.name ∧
          (quotes (r.render written.family written.types t.name) = 2 ↔ contains "$$" t.name = false) := by
  obtain ⟨written, found, quoting, words⟩ := exists_routines_of_mem member
  refine ⟨written, found, ?_⟩
  intro t r listed
  have columns := withoutDollars_nonKeyColumns (withoutDollars_parse sql)
  have keys := withoutDollars_effectiveKey (withoutDollars_parse sql)
  have body := quotes_bodyText columns keys listed
  have whole := quotes_render words (withoutDollars_parameters columns keys listed) quoting t.name
  have twice : quotes (r.render written.family written.types t.name) = 2 + 2 * quotes t.name := by
    rw [whole, body, Nat.two_mul]
  have nowhere : quotes t.name = 0 ↔ contains "$$" t.name = false := occurrences_eq_zero_iff (by decide) t.name
  refine ⟨body, twice, ?_⟩
  rw [twice, ← nowhere]
  omega

/-- A table whose name has a quote inside: its functions have four. -/
theorem body_quotes_of_quote_in_name :
    let t := (parse "CREATE TABLE a$$b (id INT PRIMARY KEY, x INT)").table
    "PostgreSQL" ∈ quotingNames ∧ t.name = "a$$b" ∧
      ∃ written, (Dialect.named "PostgreSQL").routines = some written ∧
        ∀ r ∈ routines written.family t.name t.nonKeyColumns t.effectiveKey,
          quotes (r.render written.family written.types t.name) = 4 := by
  intro t
  have member : "PostgreSQL" ∈ quotingNames := by decide
  have name : t.name = "a$$b" := by decide +kernel
  obtain ⟨written, found, counted⟩ := body_quotes_iff "CREATE TABLE a$$b (id INT PRIMARY KEY, x INT)" member
  refine ⟨member, name, written, found, fun r listed => ?_⟩
  rw [(counted r listed).2.1, name]
  decide

end CrudScripts.Script
