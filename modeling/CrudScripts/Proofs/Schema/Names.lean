import CrudScripts.Proofs.Schema.KeyFlags
import CrudScripts.Proofs.Text.Lines

/-!
The names of a reading. The name of a table has no blank and no opening parenthesis, and the name of a column is a
word; so every name is on one line.
-/
namespace CrudScripts.Schema
open CrudScripts.Text

theorem run_defaultName : "Table" ≠ "" ∧ ∀ c ∈ "Table".toList, isNameChar c = true :=
  ⟨by decide, List.all_eq_true.mp rfl⟩

/-- The name of a table is a nonempty run, also where none is found. -/
theorem run_tableName (sql : List Char) :
    tableName sql ≠ "" ∧ ∀ c ∈ (tableName sql).toList, isNameChar c = true := by
  unfold tableName
  split
  · rename_i name found
    obtain ⟨before, after, -, here, -⟩ := (firstMatch_eq_some_iff _ _ _).mp found
    simp only [nameAtFront, Option.bind_eq_bind, Option.bind_eq_some_iff] at here
    obtain ⟨words, -, rest, -, run, taken, ended⟩ := here
    obtain ⟨-, nonempty, all, -⟩ := (takeRun_eq_some_iff _ _ _ _).mp taken
    rw [String.toList_ofList, ← Option.some.inj ended]
    exact ⟨by simpa using nonempty, all⟩
  · exact run_defaultName

theorem run_name_parse (sql : String) :
    (parse sql).table.name ≠ "" ∧ ∀ c ∈ (parse sql).table.name.toList, isNameChar c = true := by
  rw [parse]
  split
  · exact run_defaultName
  · exact run_tableName sql.toList

theorem isNameChar_of_mem_parse {sql : String} {c : Char} (member : c ∈ (parse sql).table.name.toList) :
    isNameChar c = true := (run_name_parse sql).2 c member

theorem oneLine_tableName_parse (sql : String) : OneLine (parse sql).table.name := fun member =>
  absurd (isNameChar_of_mem_parse member) (by decide)

theorem isWord_of_mem_name_parse {sql : String} {column : Column} (member : column ∈ (parse sql).table.columns)
    {c : Char} (inside : c ∈ column.name.toList) : isWord c = true := by
  obtain ⟨name, same⟩ := exists_word_of_mem_parse member
  rw [same, String.toList_ofList] at inside
  exact name.word c inside

theorem oneLine_of_mem_parse {sql : String} {column : Column} (member : column ∈ (parse sql).table.columns) :
    OneLine column.name := fun broken =>
  absurd (isWord_of_mem_name_parse member broken) (by decide)

end CrudScripts.Schema
