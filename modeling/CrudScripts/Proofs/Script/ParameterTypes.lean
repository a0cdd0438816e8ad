import CrudScripts.Proofs.Dialect.TypeClasses
import CrudScripts.Proofs.Schema.WellFormed
import CrudScripts.Proofs.Script.Parameters

/-!
The types that routines declare. A column of a reading has a type word and perhaps parameters behind it, and a routine
declares for it the word of the class that these name. The parameters matter when they name an earlier class than the
type word does, and only then (`declared_types`).
-/
namespace CrudScripts.Script
open CrudScripts.Dialect CrudScripts.Schema CrudScripts.Text

/-- A type as a statement writes it: a base, and perhaps parameters in parentheses. -/
def typeText (base : String) : Option String → String
  | none => base
  | some parameters => base ++ "(" ++ parameters ++ ")"

/-- The type of a column of a reading is a word, perhaps with parameters. -/
theorem exists_typeText_of_mem_parse {sql : String} {column : Column} (member : column ∈ (parse sql).table.columns) :
    ∃ (base : Word) (parameters : Option String), (∀ p ∈ parameters, p ≠ "" ∧ ')' ∉ p.toList) ∧
      column.type = typeText (String.ofList base.text) parameters := by
  have type := isType_of_mem_parse member
  generalize written : column.type.toList = text at type
  cases type with
  | word base =>
    refine ⟨base, none, nofun, ?_⟩
    rw [← String.toList_inj, written, typeText, String.toList_ofList]
  | parameters base inside nonempty closed =>
    refine ⟨base, some (String.ofList inside), ?_, ?_⟩
    · intro p member
      obtain rfl := Option.mem_some_iff.mp member
      exact ⟨by simpa using nonempty, by simpa using closed⟩
    · rw [← String.toList_inj, written]
      simp [typeText]

/-- A declaration depends on a type by its word only. -/
theorem declaration_eq_iff (family : Family) (types : TypeMap) (c : Column) (type : String) :
    declaration family types c = declaration family types { c with type := type } ↔ types.map c.type = types.map type := by
  have cancel (lead a b : String) : lead ++ a = lead ++ b ↔ a = b := by
    rw [← String.toList_inj, String.toList_append, String.toList_append, List.append_cancel_left_eq, String.toList_inj]
  cases family <;> exact cancel _ _ _

theorem map_typeText_eq_iff (types : TypeMap) (base : String) (parameters : Option String) :
    types.map (typeText base parameters) = types.map base ↔
      ∀ p ∈ parameters, types.rank base ≤ types.rank p ∨ types.map p = types.map base := by
  cases parameters with
  | none => simp [typeText]
  | some p =>
    rw [typeText, TypeMap.map_parameters]
    split
    · rename_i first
      simp [first]
    · rename_i later
      simp [later]

/-- The word for a type with parameters is that for its base, unless the parameters name an earlier class of the type
    map, that is, have a key word of it inside in some case; then it is the word for the parameters. So for a column of
    a statement a routine declares what it would declare for the type word alone exactly when no parameters follow that
    word, or they name no earlier class than it does, or one with the same word. -/
theorem declared_types :
    (∀ (types : TypeMap) (base p : String), types.map (typeText base (some p)) =
        if types.rank base ≤ types.rank p then types.map base else types.map p) ∧
      ∀ (sql : String) (family : Family), let t := (parse sql).table
        ∀ r ∈ routines family t.name t.nonKeyColumns t.effectiveKey, ∀ c ∈ r.parameters,
          ∃ (base : Word) (parameters : Option String), (∀ p ∈ parameters, p ≠ "" ∧ ')' ∉ p.toList) ∧
            c.type = typeText (String.ofList base.text) parameters ∧ ∀ types,
              (declaration family types c = declaration family types { c with type := String.ofList base.text } ↔
                ∀ p ∈ parameters, types.rank (String.ofList base.text) ≤ types.rank p ∨
                  types.map p = types.map (String.ofList base.text)) := by
  refine ⟨TypeMap.map_parameters, ?_⟩
  intro sql family t r member c parameter
  obtain ⟨column, inside, same⟩ := exists_asKey_of_mem_parameters member parameter
  obtain ⟨base, parameters, plain, type⟩ := exists_typeText_of_mem_parse inside
  have given : column.asKey.type = c.asKey.type := congrArg Column.type same
  have type' : c.type = typeText (String.ofList base.text) parameters := given.symm.trans type
  refine ⟨base, parameters, plain, type', fun types => ?_⟩
  rw [declaration_eq_iff, type', map_typeText_eq_iff]

/-- The values that a type lists can name a class: an enumeration of 'print' and 'web' is declared as a number. -/
theorem listed_values_name_a_class : ¬ ∀ types ∈ [sqlServerTypes, mysqlTypes, postgresTypes, oracleTypes],
    ∀ (base : Word) (p : String), ')' ∉ p.toList →
      types.map (typeText (String.ofList base.text) (some p)) = types.map (String.ofList base.text) := by
  intro same
  have word := same sqlServerTypes (by simp) ⟨"ENUM".toList, by decide, List.all_eq_true.mp rfl⟩ "'print','web'" (by decide)
  exact absurd word (by decide)

end CrudScripts.Script
