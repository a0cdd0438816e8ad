import CrudScripts.Data.Wording
import CrudScripts.Dialect.TypeMap

/-!
The dialects. A dialect has a placeholder style, the name its statements are checked under, and,
where routines are written for it, a family of routines with its type words. Names are matched
exactly; a name that is not registered stands for a dialect with `:name` placeholders and no
routines.
-/
namespace CrudScripts

/-- A way to write a placeholder for a column at an index. -/
inductive Dialect.Placeholder where
  | atName
  | dollarIndex
  | questionMark
  | colonName
deriving DecidableEq

/-- The placeholder for a column at an index. -/
def Dialect.Placeholder.render (style : Dialect.Placeholder) (name : String) (index : Int) :
    String :=
  match style with
  | .atName => "@" ++ name
  | .dollarIndex => "$" ++ toString index
  | .questionMark => "?"
  | .colonName => ":" ++ name

/-- A family of routines: the procedural language they are written in. -/
inductive Dialect.Family where
  | tsql
  | mysql
  | plpgsql
  | plsql
deriving DecidableEq

/-- The routines of a dialect: their family and their type words. -/
structure Dialect.Routines where
  family : Dialect.Family
  types : Dialect.TypeMap
deriving DecidableEq

/-- A target of generation. -/
structure Dialect where
  name : String
  placeholder : Dialect.Placeholder := .colonName
  routines : Option Dialect.Routines := none
  checkedAs : Option String := none
deriving DecidableEq

namespace Dialect

def registry : List Dialect :=
  [⟨"SQL Server", .atName, some ⟨.tsql, sqlServerTypes⟩, some "tsql"⟩,
   ⟨"PostgreSQL", .dollarIndex, some ⟨.plpgsql, postgresTypes⟩, some "postgres"⟩,
   ⟨"MySQL", .questionMark, some ⟨.mysql, mysqlTypes⟩, some "mysql"⟩,
   ⟨"MariaDB", .questionMark, some ⟨.mysql, mysqlTypes⟩, some "mysql"⟩,
   ⟨"SQLite", .colonName, none, some "sqlite"⟩,
   ⟨"Oracle", .colonName, some ⟨.plsql, oracleTypes⟩, some "oracle"⟩,
   ⟨"Snowflake", .questionMark, none, some "snowflake"⟩,
   ⟨"Spark SQL", .questionMark, none, some "spark"⟩]

/-- The names of the supported dialects, in order. -/
def supportedNames : List String := registry.map (·.name)

/-- Whether a name is that of a supported dialect. -/
def isSupported (name : String) : Bool := supportedNames.contains name

/-- The dialect of a name. -/
def named (name : String) : Dialect :=
  (registry.find? fun d => d.name == name).getD { name := name }

@[simp] theorem name_named (name : String) : (named name).name = name := by
  unfold named
  cases found : registry.find? fun d => d.name == name with
  | none => rfl
  | some d => exact eq_of_beq (List.find?_some (p := fun d : Dialect => d.name == name) found)

/-- The dialect of a target that may be no text at all; such a target is not registered. -/
def ofTarget : Data.Value → Dialect
  | .text name => named name
  | other => { name := other.wording }

/-- The dialect of a target that is looked up; a list or a dictionary cannot be. -/
def find (target : Data.Value) : Except Data.Failure Dialect :=
  if target.isKey then .ok (ofTarget target) else .error (.unhashable target.kind)

def isSupportedTarget : Data.Value → Bool
  | .text name => isSupported name
  | _ => false

end Dialect

end CrudScripts
