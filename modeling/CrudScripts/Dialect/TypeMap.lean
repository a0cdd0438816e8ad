import CrudScripts.Text.Scan

/-!
Parameter types of routines. Each dialect with routines has one type word for every class of column
types; a column type belongs to the first class, in the order of `TypeMap.rules`, that has one of its
key words inside the type in small letters. A type of no class is a string.
-/
namespace CrudScripts.Dialect
open CrudScripts.Text

/-- The type words of a dialect. A dialect without a boolean type has no word for it. -/
structure TypeMap where
  integer : String
  string : String
  temporal : String
  fixedPoint : String
  boolean : Option String
deriving DecidableEq

namespace TypeMap

/-- The classes of column types in order: their key words and the type word of the dialect. -/
def rules (types : TypeMap) : List (List String × Option String) :=
  [(["int"], some types.integer),
   (["char", "text"], some types.string),
   (["date", "time"], some types.temporal),
   (["decimal", "numeric"], some types.fixedPoint),
   (["bool", "bit"], types.boolean)]

/-- The type word of a rule, where it has one and one of its key words occurs. -/
def ruleMatch (source : String) (rule : List String × Option String) : Option String :=
  if rule.1.any (contains · source) then rule.2 else none

/-- The parameter type for a column type. -/
def map (types : TypeMap) (source : String) : String :=
  (types.rules.findSome? (ruleMatch (lower source))).getD types.string

end TypeMap

def sqlServerTypes : TypeMap :=
  ⟨"INT", "NVARCHAR(255)", "DATETIME2", "DECIMAL(18,2)", some "BIT"⟩

def mysqlTypes : TypeMap :=
  ⟨"INT", "VARCHAR(255)", "DATETIME", "DECIMAL(18,2)", some "TINYINT(1)"⟩

def postgresTypes : TypeMap :=
  ⟨"integer", "text", "timestamp", "numeric(18,2)", some "boolean"⟩

/-- The type words of Oracle, which has no boolean column type. -/
def oracleTypes : TypeMap := ⟨"NUMBER", "VARCHAR2", "DATE", "NUMBER", none⟩

end CrudScripts.Dialect
