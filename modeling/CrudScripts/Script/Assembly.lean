import CrudScripts.Script.Parameterized
import CrudScripts.Script.Routine

/-!
The script of a table for one dialect: sections with a comment at their head, an empty line between
each two, and a line end at the close.
-/
namespace CrudScripts.Script
open CrudScripts.Schema CrudScripts.Text

/-- The place-holding section for a comparison with an existing table. -/
def diffPlaceholder : String :=
  "-- DDL Diff (naive placeholder):\n-- Compare desired CREATE TABLE vs information_schema to " ++
    "produce ALTER statements (Pro)."

/-- What a script holds besides the three statements. -/
structure Features where
  routines : Bool
  diff : Bool
deriving DecidableEq

/-- The sections that every script has. -/
def coreSections (d : Dialect) (t : Table) : List String :=
  ["-- Dialect: " ++ d.name ++ "\n-- Table: " ++ t.name,
   "-- INSERT\n" ++ scriptText (insertStatement d t),
   "-- UPDATE by PK\n" ++ scriptText (updateStatement d t),
   "-- SELECT by PK\n" ++ scriptText (selectStatement d t)]

/-- The sections that a script has on request. -/
def extraSections (d : Dialect) (t : Table) (features : Features) : List String :=
  (if features.routines then [routineSection d t.name t.nonKeyColumns t.effectiveKey] else []) ++
    (if features.diff then [diffPlaceholder] else [])

/-- The script of a table for a dialect. -/
def generate (d : Dialect) (t : Table) (features : Features) : String :=
  join "\n\n" (coreSections d t ++ extraSections d t features) ++ "\n"

end CrudScripts.Script
