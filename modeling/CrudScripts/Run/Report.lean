import CrudScripts.Data.Fields
import CrudScripts.Data.Wording
import CrudScripts.Schema.Table

/-!
The report of a run as a value: status, message, the table with its effective key, the scripts by
target, the issues and three counts. Further fields stand at the end, and take the place of a field
of the same name.
-/
namespace CrudScripts.Run
open CrudScripts.Data CrudScripts.Schema

def columnValue (c : Column) : Value :=
  .dict [("name", .text c.name), ("type", .text c.type), ("is_primary_key", .bool c.isKey),
    ("is_identity", .bool c.isIdentity), ("is_nullable", .bool c.isNullable)]

/-- A table as a value, with the key that statements use and whether it was declared. -/
def tableValue (t : Table) : Value :=
  .dict [("name", .text t.name), ("columns", .list (t.columns.map columnValue)),
    ("primary_keys", .list (t.keyNames.map .text)),
    ("effective_primary_keys", .list (t.effectiveKey.map fun c => .text c.name)),
    ("primary_key_inferred", .bool t.keyIsInferred)]

/-- The name of a target among the members of an object. -/
def memberName : Value → String
  | .text s => s
  | .null => "null"
  | .bool b => if b then "true" else "false"
  | other => other.wording

/-- What a run reports. -/
structure Report where
  status : String
  message : String
  table : Table
  scripts : List (Value × String)
  issues : List Value
  extras : List (String × Value)

namespace Report

/-- The scripts as an object with a member for every target. -/
def scriptMembers (r : Report) : Value :=
  .dict (Fields.ofPairs (r.scripts.map fun entry => (memberName entry.1, .text entry.2)))

/-- The scripts as pairs of a target and its script. -/
def scriptPairs (r : Report) : Value :=
  .list (r.scripts.map fun entry => .list [entry.1, .text entry.2])

/-- The fields of a report, given its scripts as a value. -/
def fields (r : Report) (scripts : Value) : List (String × Value) :=
  Fields.putAll
    [("status", .text r.status), ("message", .text r.message), ("table", tableValue r.table),
     ("results", scripts), ("syntax_issues", .list r.issues),
     ("stats", .dict [("dialects_generated", .int r.scripts.length),
       ("columns_parsed", .int r.table.columns.length),
       ("syntax_issue_count", .int r.issues.length)])]
    r.extras

end Report

end CrudScripts.Run
