/-!
What the program reports besides its answer, and the wording of each report.
-/
namespace CrudScripts

/-- A report that does not stop the program. -/
inductive Warning where
  /-- A clause of a statement that is neither a column nor a key. -/
  | droppedClause (clause : String)
  /-- A column whose name an earlier column has, apart from case. -/
  | duplicateColumn (column table : String)
  /-- A target that is not a supported dialect. -/
  | unknownDialect (dialect : String)
  /-- Statements that the checker of a dialect refused. -/
  | failedChecks (count : Nat) (dialect table : String)
deriving DecidableEq

/-- The wording of a report; a dropped clause is shown up to its eightieth character. -/
def Warning.message : Warning → String
  | .droppedClause clause =>
    "Dropping unrecognised clause: " ++ String.ofList (clause.toList.take 80)
  | .duplicateColumn column table =>
    "Duplicate column name '" ++ column ++ "' in table " ++ table ++ "; keeping both."
  | .unknownDialect dialect =>
    "Unknown dialect '" ++ dialect ++ "'; using fallback placeholders and no procedures."
  | .failedChecks count dialect table =>
    toString count ++ " generated statement(s) failed the " ++ dialect ++ " syntax check for " ++
      table

end CrudScripts
