import CrudScripts.Script.Routine

/-!
The text of a routine around its body: the lines that declare it and open the body, and the lines that close it.
-/
namespace CrudScripts.Script
open CrudScripts.Dialect CrudScripts.Schema CrudScripts.Text

/-- The signature of a routine in parentheses. -/
def Routine.signature (family : Family) (types : TypeMap) (table : String) (r : Routine) : String :=
  routineName family table r.operation ++ "(" ++ join ", " (r.parameters.map (declaration family types)) ++ ")"

/-- The lines of a routine before its body. -/
def Routine.opening (family : Family) (types : TypeMap) (table : String) (r : Routine) : String :=
  match family with
  | .tsql =>
    "CREATE OR ALTER PROCEDURE " ++ routineName .tsql table r.operation ++ "\n" ++
      ((if r.parameters.isEmpty then "" else join ",\n" (r.parameters.map (declaration .tsql types)) ++ "\n") ++
        "AS\nBEGIN\n  SET NOCOUNT ON;")
  | .mysql => "DELIMITER $$" ++ "\n" ++ ("CREATE PROCEDURE " ++ r.signature .mysql types table) ++ "\n" ++ "BEGIN"
  | .plpgsql =>
    "CREATE OR REPLACE FUNCTION " ++ (r.signature .plpgsql types table ++ " RETURNS void AS $$") ++ "\n" ++ "BEGIN"
  | .plsql => "CREATE OR REPLACE PROCEDURE " ++ (r.signature .plsql types table ++ " AS") ++ "\n" ++ "BEGIN"

/-- The lines of a routine after its body. -/
def closing : Family → String
  | .tsql | .plsql => "END;"
  | .mysql => "END$$\nDELIMITER ;"
  | .plpgsql => "END;\n$$ LANGUAGE plpgsql;"

/-- The body of a routine stands on a line of its own. -/
theorem Routine.render_eq (family : Family) (types : TypeMap) (table : String) (r : Routine) :
    r.render family types table =
      r.opening family types table ++ "\n" ++ ("  " ++ r.bodyText) ++ "\n" ++ closing family := by
  cases family with
  | tsql =>
    change "CREATE OR ALTER PROCEDURE " ++ routineName .tsql table r.operation ++ "\n" ++
      (if r.parameters.isEmpty then "" else join ",\n" (r.parameters.map (declaration .tsql types)) ++ "\n") ++
      "AS\nBEGIN\n  SET NOCOUNT ON;\n  " ++ r.bodyText ++ "\nEND;" =
      "CREATE OR ALTER PROCEDURE " ++ routineName .tsql table r.operation ++ "\n" ++
      ((if r.parameters.isEmpty then "" else join ",\n" (r.parameters.map (declaration .tsql types)) ++ "\n") ++
      "AS\nBEGIN\n  SET NOCOUNT ON;") ++ "\n" ++ ("  " ++ r.bodyText) ++ "\n" ++ "END;"
    rw [show "AS\nBEGIN\n  SET NOCOUNT ON;\n  " = "AS\nBEGIN\n  SET NOCOUNT ON;" ++ "\n" ++ "  " from rfl,
      show "\nEND;" = "\n" ++ "END;" from rfl]
    simp only [String.append_assoc]
  | mysql =>
    change "DELIMITER $$\nCREATE PROCEDURE " ++ routineName .mysql table r.operation ++ "(" ++
      join ", " (r.parameters.map (declaration .mysql types)) ++ ")\nBEGIN\n  " ++ r.bodyText ++
      "\nEND$$\nDELIMITER ;" =
      "DELIMITER $$" ++ "\n" ++ ("CREATE PROCEDURE " ++ (routineName .mysql table r.operation ++ "(" ++
      join ", " (r.parameters.map (declaration .mysql types)) ++ ")")) ++ "\n" ++ "BEGIN" ++ "\n" ++
      ("  " ++ r.bodyText) ++ "\n" ++ "END$$\nDELIMITER ;"
    rw [show "DELIMITER $$\nCREATE PROCEDURE " = "DELIMITER $$" ++ "\n" ++ "CREATE PROCEDURE " from rfl,
      show ")\nBEGIN\n  " = ")" ++ "\n" ++ "BEGIN" ++ "\n" ++ "  " from rfl,
      show "\nEND$$\nDELIMITER ;" = "\n" ++ "END$$\nDELIMITER ;" from rfl]
    simp only [String.append_assoc]
  | plpgsql =>
    change "CREATE OR REPLACE FUNCTION " ++ routineName .plpgsql table r.operation ++ "(" ++
      join ", " (r.parameters.map (declaration .plpgsql types)) ++ ") RETURNS void AS $$\nBEGIN\n  " ++ r.bodyText ++
      "\nEND;\n$$ LANGUAGE plpgsql;" =
      "CREATE OR REPLACE FUNCTION " ++ ((routineName .plpgsql table r.operation ++ "(" ++
      join ", " (r.parameters.map (declaration .plpgsql types)) ++ ")") ++ " RETURNS void AS $$") ++ "\n" ++ "BEGIN" ++
      "\n" ++ ("  " ++ r.bodyText) ++ "\n" ++ "END;\n$$ LANGUAGE plpgsql;"
    rw [show ") RETURNS void AS $$\nBEGIN\n  " = ")" ++ " RETURNS void AS $$" ++ "\n" ++ "BEGIN" ++ "\n" ++ "  " from rfl,
      show "\nEND;\n$$ LANGUAGE plpgsql;" = "\n" ++ "END;\n$$ LANGUAGE plpgsql;" from rfl]
    simp only [String.append_assoc]
  | plsql =>
    change "CREATE OR REPLACE PROCEDURE " ++ routineName .plsql table r.operation ++ "(" ++
      join ", " (r.parameters.map (declaration .plsql types)) ++ ") AS\nBEGIN\n  " ++ r.bodyText ++ "\nEND;" =
      "CREATE OR REPLACE PROCEDURE " ++ ((routineName .plsql table r.operation ++ "(" ++
      join ", " (r.parameters.map (declaration .plsql types)) ++ ")") ++ " AS") ++ "\n" ++ "BEGIN" ++
      "\n" ++ ("  " ++ r.bodyText) ++ "\n" ++ "END;"
    rw [show ") AS\nBEGIN\n  " = ")" ++ " AS" ++ "\n" ++ "BEGIN" ++ "\n" ++ "  " from rfl,
      show "\nEND;" = "\n" ++ "END;" from rfl]
    simp only [String.append_assoc]

end CrudScripts.Script
