import CrudScripts.Dialect.Registry
import CrudScripts.Script.Statement

/-!
Stored routines. A family writes three routines for a table, one each for `INSERT`, `UPDATE` and
`DELETE`; a routine is a list of parameters, one per column, and one statement. A body refers to its
parameters by name, except in PL/pgSQL, where it refers to them by their place in the signature.
-/
namespace CrudScripts.Script
open CrudScripts.Dialect CrudScripts.Schema CrudScripts.Text

/-- What a routine does. -/
inductive Operation where
  | insert
  | update
  | delete
deriving DecidableEq

/-- A stored routine: the columns it takes as parameters and the statement it runs. -/
structure Routine where
  operation : Operation
  parameters : List Column
  body : Statement

/-- The parameters of an update: the assigned columns, then the key columns whose names are not
    among them. -/
def updateParameters (columns keys : List Column) : List Column :=
  columns ++ keys.filter fun k => !(columns.map (·.name)).contains k.name

/-- The place of a column name among parameters, counted from one. -/
def place (parameters : List Column) (name : String) : Nat :=
  parameters.findIdx (fun c => c.name == name) + 1

/-- How a body refers to the parameter of a column at a place. -/
def reference (family : Family) (name : String) (place : Nat) : String :=
  match family with
  | .tsql => "@" ++ name
  | .plpgsql => "$" ++ toString place
  | .mysql => "p_" ++ name
  | .plsql => "p_" ++ name

def insertRoutine (family : Family) (table : String) (columns : List Column) : Routine :=
  { operation := .insert
    parameters := columns
    body := .insert table (bindFrom (reference family) 1 columns) }

def updateRoutine (family : Family) (table : String) (columns keys : List Column) : Routine :=
  let parameters := updateParameters columns keys
  { operation := .update
    parameters := parameters
    body := .update table (bindFrom (reference family) 1 columns)
      (keys.map fun k => ⟨k.name, reference family k.name (place parameters k.name)⟩) }

def deleteRoutine (family : Family) (table : String) (keys : List Column) : Routine :=
  { operation := .delete
    parameters := keys
    body := .delete table (bindFrom (reference family) 1 keys) }

def routines (family : Family) (table : String) (columns keys : List Column) : List Routine :=
  [insertRoutine family table columns, updateRoutine family table columns keys,
   deleteRoutine family table keys]

/-- The word for an operation at the end of a routine's name. -/
def operationWord (family : Family) (operation : Operation) : String :=
  match family, operation with
  | .tsql, .insert | .mysql, .insert => "Insert"
  | .tsql, .update | .mysql, .update => "Update"
  | .tsql, .delete | .mysql, .delete => "Delete"
  | .plpgsql, .insert | .plsql, .insert => "insert"
  | .plpgsql, .update | .plsql, .update => "update"
  | .plpgsql, .delete | .plsql, .delete => "delete"

/-- The name of a routine on a table. -/
def routineName (family : Family) (table : String) (operation : Operation) : String :=
  (if family = .tsql then "dbo." else "") ++ table ++ "_" ++ operationWord family operation

def declaration (family : Family) (types : TypeMap) (c : Column) : String :=
  match family with
  | .tsql => "  @" ++ c.name ++ " " ++ types.map c.type
  | .mysql => "IN p_" ++ c.name ++ " " ++ types.map c.type
  | .plpgsql => "p_" ++ c.name ++ " " ++ types.map c.type
  | .plsql => "p_" ++ c.name ++ " IN " ++ types.map c.type

/-- The text of a routine's body: its statement on one line. -/
def Routine.bodyText (r : Routine) : String := r.body.render " "

/-- The text of a routine on a table. -/
def Routine.render (family : Family) (types : TypeMap) (table : String) (r : Routine) : String :=
  let name := routineName family table r.operation
  let declarations := r.parameters.map (declaration family types)
  match family with
  | .tsql =>
    "CREATE OR ALTER PROCEDURE " ++ name ++ "\n" ++
      (if r.parameters.isEmpty then "" else join ",\n" declarations ++ "\n") ++
      "AS\nBEGIN\n  SET NOCOUNT ON;\n  " ++ r.bodyText ++ "\nEND;"
  | .mysql =>
    "DELIMITER $$\nCREATE PROCEDURE " ++ name ++ "(" ++ join ", " declarations ++
      ")\nBEGIN\n  " ++ r.bodyText ++ "\nEND$$\nDELIMITER ;"
  | .plpgsql =>
    "CREATE OR REPLACE FUNCTION " ++ name ++ "(" ++ join ", " declarations ++
      ") RETURNS void AS $$\nBEGIN\n  " ++ r.bodyText ++ "\nEND;\n$$ LANGUAGE plpgsql;"
  | .plsql =>
    "CREATE OR REPLACE PROCEDURE " ++ name ++ "(" ++ join ", " declarations ++
      ") AS\nBEGIN\n  " ++ r.bodyText ++ "\nEND;"

/-- The heading of the routines of a dialect. -/
def routineHeading (family : Family) (dialect : String) : String :=
  match family with
  | .tsql => "-- SQL Server Stored Procedures"
  | .mysql => "-- " ++ dialect ++ " Procedures"
  | .plpgsql => "-- PostgreSQL functions"
  | .plsql => "-- Oracle PL/SQL procedures"

/-- The routines section of a dialect, or a remark that it has none. -/
def routineSection (d : Dialect) (table : String) (columns keys : List Column) : String :=
  match d.routines with
  | some r =>
    join "\n\n" (routineHeading r.family d.name ::
      (routines r.family table columns keys).map (Routine.render r.family r.types table))
  | none =>
    "-- " ++ d.name ++ ": stored procedures not generated; use the parameterized DML above."

end CrudScripts.Script
