import CrudScripts.Text.Scan

/-!
The outer shape of a `CREATE TABLE` statement: the name after its two keywords, the body between
the first opening and the last closing parenthesis, and the clauses between the commas of the body
that stand outside every parenthesis.
-/
namespace CrudScripts.Schema
open CrudScripts.Text

/-- Whether a character can stand in the name of a table. -/
def isNameChar (c : Char) : Bool := !isBlank c && c != '('

/-- The name after `CREATE TABLE` at the front of a text. -/
def nameAtFront (s : List Char) : Option (List Char) := do
  let s ← dropKeywords "CREATE" "TABLE" s
  let (name, _) ← takeRun isNameChar (← dropBlanks s)
  return name

/-- The name of the table that a statement creates, or `Table` where no name is found. -/
def tableName (sql : List Char) : String :=
  match firstMatch nameAtFront sql with
  | some name => String.ofList name
  | none => "Table"

/-- The text before the last closing parenthesis, or nothing where there is none. -/
def beforeLastClose (s : List Char) : List Char :=
  ((s.reverse.dropWhile (· != ')')).drop 1).reverse

/-- The text between the first opening parenthesis and the last closing one after it. -/
def body (sql : List Char) : List Char :=
  beforeLastClose ((sql.dropWhile (· != '(')).drop 1)

/-- The depth of parentheses after a character; more closed than opened ones give a negative
    depth. -/
def depthAfter (depth : Int) (c : Char) : Int :=
  if c = '(' then depth + 1 else if c = ')' then depth - 1 else depth

/-- The pieces of a text between its commas at depth zero, counted from a given depth. -/
def piecesFrom (depth : Int) : List Char → List (List Char)
  | [] => [[]]
  | c :: s =>
    let pieces := piecesFrom (depthAfter depth c) s
    if c = ',' ∧ depth = 0 then [] :: pieces
    else match pieces with
      | [] => [[c]]
      | piece :: rest => (c :: piece) :: rest

/-- The clauses of a body: its pieces, without an empty last one. -/
def splitTopLevel (s : List Char) : List (List Char) :=
  let pieces := piecesFrom 0 s
  if pieces.getLast? = some [] then pieces.dropLast else pieces

end CrudScripts.Schema
