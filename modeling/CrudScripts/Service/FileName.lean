import CrudScripts.Data.Value
import CrudScripts.Text.Blank
import CrudScripts.Text.Letter

/-!
File names for scripts. A label becomes a stem over small letters, digits, underscores, points and
hyphens; what cannot stand in a stem is replaced, run by run, by one underscore, and separators at
the ends are removed.
-/
namespace CrudScripts.Service
open CrudScripts.Data CrudScripts.Text

/-- Whether a character can stand in a file name. -/
def isFileChar (c : Char) : Bool := c.isAlphanum || c == '_' || c == '.' || c == '-'

/-- Whether a character separates the parts of a file name. -/
def isSeparator (c : Char) : Bool := c == '.' || c == '_' || c == '-'

/-- The text with an underscore for every run of characters that cannot stand in a file name;
    `inRun` says whether such a run is open. -/
def replaceRuns (inRun : Bool) : List Char → List Char
  | [] => []
  | c :: s =>
    if isFileChar c then c :: replaceRuns false s
    else if inRun then replaceRuns true s
    else '_' :: replaceRuns true s

/-- The stem of a label, or a default where nothing of the label is left. -/
def fileStem (default label : String) : String :=
  let stem := lower (String.ofList (strip isSeparator (replaceRuns false label.toList)))
  if stem = "" then default else stem

/-- The file name of the script of a table for a dialect. -/
def scriptFileName (table dialect : String) : String :=
  fileStem "table" table ++ "_" ++ fileStem "dialect" dialect ++ ".sql"

/-- The label of a target in a file name. A target that counts as absent has an empty one. -/
def targetLabel (target : Value) : Except Failure String :=
  match target with
  | .text s => .ok s
  | other => if other.truthy then .error (.unsearchable other.kind) else .ok ""

/-- The name of the archive with the scripts of a table. -/
def archiveName (table : String) : String := fileStem "table" table ++ "_scripts.zip"

end CrudScripts.Service
