import CrudScripts.Settings.Config
import CrudScripts.Settings.Encoding
import CrudScripts.Text.Letter

/-!
What is logged where. Everything is recorded; the console shows records from its level on, and the
log file, which is rotated by size, keeps records from its own level on, apart from those of the web
framework. The settings are read in a fixed order, and the first that is refused decides.
-/
namespace CrudScripts.Settings
open CrudScripts.Data

def levelNumbers : List (String × Nat) :=
  [("NOTSET", 0), ("DEBUG", 10), ("INFO", 20), ("WARN", 30), ("WARNING", 30), ("ERROR", 40),
   ("CRITICAL", 50), ("FATAL", 50)]

/-- The number of the level at which everything is recorded. -/
def recordingLevel : Nat := 10

/-- How the console shows a record. -/
def consoleFormat : String := "%(name)s - %(levelname)s - %(message)s"

/-- How the log file keeps a record. -/
def fileFormat : String := "%(asctime)s - %(name)s - %(levelname)s - %(message)s"

/-- The text of a level setting in capital letters. -/
def levelName : Value → Except Failure String
  | .text s => .ok (Text.upper s)
  | other => .error (.noMember other.kind "upper")

/-- The number of a level name, or a default for an unknown name. Two names belong to the layout of
    records and are refused as levels. -/
def levelNumber (default : Nat) (name : String) : Except Failure Nat :=
  match levelNumbers.lookup name with
  | some n => .ok n
  | none =>
    if name = "BASIC_FORMAT" then
      .error (.badValue "Unknown level: '%(levelname)s:%(name)s:%(message)s'")
    else if name = "_STYLES" then
      .error (.wrongType ("Level not an integer or a valid string: \x7b" ++
        "'%': (<class 'logging.PercentStyle'>, '%(levelname)s:%(name)s:%(message)s'), " ++
        "'\x7b': (<class 'logging.StrFormatStyle'>, " ++
        "'\x7blevelname\x7d:\x7bname\x7d:\x7bmessage\x7d'), " ++
        "'$': (<class 'logging.StringTemplateStyle'>, " ++
        "'$\x7blevelname\x7d:$\x7bname\x7d:$\x7bmessage\x7d')\x7d"))
    else .ok default

/-- The parts of log names that belong to the web framework. -/
def frameworkNames : List String := ["uvicorn", "watchfiles", "httpx"]

/-- Whether the log file keeps the records of a name. -/
def fileAccepts (name : String) : Bool :=
  !frameworkNames.any fun framework => framework.toList.isPrefixOf name.toList

/-- The level from which records are taken, and the console and the log file as configured. -/
structure LogPlan where
  recordingLevel : Nat
  consoleLevel : Nat
  consoleFormat : String
  file : String
  fileLevel : Nat
  fileFormat : String
  maxBytes : Value
  backupCount : Value
  encoding : String

def sizeLimit (v : Value) : Except Failure Value :=
  if v.isNumber then .ok v
  else .error (.wrongType ("'>' not supported between instances of '" ++ v.kind ++ "' and 'int'"))

/-- The name of an encoding; without a name it is that of the surroundings. -/
def encodingName (machine : Machine) : Value → Except Failure String
  | .null => .ok "locale"
  | .text s => match machine.textFault? s with
    | some failure => .error failure
    | none =>
      if s.toList.contains '\x00' then .error (.badValue "embedded null character") else .ok s
  | other =>
    .error (.wrongType ("open() argument 'encoding' must be str or None, not " ++ other.kind))

def textEncoding (name : String) : Except Failure String :=
  if isEncoding name then .ok name else .error (.unknownEncoding (encodingRefusal name))

/-- The directory of the log, which is made unless it is there. -/
def logDirectory (config : Config) : Except Failure String := do
  match ← config.setting "base_dirs" "logs" (.text "logs") with
  | .text path =>
    config.machine.makeDirectory path
    return path
  | .bytes path =>
    config.machine.makeDirectory path
    throw (.wrongType "Can't mix strings and bytes in path components")
  | other =>
    throw (.wrongType ("expected str, bytes or os.PathLike object, not " ++ other.kind))

/-- The settings of the console and of the log file under a name. -/
def logSetting (config : Config) (group key : String) (default : Value) : Except Failure Value := do
  (← config.setting "logging" group (.dict [])).memberD key default

def consoleLevelName (config : Config) : Except Failure String := do
  levelName (← logSetting config "level" "console" (.text "INFO"))

/-- What the settings say about the log file, its level by name. -/
structure LogFile where
  directory : String
  levelName : String
  maxBytes : Value
  backupCount : Value
  encoding : Value

def logFile (config : Config) : Except Failure LogFile := do
  let maxBytes ← logSetting config "rotation" "max_bytes" (.int (10 * 1024 * 1024))
  let backupCount ← logSetting config "rotation" "backup_count" (.int 5)
  let encoding ← logSetting config "rotation" "encoding" (.text "utf-8")
  let name ← levelName (← logSetting config "level" "file" (.text "DEBUG"))
  let directory ← logDirectory config
  return ⟨directory, name, maxBytes, backupCount, encoding⟩

def LogFile.path (file : LogFile) : String := file.directory ++ "/app.log"

/-- The log file as it is opened: its size limit, its encoding and the number of its level. -/
def LogFile.opened (machine : Machine) (file : LogFile) :
    Except Failure (Value × String × Nat) := do
  let maxBytes ← sizeLimit file.maxBytes
  let name ← encodingName machine file.encoding
  machine.openFile file.path
  let encoding ← textEncoding name
  return (maxBytes, encoding, ← levelNumber 10 file.levelName)

/-- The console and the log file of a configuration, both opened. -/
def logPlan (config : Config) : Except Failure LogPlan := do
  let consoleLevel ← levelNumber 20 (← consoleLevelName config)
  let file ← logFile config
  let (maxBytes, encoding, fileLevel) ← file.opened config.machine
  return {
    recordingLevel, consoleLevel, consoleFormat, file := file.path, fileLevel, fileFormat
    maxBytes, backupCount := file.backupCount, encoding }

/-- What a part of the program asks of a configuration before it writes to the log. The console is
    open already, and so is the log file unless it is in another directory. -/
def joinLog (config : Config) : Except Failure Unit := do
  let _ ← consoleLevelName config
  let file ← logFile config
  if config.openLog ≠ some file.directory then
    let _ ← file.opened config.machine

/-- Whether a value names a log: a text does, and what counts as absent is the log of the whole
    program. -/
def namesLog (name : Value) : Bool := name.text?.isSome || !name.truthy

end CrudScripts.Settings
