/-!
The causes for which a stage of the program stops, and their wording.
-/
namespace CrudScripts.Data

/-- Why a reader of values or a stage of the program stops. -/
inductive Failure where
  /-- A value of this kind has no such member. -/
  | noMember (kind member : String)
  /-- A value of a kind that does not belong in its place. -/
  | wrongType (message : String)
  /-- A value of the right kind that is refused. -/
  | badValue (message : String)
  /-- Values that stand too deep inside each other for what is done with them. -/
  | tooDeep (activity : String)
  | missingSettings (place : String)
  /-- The settings were read and refused. -/
  | loadFailed (cause : Failure)
  /-- The program cannot start without its settings. -/
  | startAborted (cause : Failure)
  | unnamedEntry
  /-- An archive entry whose date, or the length of whose name, does not fit its field. -/
  | oversizedHeader
  /-- An archive entry whose compressed text does not fit its size field. -/
  | oversizedEntry
  /-- A part of an archive that only the extension for large archives can hold. -/
  | largeArchive (part : String)
  | unnamedDirectory
  /-- A directory or a file that the file system refuses. -/
  | refusedPlace (message : String)
  | unknownEncoding (message : String)
  /-- The reply to a request that never came was asked for. -/
  | unsetReply
  /-- A warning of the transport that nobody handles. -/
  | transport (name : String)

namespace Failure

def message : Failure → String
  | .noMember kind member => "'" ++ kind ++ "' object has no attribute '" ++ member ++ "'"
  | .wrongType message => message
  | .badValue message => message
  | .tooDeep activity => "maximum recursion depth exceeded while " ++ activity
  | .missingSettings place => "settings.yaml not found at " ++ place
  | .loadFailed cause => "Failed to load application configuration: " ++ cause.message
  | .startAborted cause =>
    "Application cannot start due to configuration load failure: " ++ cause.message
  | .unnamedEntry => "string index out of range"
  | .oversizedHeader => "ushort format requires 0 <= number <= 65535"
  | .oversizedEntry => "Compressed size too large, try using force_zip64"
  | .largeArchive part => part ++ " would require ZIP64 extensions"
  | .unnamedDirectory => "[Errno 2] No such file or directory: ''"
  | .refusedPlace message => message
  | .unknownEncoding message => message
  | .unsetReply => "cannot access local variable 'response' where it is not associated with a value"
  | .transport name => name

/-- A value of a kind that cannot be looked up in a table. -/
def unhashable (kind : String) : Failure := .wrongType ("unhashable type: '" ++ kind ++ "'")

/-- A value of a kind that has no elements. -/
def notIterable (kind : String) : Failure := .wrongType ("'" ++ kind ++ "' object is not iterable")

/-- A value of a kind that cannot be searched as a text. -/
def unsearchable (kind : String) : Failure :=
  .wrongType (if kind = "bytes" then "cannot use a string pattern on a bytes-like object"
    else "expected string or bytes-like object, got '" ++ kind ++ "'")

end Failure

end CrudScripts.Data
