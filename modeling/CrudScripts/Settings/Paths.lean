import CrudScripts.Data.Wording

/-!
Paths by their text alone. A relative path is resolved against a root by walking its steps: empty
steps and single dots stay in place, and a double dot goes up, but not beyond the top. A file system
limits how long a step and a whole path can be.
-/
namespace CrudScripts.Settings
open CrudScripts.Data CrudScripts.Text

def isAbsolute (path : String) : Bool := path.toList.head? == some '/'

def pathSteps (path : String) : List String := (cut '/' path.toList).map String.ofList

/-- The place after some steps; places are lists of names, the innermost first. -/
def walk (place : List String) : List String → List String
  | [] => place
  | step :: rest =>
    if step = "" ∨ step = "." then walk place rest
    else if step = ".." then walk place.tail rest
    else walk (step :: place) rest

def placePath (place : List String) : String := "/" ++ join "/" place.reverse

/-- A relative path as an absolute one, seen from a root. -/
def resolvePath (root path : String) : String :=
  placePath (walk (walk [] (pathSteps root)) (pathSteps path))

def maxNameBytes : Nat := 255

def maxPathBytes : Nat := 4095

/-- Makes the directories on the way to a place, after the steps that were taken already: the first
    one that cannot be one decides. -/
def makeSteps (taken : List String) : List String → Except Failure Unit
  | [] => .ok ()
  | step :: rest =>
    let place := join "/" (taken ++ [step])
    if step.toList.contains '\x00' then .error (.badValue "embedded null byte")
    else if maxNameBytes < step.utf8ByteSize ∨ maxPathBytes < place.utf8ByteSize then
      .error (.refusedPlace ("[Errno 36] File name too long: " ++ quotedText place))
    else makeSteps (taken ++ [step]) rest

/-- Makes a directory in a file system that refuses no place but for its name. -/
def makeByName (path : String) : Except Failure Unit :=
  if path = "" then .error .unnamedDirectory else makeSteps [] (pathSteps path)

end CrudScripts.Settings
