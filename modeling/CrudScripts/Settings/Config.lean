import CrudScripts.Data.Fields
import CrudScripts.Settings.Paths

/-!
The configuration of the program: sections by name, and the machine that the program runs on. A
section that is absent reads as an empty one.
-/
namespace CrudScripts.Settings
open CrudScripts.Data

/-- What the program relies on where it runs: its file system, its recursion limit, its compression,
    its clock, and how texts are held. -/
structure Machine where
  /-- The directory that relative base directories are seen from. -/
  root : String
  /-- How many values can stand inside each other in a wording. -/
  nesting : Nat
  /-- The lone half of a pair of 16-bit units that a character stands for. Texts can have such
      halves, though they are no characters and have no bytes. -/
  half? : Char → Option Nat
  /-- Why the file system has no bytes for a name. -/
  nameFault? : String → Option String
  makeDirectory : String → Except Failure Unit
  openFile : String → Except Failure Unit
  /-- The number of bytes that a text has when it is compressed. -/
  deflatedBytes : String → Nat
  /-- The year that the clock shows. -/
  year : Nat
  ascii : ∀ c : Char, c.toNat < 128 → half? c = none

namespace Machine

/-- A machine whose clock shows this century, whose texts have no lone halves, and whose file system
    refuses no place but for its name. -/
def plain (root : String) (deflatedBytes : String → Nat) : Machine where
  root := root
  nesting := 980
  half? := fun _ => none
  nameFault? := fun _ => none
  makeDirectory := makeByName
  openFile := fun _ => .ok ()
  deflatedBytes := deflatedBytes
  year := 2025
  ascii := fun _ _ => rfl

/-- Why a text cannot be written on a machine. -/
def textFault? (machine : Machine) (s : String) : Option Failure :=
  (encodingFault? machine.half? s).map .badValue

/-- Why a step of a path cannot be looked up on a machine. -/
def stepFault? (machine : Machine) (step : String) : Option Failure :=
  match machine.nameFault? step with
  | some message => some (.badValue message)
  | none => if step.toList.contains '\x00' then some (.badValue "embedded null byte") else none

end Machine

/-- A configuration: its sections in order, the machine, and the directory of the log that is open
    already. -/
structure Config where
  sections : List (String × Value)
  machine : Machine
  openLog : Option String := none

namespace Config

def section? (config : Config) (name : String) : Value :=
  (config.sections.lookup name).getD (.dict [])

/-- The configuration with whole sections put in the place of its own. -/
def override (config : Config) (sections : List (String × Value)) : Config :=
  { config with sections := Fields.putAll config.sections sections }

/-- A setting of a section, or a default. -/
def setting (config : Config) (sectionName key : String) (default : Value) :
    Except Failure Value :=
  (config.section? sectionName).memberD key default

end Config

end CrudScripts.Settings
