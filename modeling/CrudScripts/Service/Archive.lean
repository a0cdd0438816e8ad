import CrudScripts.Settings.Config

/-!
Archives of scripts: entries by name, all of them compressed, and behind them a directory with a
record of each. An entry name ends before its first null character, must not be empty, and has to
fit a length field of two bytes; the number of entries has to fit one as well. Sizes and places in
an archive have to fit signed fields of four bytes, because the extension for larger ones is
switched off. An entry is dated when it is written, and its date has seven bits for the year.
-/
namespace CrudScripts.Service
open CrudScripts.Data CrudScripts.Settings

/-- The number of the compression that entries use. -/
def deflated : Nat := 8

structure Archive where
  compression : Nat
  entries : List (String × String)

/-- The name of an entry as an archive holds it. -/
def entryName (name : String) : String := String.ofList (name.toList.takeWhile (· != '\x00'))

/-- The number of entries that an archive can count. -/
def maxEntries : Nat := 65535

/-- The number of bytes that the name of an entry can have. -/
def maxEntryNameBytes : Nat := 65535

/-- The first year that an entry can be dated with. -/
def firstYear : Nat := 1980

/-- The last year that an entry can be dated with. -/
def lastYear : Nat := 2107

/-- The greatest size, and the greatest place, in an archive. -/
def maxArchiveBytes : Nat := 2147483647

/-- How far an archive is written: the number of its entries, the bytes that they take up, and the
    bytes that their records in the directory will take up. -/
structure Extent where
  count : Nat := 0
  bytes : Nat := 0
  directory : Nat := 0

/-- The extent after an entry: its header has 30 bytes and its record 46, besides its name. -/
def Extent.after (extent : Extent) (machine : Machine) (entry : String × String) : Extent where
  count := extent.count + 1
  bytes := extent.bytes + (30 + entry.1.utf8ByteSize + machine.deflatedBytes entry.2)
  directory := extent.directory + (46 + entry.1.utf8ByteSize)

/-- What is refused when the directory is written behind the entries. -/
def Extent.closingFault? (extent : Extent) : Option Failure :=
  if maxEntries < extent.count then some (.largeArchive "Files count")
  else if maxArchiveBytes < extent.bytes then some (.largeArchive "Central directory offset")
  else if maxArchiveBytes < extent.directory then some (.largeArchive "Central directory size")
  else none

/-- Why an archive of some extent does not take an entry. The compressed text may be longer than the
    text by a twentieth, and room is asked for it before it is known. -/
def Extent.entryFault? (extent : Extent) (machine : Machine) (entry : String × String) :
    Option Failure :=
  match machine.textFault? entry.2 with
  | some failure => some failure
  | none =>
    if machine.year < firstYear then
      some (.badValue "ZIP does not support timestamps before 1980")
    else if entry.1 = "" then some .unnamedEntry
    else if 20 * maxArchiveBytes < 21 * entry.2.utf8ByteSize then some (.largeArchive "Filesize")
    else if maxEntries ≤ extent.count then some (.largeArchive "Files count")
    else if maxArchiveBytes < extent.bytes then some (.largeArchive "Zipfile size")
    else match machine.textFault? entry.1 with
      | some failure => some failure
      | none =>
        if maxEntryNameBytes < entry.1.utf8ByteSize ∨ lastYear < machine.year then
          some .oversizedHeader
        else if maxArchiveBytes < machine.deflatedBytes entry.2 then some .oversizedEntry
        else none

/-- Writes the entries of scripts in order: how far the archive is written in the end, and the
    entries, unless one is not taken. -/
def writeEntries (machine : Machine) (extent : Extent) :
    List (String × String) → Extent × Except Failure (List (String × String))
  | [] => (extent, .ok [])
  | script :: rest =>
    let entry := (entryName script.1, script.2)
    match extent.entryFault? machine entry with
    | some failure => (extent, .error failure)
    | none =>
      let written := writeEntries machine (extent.after machine entry) rest
      (written.1, written.2.map (entry :: ·))

/-- The archive of scripts given as pairs: a repeated name keeps its first place and its last text.
    An archive is closed even when an entry is not taken, and what is refused then comes first. -/
def archive (machine : Machine) (scripts : List (String × String)) : Except Failure Archive :=
  let written := writeEntries machine {} (Fields.ofPairs scripts)
  match written.1.closingFault? with
  | some failure => .error failure
  | none => written.2.map fun entries => ⟨deflated, entries⟩

end CrudScripts.Service
