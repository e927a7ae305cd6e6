import Std.Time
import Transducer.CommandLine.Reach
import Transducer.Log.Render

/-!
# The program

The outer layer of the command line: it shows the run what is on the disk, writes what the run
changed, and prints.
-/

namespace Transducer.Program

open CommandLine

/-- The absolute text of a place. -/
def placeText (l : Location) : String := "/" ++ "/".intercalate (l.map fun name => name.text.shown)

/-- What is at a place. -/
def readItem (l : Location) : IO (Option Item) := do
  let path := (← IO.currentDir) / placeText l
  if ← path.isDir then return some .directory
  else if ← path.pathExists then return some (.file (← IO.FS.readBinFile path).toList)
  else return none

/-- What the disk holds at some places. -/
def readDisk (home : Location) (places : List Location) : IO Disk := do
  let items ← places.filterMapM fun l => return (← readItem l).map (l, ·)
  return ⟨home, items⟩

/-- The disk as far as a run looks at it: the settings, then the places that they name. -/
def snapshot (home : Location) (args : List Text) : IO Disk := do
  let arguments ← readDisk home (reach {} ⟨home, []⟩ args)
  let named ← readDisk home (reach {} arguments args)
  readDisk home (reach {} named args)

/-- Writes one change to the disk; a file appears as a whole. -/
def writeItem (tag : String) (l : Location) (item : Item) : IO Unit :=
  match item with
  | .directory => IO.FS.createDir (placeText l)
  | .file content => do
    let name := (l.getLastD []).text.shown
    let temporary := placeText l.dropLast ++ s!"/.{name}.{tag}.tmp"
    IO.FS.writeBinFile temporary ⟨content.toArray⟩
    IO.FS.rename temporary (placeText l)

/-- Writes changes to the disk, up to the first that is refused. -/
def writeItems (tag : String) : List (Location × Item) → IO (Option Report)
  | [] => return none
  | (l, item) :: rest => do
    match ← (writeItem tag l item).toBaseIO with
    | .ok () => writeItems tag rest
    | .error e => return some (.write (placeText l) "write failed" (some (toString e)))

/-- A random word of the given length in base sixteen. -/
def randomWord (length : Nat) : IO String := do
  let n ← IO.rand 0 (Nat.pow 16 length - 1)
  return String.ofList (Text.hex length n)

/-- The time now. -/
def timeText : IO String := do
  let now ← Std.Time.Timestamp.now
  return (Std.Time.DateTime.ofTimestamp now Std.Time.TimeZone.ZoneRules.UTC).toISO8601String

/-- Runs the program on its arguments and gives its exit code. -/
def execute (args : List Text) : IO UInt32 := do
  let started ← IO.monoMsNow
  let home := (Path.ofText (← IO.currentDir).toString).parts.filterMap Name.ofText?
  let tag ← randomWord 8
  let correlation ← randomWord 8
  let disk ← snapshot home args
  let elapsed := (← IO.monoMsNow) - started
  let circumstances : Circumstances := {
    correlation
    tag
    seconds := Number.Binary64.ofRatio false elapsed 1000
    prints := Text.Utf8.isEncodable }
  let result := run circumstances args disk
  for line in ({} : Log.Setup).lines result.entries do
    IO.eprintln (line.text {} (← timeText))
  match ← writeItems tag (changes disk result.value.disk) with
  | some report =>
    IO.eprintln s!"Error: {report.text.shown}"
    return UInt32.ofNat report.code
  | none =>
    IO.print result.value.stdout.shown
    IO.eprint result.value.stderr.shown
    return UInt32.ofNat result.value.code

end Transducer.Program

/-- The entry point of the program. -/
def main (args : List String) : IO UInt32 :=
  Transducer.Program.execute (args.map Transducer.Text.ofString)
