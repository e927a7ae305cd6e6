import Transducer.Disk.Replace
import Transducer.Halt
import Transducer.Log.Logged

/-!
# Bundles of files

Files that belong into one directory. They are written in their order, each as a whole; those
written before a failure stay.
-/

namespace Transducer

open Document Log

/-- Files on their way to a directory. This is `OutputFiles`. -/
structure Bundle where
  directory : Path
  /-- The names and contents, in the order in which they are written. -/
  files : List (Text × Text) := []
  deriving DecidableEq, Repr

namespace Bundle

/-- The bundle with one more file. This is `add_file`. -/
def add (b : Bundle) (name content : Text) : Bundle :=
  { b with files := b.files ++ [(name, content)] }

/-- The names of the files. -/
def names (b : Bundle) : List Text := b.files.map Prod.fst

/-- The logger of the bundles. -/
def loggerName : String := "utils.files"

/-- Where a file of a bundle is written. -/
def target (directory : Path) (name : Text) : Path := directory.join (.ofText name)

/-- What becomes of a refused operation: the log is told, unless no report covers it. -/
def refused (name path message : Text) (e : DiskError) : Logged Halt := do
  let halt := e.halt (.write path message (some e.message))
  match halt with
  | .defect _ => return halt
  | .report _ =>
    event .error loggerName name [("path", .text path), ("error", .text e.message)]
    return halt

/-- Replaces one file by a text. The text is encoded when the temporary file is there. -/
def writeFile (tag : String) (path : Path) (content : Text) (disk : Disk) :
    Except (ReplaceError Defect) Unit × Disk :=
  match Text.Utf8.encode? content with
  | some bytes => disk.replace tag path [bytes] (.ok ())
  | none => disk.replace tag path [] (.error .unencodable)

/-- Writes files into a directory, up to the first that cannot be written. -/
def writeFiles (tag : String) (directory : Path) :
    List (Text × Text) → Disk → Logged (Except Halt Unit × Disk)
  | [], disk => return (.ok (), disk)
  | (name, content) :: rest, disk => do
    let path := target directory name
    match writeFile tag path content disk with
    | (.error (.disk e), disk) =>
      return (.error (← refused "file_write_failed" path.text "write failed" e), disk)
    | (.error (.writer defect), disk) => return (.error (.defect defect), disk)
    | (.ok (), disk) =>
      event .debug loggerName "file_written"
        [("path", .text path.text), ("size", .int content.length)]
      writeFiles tag directory rest disk

/-- Makes the directory, with room for `room` missing ones above it, and writes the files into it;
gives a confirmation. This is the `write` of `OutputFiles`. -/
def write (b : Bundle) (room : Nat) (tag : String) (disk : Disk) :
    Logged (Except Halt Text × Disk) := do
  let path := b.directory.text
  match disk.makeDirectories room b.directory with
  | (.error e, disk) =>
    return (.error (← refused "output_dir_failed" path "cannot create output directory" e), disk)
  | (.ok (), disk) =>
    match ← writeFiles tag b.directory b.files disk with
    | (.error halt, disk) => return (.error halt, disk)
    | (.ok (), disk) =>
      event .info loggerName "files_written" [("path", .text path), ("files", .texts b.names)]
      return (.ok ("The files have been written to " ++ path ++ "."), disk)

end Bundle

end Transducer
