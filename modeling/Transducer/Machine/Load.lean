import Transducer.Disk.TextFile
import Transducer.Machine.Parse

/-!
# Machines from texts and files
-/

namespace Transducer.Machine

open Document Log

/-- The machine that a text describes. This is `parse_yaml`. -/
def ofText (room : Yaml.Room) (text : String) : Stage Halt Machine := do
  match Yaml.load room Yaml.Schema.strict (.ofText text) with
  | .ok d => (ofData d).adapt Halt.report
  | .error (.fault fault) => throw (.defect (.document fault))
  | .error (.encoding failure) => throw (.defect (.encoding failure))
  | .error (.malformed reason) =>
    event .error loggerName "yaml_invalid" [("error", .text reason)]
    throw (.report (.parse "Failed to parse YAML" reason))

/-- The machine that a file describes. This is `load_machine`, with `read_machine_file` for the
text. -/
def ofFile (room : Yaml.Room) (disk : Disk) (path : Path) : Stage Halt Machine := do
  match disk.readText path with
  | .ok text => ofText room text
  | .error e =>
    let halt := e.halt (.parse ("Failed to read " ++ path.text) e.message)
    match halt with
    | .defect _ => throw halt
    | .report _ =>
      event .error loggerName "input_read_failed"
        [("path", .text path.text), ("error", .text e.message)]
      throw halt

end Transducer.Machine
