import Transducer.Code.Template
import Transducer.Log.Level
import Transducer.Yaml.Load

/-!
# Settings

How the log is written, where output goes and which templates are used. Settings come from a file;
relative paths in it start at its directory.
-/

namespace Transducer

open Document

/-- The settings of a run. This is `BuilderConfig`, with its `LoggingConfig`. -/
structure Settings where
  level : Text := "warn"
  format : Text := "text"
  /-- The directory in which output directories are made. -/
  outputRoot : Path := .ofText "."
  /-- The directory with templates to use in place of the embedded ones. -/
  templatesDir : Option Path := none
  deriving DecidableEq, Repr

namespace Settings

/-- The text of data; one that cannot be written is a defect. -/
def written (writer : Writer) (d : Data) : Except Halt Text :=
  (d.written writer).mapError fun why => .defect (.unwritable why)

/-- A relative path as seen from a base directory, if there is one. -/
def resolve (base : Option Path) (path : Path) : Path :=
  match base with
  | none => path
  | some base => base.join path

/-- The path that data names. -/
def pathOf (writer : Writer) (base : Option Path) (d : Data) : Except Halt Path := do
  return resolve base (.ofText (← written writer d))

/-- The entries under `logging`; data that says no counts as empty. -/
def loggingEntries (entries : List (Scalar × Data)) : Except Halt (List (Scalar × Data)) :=
  match lookup? "logging" entries with
  | none => .ok []
  | some d =>
    if d.isTrue then
      match d.entries? with
      | some entries => .ok entries
      | none => .error (.report (.settings "logging" "Expected a mapping"))
    else .ok []

/-- The settings that data describes. This is the `from_dict` of `BuilderConfig`. -/
def ofData (writer : Writer) (d : Data) (base : Option Path) : Except Halt Settings :=
  match d.entries? with
  | none => .error (.report (.settings "root" s!"Expected a mapping, got {d.kind.name}"))
  | some entries => do
    let logging ← loggingEntries entries
    let level ← written writer ((lookup? "level" logging).getD (Value.text "warn"))
    let format ← written writer ((lookup? "format" logging).getD (Value.text "text"))
    let outputRoot ← pathOf writer base ((lookup? "output_root" entries).getD (Value.text "."))
    let templatesDir ←
      match lookup? "templates_dir" entries with
      | some directory =>
        if directory.isTrue then some <$> pathOf writer base directory else pure none
      | none => pure none
    return { level, format, outputRoot, templatesDir }

/-- The data of a file with settings; data that says no counts as an empty mapping. -/
def dataOf (room : Yaml.Room) (source : Yaml.Source) : Except Halt Data :=
  match Yaml.load room Yaml.Schema.standard source with
  | .ok d => .ok (if d.isTrue then d else Value.mapping [])
  | .error (.fault fault) => .error (.defect (.document fault))
  | .error (.encoding failure) => .error (.defect (.encoding failure))
  | .error (.malformed reason) =>
    .error (.report (.settings "yaml" s!"Failed to parse YAML: {reason}"))

/-- What a path leads to; a refusal is a defect. -/
def lookAt (disk : Disk) (path : Path) : Except Halt (Option Item) :=
  match disk.find? path.text with
  | .ok item => .ok item
  | .error e => .error (.defect (.disk e))

/-- How settings are read in a run of the program. -/
structure Reader where
  room : Yaml.Room := {}
  writer : Writer := {}

/-- The settings that a file describes. This is `from_yaml`. -/
def ofFile (reader : Reader) (disk : Disk) (path : Path) : Except Halt Settings := do
  if (← lookAt disk path).isNone then
    throw (.report (.settings "path" ("Configuration file not found: " ++ path.text)))
  match disk.read path.text with
  | .error e => throw (e.halt (.settings "file" ("Failed to read config file: " ++ e.message)))
  | .ok bytes => ofData reader.writer (← dataOf reader.room (.ofBytes bytes)) (some path.parent)

/-- The formats of a log. -/
def formats : List Text := ["json", "text"]

/-- Checks that a directory holds a template. -/
def requireTemplate (disk : Disk) (directory : Path) (name : String) : Except Halt Unit := do
  let path := directory.join (.ofText name)
  match ← lookAt disk path with
  | some (.file _) => return
  | _ => throw (.report (.settings "templates_dir" ("Required template not found: " ++ path.text)))

/-- The report on a value that is none of some choices. -/
def mustBeOneOf (choices : List Text) (got : Text) : Text :=
  "Must be one of " ++ Text.join ", " choices ++ ", got " ++ got

/-- Checks that settings can be used: the level and the format exist, and so do the templates. This
is the `validate` of `BuilderConfig`. -/
def validate (s : Settings) (disk : Disk) : Except Halt Unit := do
  if (Log.Level.ofName? s.level).isNone then
    throw (.report (.settings "logging.level"
      (mustBeOneOf (Log.Level.choices.map fun choice => choice.1) s.level)))
  if !formats.contains s.format then
    throw (.report (.settings "logging.format" (mustBeOneOf formats s.format)))
  match s.templatesDir with
  | none => return
  | some directory =>
    match ← lookAt disk directory with
    | some .directory =>
      requireTemplate disk directory Templates.headerFile
      requireTemplate disk directory Templates.sourceFile
    | _ =>
      throw (.report (.settings "templates_dir"
        ("Templates directory not found: " ++ directory.text)))

/-- A choice that was made, unless it is empty; otherwise the one in force. -/
def choose (choice : Option Text) (inForce : Text) : Text :=
  match choice with
  | some text => if text.isEmpty then inForce else text
  | none => inForce

/-- The settings with another level and another format, where such are given. This is
`with_logging`. -/
def withLogging (s : Settings) (level format : Option Text) : Settings :=
  { s with level := choose level s.level, format := choose format s.format }

/-- The file with settings that is used when none is named. -/
def defaultFile : String := "smbuilder.yaml"

/-- The settings of a run before they are checked: those of a file that is named, else those of the
usual file if it is there, else the defaults. -/
def find (reader : Reader) (disk : Disk) (path : Option Path) : Except Halt Settings :=
  match path with
  | some path => ofFile reader disk path
  | none => do
    let path := Path.ofText defaultFile
    if (← lookAt disk path).isSome then ofFile reader disk path else pure {}

/-- The settings of a run. This is `load_config`. -/
def load (reader : Reader) (disk : Disk) (path : Option Path) : Except Halt Settings := do
  let settings ← find reader disk path
  settings.validate disk
  return settings

end Settings

end Transducer
