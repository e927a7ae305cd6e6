import Transducer.CommandLine.Run

/-!
# What a run looks at

The places on the disk that a run depends on, as far as they are known from what the disk shows: the
settings have to be seen before the places that they name.
-/

namespace Transducer.CommandLine

/-- A place and all places above it. -/
def withAbove (l : Location) : List Location := (List.range (l.length + 1)).map l.take

/-- The places on a path, double dots resolved, together with the places above them. -/
def places (home : Location) (path : Text) : List Location :=
  let bytes := (Name.ofText? path).getD []
  let names := Text.splitAt Name.separator bytes
  let start := if bytes.head? = some Name.separator then [] else home
  let visit (seen : List Location × Location) (name : Name) : List Location × Location :=
    let next :=
      if name = [] || name = .self then seen.2
      else if name = .above then seen.2.dropLast
      else seen.2 ++ [name]
    (seen.1 ++ [next], next)
  (names.foldl visit ([start], start)).1.flatMap withAbove

/-- The paths of the templates that settings name. -/
def templatePaths (settings : Settings) : List Path :=
  settings.templatesDir.toList.flatMap fun directory =>
    [directory.join (.ofText Templates.headerFile), directory.join (.ofText Templates.sourceFile)]

/-- The paths that a build writes to. -/
def outputPaths (settings : Settings) (task : Task) : List Path :=
  let directory := outputDirectory settings task
  [directory, Bundle.target directory (task.name ++ ".h"),
    Bundle.target directory (task.name ++ ".c")]

/-- The paths that a run looks at, as far as the disk shows them. -/
def paths (reader : Settings.Reader) (disk : Disk) (args : List Text) : List Text :=
  match readRequest disk args with
  | .error _ => args
  | .ok request =>
    let config := request.config.getD Settings.defaultFile
    let found := Settings.find reader disk (request.config.map Path.ofText)
    let settings := found.toOption.getD {}
    let known := config :: (templatePaths settings).map Path.text ++ request.args
    match readTask disk request.command request.args with
    | .error _ => known
    | .ok task =>
      known ++ task.yamlFile.text :: (outputPaths settings task).map Path.text

/-- The places that a run looks at, as far as the disk shows them. -/
def reach (reader : Settings.Reader) (disk : Disk) (args : List Text) : List Location :=
  ((paths reader disk args).flatMap (places disk.home)).eraseDups

/-- What a run changed on a disk: the items that are new or different, those nearer to the root
first. -/
def changes (before after : Disk) : List (Location × Item) :=
  let changed := after.items.filter fun item => before.get? item.1 ≠ some item.2
  changed.mergeSort fun a b => a.1.length ≤ b.1.length

end Transducer.CommandLine
