import Transducer.Code.Generate
import Transducer.CommandLine.Help
import Transducer.CommandLine.Option
import Transducer.Machine.Check
import Transducer.Machine.Load
import Transducer.Settings
import Transducer.Text.Alphanumeric

/-!
# Runs of the program

A run reads its arguments and its settings, and then builds or checks a machine.
-/

namespace Transducer.CommandLine

open Document Log

/-- What a run takes from outside besides its arguments and the disk. -/
structure Circumstances where
  /-- The name of the run in the log. -/
  correlation : String
  /-- A word that no temporary file has in its name. -/
  tag : String
  /-- The time that a build takes. -/
  seconds : Number.Binary64
  /-- Whether the output takes a text: it may have no bytes for some of its code points. -/
  prints : Text → Bool
  /-- How the settings are read. -/
  reader : Settings.Reader := {}
  /-- How far the document with the machine is followed. -/
  room : Yaml.Room := {}
  /-- The number of directories that may be missing above the output directory. -/
  missing : Nat := 988

/-- Why a run ends before its work. -/
inductive Early where
  /-- A text was asked for. -/
  | shown (text : Text)
  /-- The program or a command was called in a wrong way. -/
  | usage (command : Option Command) (message : Text)
  /-- An option was called in a wrong way. -/
  | wrongOption (message : Text)
  | halt (h : Halt)

/-- What is left behind by a run. -/
structure Ending where
  code : Nat
  stdout : Text := []
  stderr : Text := []
  disk : Disk

/-! ## Options -/

/-- The options of the program. -/
inductive ProgramOption where
  | config
  | logLevel
  | logFormat
  | version
  | help
  deriving DecidableEq, Repr

/-- The options of the program as they are written. -/
def programSpecs : List (Spec ProgramOption) :=
  [⟨.config, none, "--config", true⟩, ⟨.logLevel, none, "--log-level", true⟩,
    ⟨.logFormat, none, "--log-format", true⟩, ⟨.version, none, "--version", false⟩,
    ⟨.help, none, "--help", false⟩]

/-- The options of the commands. -/
inductive CommandOption where
  | yamlFile
  | output
  | name
  | dryRun
  | help
  deriving DecidableEq, Repr

/-- The options of a command as they are written. -/
def commandSpecs : Command → List (Spec CommandOption)
  | .build =>
    [⟨.yamlFile, some 'y', "--yaml-file", true⟩, ⟨.output, some 'o', "--output", true⟩,
      ⟨.name, some 'n', "--name", true⟩, ⟨.dryRun, none, "--dry-run", false⟩,
      ⟨.help, none, "--help", false⟩]
  | .check => [⟨.yamlFile, some 'y', "--yaml-file", true⟩, ⟨.help, none, "--help", false⟩]

/-- What becomes of arguments that cannot be read. -/
def OptionError.early (command : Option Command) : OptionError → Early
  | .unknown name [] => .usage command ("No such option: " ++ name)
  | .unknown name [close] =>
    .usage command ("No such option: " ++ name ++ s!" Did you mean {close}?")
  | .unknown name close =>
    .usage command
      ("No such option: " ++ name ++ " (Possible options: " ++ ", ".intercalate close ++ ")")
  | .needsValue name => .wrongOption ("Option " ++ Text.quote name ++ " requires an argument.")
  | .takesNoValue name => .wrongOption ("Option " ++ Text.quote name ++ " does not take a value.")

/-- Reads the arguments of the program or a command. -/
def readGiven (command : Option Command) (specs : List (Spec κ)) (anywhere : Bool)
    (args : List Text) : Except Early (Given κ) :=
  match readArgs specs anywhere args with
  | .ok given => .ok given
  | .error e => .error (e.early command)

/-- A value that an option does not take. -/
def invalid (command : Option Command) (label : String) (message : Text) : Early :=
  .usage command (s!"Invalid value for {label}: " ++ message)

/-- Checks that a path does not lead to a directory, or to a file; nothing may be there. A path that
cannot be spelt is a defect. -/
def checkPath (command : Option Command) (label : String) (disk : Disk) (wantFile : Bool)
    (path : Text) : Except Early Unit :=
  let shown := Text.quote (Name.displayed path)
  match disk.stat path, wantFile with
  | .error refusal, _ =>
    if refusal.isReported then .ok () else .error (.halt (.defect (.disk ⟨refusal, path, none⟩)))
  | .ok .directory, true =>
    .error (invalid command label ("File " ++ shown ++ " is a directory."))
  | .ok (.file _), false =>
    .error (invalid command label ("Directory " ++ shown ++ " is a file."))
  | _, _ => .ok ()

/-- A code point without its case: besides the ASCII letters two characters have an ASCII letter as
their lower case. -/
def foldCase : CodePoint → CodePoint
  | .char c => .char (if c = '\u017f' then 's' else if c = '\u212a' then 'k' else c.toLower)
  | .half n => .half n

/-- The choice that a text names in any case. -/
def choice? (choices : List String) (text : Text) : Option String :=
  choices.find? fun choice => Text.ofString choice = text.map foldCase

/-- Checks that a text names one of some choices. -/
def checkChoice (label : String) (choices : List String) (text : Text) : Except Early Unit :=
  if (choice? choices text).isSome then .ok ()
  else
    let names := Text.join ", " (choices.map fun (choice : String) => Text.quote choice)
    .error (invalid none label (Text.quote text ++ " is not one of " ++ names ++ "."))

/-- The levels that can be chosen. -/
def levelChoices : List String := ["debug", "info", "warn", "error"]

/-- The formats that can be chosen. -/
def formatChoices : List String := ["json", "text"]

/-- Checks the value of an option of the program, if it was given. -/
def checkProgramOption (disk : Disk) (given : Given ProgramOption) (spec : Spec ProgramOption) :
    Except Early Unit :=
  match given.value? spec.key with
  | none => .ok ()
  | some text =>
    match spec.key with
    | .config => checkPath none spec.label disk true text
    | .logLevel => checkChoice spec.label levelChoices text
    | .logFormat => checkChoice spec.label formatChoices text
    | _ => .ok ()

/-- Whether a text is a name in C: letters, digits and underscores, without a digit in front.
`validate_name` asks for one. -/
def isCName (text : Text) : Bool :=
  match text with
  | c :: rest => c.isIn Template.isNameStart && rest.all (·.isIn Template.isNamePart)
  | [] => false

/-- Checks the value of an option of a command; some have to be given. -/
def checkCommandOption (command : Command) (disk : Disk) (given : Given CommandOption)
    (spec : Spec CommandOption) : Except Early Unit :=
  match spec.key, given.value? spec.key with
  | .yamlFile, some path => checkPath (some command) spec.label disk true path
  | .output, some path => checkPath (some command) spec.label disk false path
  | .name, some name =>
    if isCName name then .ok ()
    else
      .error (invalid (some command) spec.label
        "must be a C identifier: letters, digits and underscores, not starting with a digit")
  | .yamlFile, none => .error (.usage (some command) s!"Missing option {spec.label}.")
  | .name, none => .error (.usage (some command) s!"Missing option {spec.label}.")
  | _, _ => .ok ()

/-- Checks that no argument is left over. -/
def checkRest (command : Command) : List Text → Except Early Unit
  | [] => .ok ()
  | [arg] => .error (.usage (some command) ("Got unexpected extra argument (" ++ arg ++ ")"))
  | args =>
    .error (.usage (some command)
      ("Got unexpected extra arguments (" ++ Text.join " " args ++ ")"))

/-- What is asked of the program before its command. -/
structure Request where
  config : Option Text
  level : Option String
  format : Option String
  command : Command
  args : List Text
  deriving DecidableEq, Repr

/-- The command with a name; a name that could be an option asks for help. -/
def resolveCommand (name : Text) : Except Early Command :=
  let unknown : Early := .usage none ("No such command " ++ Text.quote name ++ ".")
  match Command.ofName? name with
  | some command => .ok command
  | none =>
    match name with
    | c :: _ => .error (if c.isIn Text.isAlphanumeric then unknown else .shown (helpText none))
    | [] => .error unknown

/-- Reads the arguments of the program up to its command. -/
def readRequest (disk : Disk) (args : List Text) : Except Early Request := do
  if args.isEmpty then throw (.shown (helpText none))
  let given ← readGiven none programSpecs false args
  let order := given.order programSpecs
  let isEager (spec : Spec ProgramOption) : Bool := spec.key == .version || spec.key == .help
  match order.find? fun spec => given.has spec.key && isEager spec with
  | some ⟨.version, _, _, _⟩ => throw (.shown versionText)
  | some _ => throw (.shown (helpText none))
  | none =>
    order.forM (checkProgramOption disk given)
    match given.rest with
    | [] => throw (.usage none "Missing command.")
    | name :: rest =>
      let command ← resolveCommand name
      return {
        config := given.value? .config
        level := (given.value? .logLevel).bind (choice? levelChoices)
        format := (given.value? .logFormat).bind (choice? formatChoices)
        command
        args := rest }

/-- What is asked of a command. -/
structure Task where
  yamlFile : Path
  output : Option Path
  name : Text
  dryRun : Bool
  deriving DecidableEq, Repr

/-- Reads the arguments of a command. -/
def readTask (disk : Disk) (command : Command) (args : List Text) : Except Early Task := do
  let specs := commandSpecs command
  let given ← readGiven (some command) specs true args
  if given.has .help then throw (.shown (helpText (some command)))
  (given.order specs).forM (checkCommandOption command disk given)
  checkRest command given.rest
  return {
    yamlFile := .ofText ((given.value? .yamlFile).getD [])
    output := (given.value? .output).map Path.ofText
    name := (given.value? .name).getD []
    dryRun := given.has .dryRun }

/-! ## Commands -/

/-- The logger of the program. -/
def loggerName : String := "cli"

/-- Reads a machine and checks it. This is `parse_and_check`. -/
def parseAndCheck (room : Yaml.Room) (disk : Disk) (path : Path) : Stage Halt Machine := do
  tell (.stage "parse")
  let machine ← Machine.ofFile room disk path
  tell (.stage "validate")
  (Check.all machine.signature).adapt Halt.report
  return machine

/-- The templates of the settings. `make_generator` reads them. -/
def templatesOf (disk : Disk) (settings : Settings) : Stage Halt Templates :=
  match settings.templatesDir with
  | none => pure Templates.embedded
  | some directory => Templates.ofDirectory disk directory

/-- Where the files of a build go. -/
def outputDirectory (settings : Settings) (task : Task) : Path :=
  task.output.getD (settings.outputRoot.join (.ofText task.yamlFile.stem))

/-- Everything of a build but the writing. -/
def prepare (room : Yaml.Room) (disk : Disk) (settings : Settings) (task : Task) :
    Stage Halt Bundle := do
  let machine ← parseAndCheck room disk task.yamlFile
  tell (.stage "generate")
  let templates ← templatesOf disk settings
  (Code.generate templates task.name machine ⟨outputDirectory settings task, []⟩).adapt Halt.report

/-- Builds the code of a machine; gives what is printed. This is the command `build`. -/
def build (c : Circumstances) (settings : Settings) (task : Task) (disk : Disk) :
    Logged (Except Halt Text × Disk) := do
  event .info loggerName "build_started"
    [("yaml_file", .text task.yamlFile.text), ("name", .text task.name),
      ("dry_run", .bool task.dryRun)]
  match ← (prepare c.room disk settings task).run with
  | .error halt => return (.error halt, disk)
  | .ok bundle =>
    if task.dryRun then
      let names := Text.join ", " bundle.names
      return (.ok ("Would write " ++ names ++ " to " ++ bundle.directory.text ++ ".\n"), disk)
    else
      tell (.stage "write")
      match ← bundle.write c.missing c.tag disk with
      | (.error halt, disk) => return (.error halt, disk)
      | (.ok message, disk) =>
        tell (.event (.timing "build" c.seconds))
        return (.ok (message ++ "\n"), disk)

/-- Checks a machine; gives what is printed. This is the command `check`. -/
def check (room : Yaml.Room) (task : Task) (disk : Disk) : Stage Halt Text := do
  event .info loggerName "check_started" [("yaml_file", .text task.yamlFile.text)]
  let machine ← parseAndCheck room disk task.yamlFile
  let states := machine.signature.states.length
  return task.yamlFile.text ++ s!" is a valid {machine.kind} machine " ++
    s!"({states} states, {machine.transitionCount} transitions).\n"

/-- Runs a command. -/
def perform (c : Circumstances) (settings : Settings) (command : Command) (task : Task)
    (disk : Disk) : Logged (Except Halt Text × Disk) :=
  match command with
  | .build => build c settings task disk
  | .check => do return (← (check c.room task disk).run, disk)

/-- What a run that stops leaves behind. A report goes through `unwrap_or_exit`, and a defect to
`main`. -/
def halted (disk : Disk) : Halt → Logged Ending
  | .report r => return { code := r.code, stderr := "Error: " ++ r.text ++ "\n", disk }
  | .defect d => do
    event .error loggerName "cli_error" [("error", .text d.message)]
    return { code := 1, disk }

/-- What a run that prints a text at its end leaves behind. -/
def printed (c : Circumstances) (disk : Disk) (text : Text) : Logged Ending :=
  if c.prints text then return { code := 0, stdout := text, disk }
  else halted disk (.defect .unprintable)

/-- What a run that ends before its work leaves behind. -/
def ended (c : Circumstances) (disk : Disk) : Early → Logged Ending
  | .shown text => printed c disk text
  | .usage command message => return { code := 2, stderr := usageError command message, disk }
  | .wrongOption message => return { code := 2, stderr := "Error: " ++ message ++ "\n", disk }
  | .halt h => halted disk h

/-- Runs the program. This is `main`. -/
def run (c : Circumstances) (args : List Text) (disk : Disk) : Logged Ending := do
  match readRequest disk args with
  | .error early => ended c disk early
  | .ok request =>
    match Settings.load c.reader disk (request.config.map Path.ofText) with
    | .error halt => halted disk halt
    | .ok loaded =>
      let settings := loaded.withLogging
        (request.level.map Text.ofString) (request.format.map Text.ofString)
      tell (.configure settings.level settings.format)
      tell (.identify c.correlation)
      match readTask disk request.command request.args with
      | .error early => ended c disk early
      | .ok task =>
        match ← perform c settings request.command task disk with
        | (.ok text, disk) => printed c disk text
        | (.error halt, disk) => halted disk halt

end Transducer.CommandLine
