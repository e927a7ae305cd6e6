import Transducer.Text.CodePoint

/-!
# Help texts
-/

namespace Transducer.CommandLine

/-- The commands. -/
inductive Command where
  | build
  | check
  deriving DecidableEq, Repr

/-- The name of the program. -/
def programName : String := "smbuilder"

/-- What `--version` prints. -/
def versionText : String := "smbuilder, version 0.1.0\n"

/-- The command with a name. -/
def Command.ofName? (name : Text) : Option Command :=
  if name = "build" then some .build else if name = "check" then some .check else none

/-- How the program, or one of its commands, is called. -/
def invocation : Option Command → String
  | none => programName
  | some .build => programName ++ " build"
  | some .check => programName ++ " check"

/-- What follows the name when the program or a command is called. -/
def arguments : Option Command → String
  | none => "[OPTIONS] COMMAND [ARGS]..."
  | some _ => "[OPTIONS]"

/-- The usage of the program or a command. -/
def usageLine (command : Option Command) : String :=
  s!"Usage: {invocation command} {arguments command}\n"

/-- The help on the program or a command after the usage. -/
def helpLines : Option Command → List String
  | none =>
    ["  State Machine Builder - generate C code from YAML state machines.",
      "",
      "  Reads a Moore or Mealy machine description, checks its structure and writes",
      "  <name>.h and <name>.c implementing the machine's step function.",
      "",
      "Options:",
      "  --config FILE                   Path to config file (default:",
      "                                  ./smbuilder.yaml if present)",
      "  --log-level [debug|info|warn|error]",
      "                                  Logging level",
      "  --log-format [json|text]        Log format",
      "  --version                       Show the version and exit.",
      "  --help                          Show this message and exit.",
      "",
      "Commands:",
      "  build  Validate a state machine and generate its C code.",
      "  check  Parse and validate a state machine without generating code."]
  | some .build =>
    ["  Validate a state machine and generate its C code.",
      "",
      "Options:",
      "  -y, --yaml-file FILE    The YAML file with the state machine  [required]",
      "  -o, --output DIRECTORY  Output directory (default: named after the input",
      "                          file)",
      "  -n, --name TEXT         Name of the state machine, used for the C types and",
      "                          file names  [required]",
      "  --dry-run               Generate but don't write any files",
      "  --help                  Show this message and exit."]
  | some .check =>
    ["  Parse and validate a state machine without generating code.",
      "",
      "Options:",
      "  -y, --yaml-file FILE  The YAML file with the state machine  [required]",
      "  --help                Show this message and exit."]

/-- The help on the program or a command. -/
def helpText (command : Option Command) : String :=
  usageLine command ++ "\n" ++ String.join ((helpLines command).map (· ++ "\n"))

/-- What a user sees who called the program or a command in a wrong way. -/
def usageError (command : Option Command) (message : Text) : Text :=
  usageLine command ++ s!"Try '{invocation command} --help' for help.\n\nError: " ++ message ++ "\n"

end Transducer.CommandLine
