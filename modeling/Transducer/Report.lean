import Transducer.Text.CodePoint

/-!
# Reports

What a user is told when the program cannot go on. Every report has a text and an exit code.
-/

namespace Transducer

/-- The rules that a machine has to keep. This is `ValidationErrorKind`. -/
inductive Rule where
  /-- No name is used twice. -/
  | uniqueNames
  /-- Every end state is a state. -/
  | knownEndStates
  /-- Every name can be a name in the generated code. -/
  | legalNames
  deriving DecidableEq, Repr

/-- Why the program cannot go on. Each is an error class: `ConfigError`, `ParseError`,
`ValidationError`, `UnsupportedFeatureError`, `TemplateError` or `WriteError`. -/
inductive Report where
  /-- The input is not exactly one machine. -/
  | parse (message : Text) (details : Text := [])
  /-- The machine breaks a rule. -/
  | violation (rule : Rule) (message : Text) (identifiers : List Text := [])
  /-- No code is generated for such a machine. -/
  | unsupported (feature message : Text)
  /-- A template cannot be read or filled. -/
  | template (title message : Text) (tokens : List Text := [])
  /-- The settings cannot be used. -/
  | settings (field message : Text)
  /-- A file or directory cannot be written. -/
  | write (path message : Text) (cause : Option Text := none)
  deriving DecidableEq, Repr

/-- The exit code for a broken rule. -/
def Rule.code : Rule → Nat
  | .uniqueNames => 20
  | .knownEndStates => 21
  | .legalNames => 22

namespace Report

/-- The text of a report. -/
def text : Report → Text
  | .parse message details => if details.isEmpty then message else message ++ ": " ++ details
  | .violation _ message _ => message
  | .unsupported feature message => "Unsupported feature '" ++ feature ++ "': " ++ message
  | .template title message tokens =>
    let head := "Template '" ++ title ++ "' " ++ message
    if tokens.isEmpty then head else head ++ ": " ++ Text.join ", " tokens
  | .settings field message => "Config error in '" ++ field ++ "': " ++ message
  | .write path message cause =>
    let head := "Failed to write " ++ path ++ ": " ++ message
    match cause with
    | none => head
    | some cause => head ++ " (" ++ cause ++ ")"

/-- The exit code of a report. These are the `ExitCode`s. -/
def code : Report → Nat
  | .settings .. => 2
  | .parse .. => 10
  | .violation rule .. => rule.code
  | .unsupported .. => 30
  | .template .. => 31
  | .write .. => 40

end Report

end Transducer
