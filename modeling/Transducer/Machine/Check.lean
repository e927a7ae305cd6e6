import Transducer.Log.Logged
import Transducer.Machine.Basic
import Transducer.Report
import Transducer.Text.Digit

/-!
# The rules for machines

A machine is checked against three rules in a fixed order; the first one that it breaks is reported.
-/

namespace Transducer

open Document Log

/-- What a name stands for. -/
inductive Role where
  | state
  | input
  | output
  deriving DecidableEq, Repr

/-- The name of a role. -/
def Role.name : Role → String
  | .state => "state"
  | .input => "input"
  | .output => "output"

/-- How a machine breaks a rule. -/
inductive Violation where
  /-- Names that are used more than once. -/
  | repeated (names : List Text)
  /-- End states that are no states. -/
  | unknownEnds (names : List Text)
  /-- A name that cannot be a name in the generated code. -/
  | illegal (role : Role) (name : Text)
  deriving DecidableEq, Repr

namespace Signature

/-- All names with what they stand for: states, then inputs, then outputs. These are the
`_identifier_roles`. -/
def roles (s : Signature) : List (Role × Text) :=
  s.states.map (Role.state, ·) ++ s.inputs.map (Role.input, ·) ++ s.outputs.map (Role.output, ·)

/-- All names: states, then inputs, then outputs. -/
def names (s : Signature) : List Text := s.states ++ s.inputs ++ s.outputs

end Signature

namespace Check

/-- The names of a list that are met a second time, in the order in which that happens; `seen` holds
the names met and `found` the ones met twice. -/
def repeatedFrom (seen found : List Text) : List Text → List Text
  | [] => found
  | name :: rest =>
    if seen.contains name && !found.contains name then
      repeatedFrom (name :: seen) (found ++ [name]) rest
    else repeatedFrom (name :: seen) found rest

/-- The names that a list holds more than once, by their second occurrence. -/
def repeated (names : List Text) : List Text := repeatedFrom [] [] names

/-- The end states that are no states, each once. -/
def unknownEnds (s : Signature) : List Text :=
  s.ends.eraseDups.filter fun name => !s.states.contains name

/-- Whether a name is legal: it is not empty and does not start with a digit. This is
`is_legal_identifier`. -/
def isLegal (name : Text) : Bool :=
  match name with
  | [] => false
  | first :: _ => !first.isIn Text.isDigit

/-- The violation of a rule, if there is one. The rules are those of `check_unique_elements`,
`check_end_states` and `check_legal_identifiers`. -/
def violation? (s : Signature) : Rule → Option Violation
  | .uniqueNames =>
    let names := repeated s.names
    if names.isEmpty then none else some (.repeated names)
  | .knownEndStates =>
    let names := unknownEnds s
    if names.isEmpty then none else some (.unknownEnds names)
  | .legalNames =>
    (s.roles.find? fun entry => !isLegal entry.2).map fun entry => .illegal entry.1 entry.2

/-- The names at fault. -/
def identifiers : Violation → List Text
  | .repeated names => names
  | .unknownEnds names => names
  | .illegal _ name => [name]

/-- The wording of a violation. -/
def message : Violation → Text
  | .repeated names => "Duplicate elements found: " ++ Text.join ", " names
  | .unknownEnds names => "End states not found in states: " ++ Text.join ", " names
  | .illegal role name =>
    let reason := if name.isEmpty then "must not be empty" else "must not start with a digit"
    "Illegal " ++ role.name ++ " name '" ++ name ++ "': " ++ reason

/-- The name of a rule in the log. -/
def ruleName : Rule → String
  | .uniqueNames => "unique_elements"
  | .knownEndStates => "end_states"
  | .legalNames => "legal_identifiers"

/-- What the log is told about a violation, besides the rule. -/
def details : Violation → List (Text × Value)
  | .repeated names => [("identifiers", .texts names)]
  | .unknownEnds names => [("identifiers", .texts names)]
  | .illegal role name => [("role", .text role.name), ("identifier", .text name)]

/-- The logger of the rules. -/
def loggerName : String := "pipeline.checks"

/-- Checks one rule. -/
def rule (r : Rule) (s : Signature) : Stage Report Unit := do
  match violation? s r with
  | none => event .debug loggerName "check_passed" [("check", .text (ruleName r))]
  | some v =>
    event .error loggerName "check_failed" (("check", .text (ruleName r)) :: details v)
    throw (.violation r (message v) (identifiers v))

/-- Checks rules in order, up to the first that is broken. This is `check_all`. -/
def inOrder (s : Signature) : List Rule → Stage Report Unit
  | [] => return
  | r :: rest => do
    rule r s
    inOrder s rest

/-- The rules in the order in which they are checked. -/
def rules : List Rule := [.uniqueNames, .knownEndStates, .legalNames]

/-- Checks all rules. This is `run_checks`. -/
def all (s : Signature) : Stage Report Unit := do
  event .info loggerName "running_checks"
  inOrder s rules
  event .info loggerName "checks_passed"

end Check

end Transducer
