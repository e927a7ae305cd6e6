import Transducer.Code.Block
import Transducer.Code.Bundle
import Transducer.Code.Template
import Transducer.Code.Warning

/-!
# Generated code

The header and the source for a Moore machine, made by filling two templates.
-/

namespace Transducer.Code

open Document Log

/-- The values for the header template. -/
def headerValues (name : Text) (m : Moore) : List (Text × Text) :=
  [("name", name), ("states", stateBlock m), ("inputs", fieldBlock m.inputs),
    ("outputs", fieldBlock m.outputs), ("start_state", m.start)]

/-- The values for the source template. -/
def sourceValues (name : Text) (m : Moore) : List (Text × Text) :=
  [("name", name), ("reset_outputs", resetBlock m), ("state_cases", caseBlock m)]

/-- The code of one machine. This is `GeneratedCode`. -/
structure Generated where
  header : Text
  source : Text
  deriving DecidableEq, Repr

/-- Tells the log events, in order. -/
def tellAll (events : List Event) : Logged Unit := ⟨events.map Entry.event, ()⟩

/-- The code of a Moore machine. Both templates are filled, so that the log names the missing values
of both; the header's are reported first. -/
def ofMoore (templates : Templates) (name : Text) (m : Moore) : Stage Report Generated :=
  ExceptT.mk do
    tellAll (warnings m)
    let header ← (Template.render (name ++ ".h") templates.header (headerValues name m)).run
    let source ← (Template.render (name ++ ".c") templates.source (sourceValues name m)).run
    match header, source with
    | .error e, _ => return .error e
    | .ok _, .error e => return .error e
    | .ok header, .ok source =>
      event .info loggerName "code_generated"
        [("name", .text name), ("states", .int m.states.length),
          ("transitions", .int m.transitions.length)]
      return .ok ⟨header, source⟩

/-- The code of a machine. This is the `generate` of `CGenerator`. -/
def ofMachine (templates : Templates) (name : Text) : Machine → Stage Report Generated
  | .moore m => ofMoore templates name m
  | .mealy m => do
    event .error loggerName "generation_unsupported" [("kind", .text (Machine.mealy m).kind)]
    throw (.unsupported "mealy" "C code generation is only implemented for Moore machines")

/-- The files of the code, in the order in which they are written. -/
def Generated.files (name : Text) (code : Generated) : List (Text × Text) :=
  [(name ++ ".h", code.header), (name ++ ".c", code.source)]

/-- Adds the code of a machine to the bundle at hand, file by file. An error leaves the bundle as it
is at that point. This is `generate`. -/
def generateInto (templates : Templates) (name : Text) (machine : Machine) :
    ExceptT Report (StateT Bundle Logged) Unit := do
  let code ← ExceptT.mk (StateT.lift (ofMachine templates name machine).run)
  (code.files name).forM fun file => modify fun bundle => bundle.add file.1 file.2

/-- The bundle with the code of a machine. -/
def generate (templates : Templates) (name : Text) (machine : Machine) (bundle : Bundle) :
    Stage Report Bundle :=
  ExceptT.mk do
    let (outcome, bundle) ← (generateInto templates name machine).run.run bundle
    return outcome.map fun () => bundle

end Transducer.Code
