import Transducer.Log.Logged
import Transducer.Machine.Decode
import Transducer.Report
import Transducer.Yaml.Load

/-!
# Which machine a document describes

A document is read as a Moore machine and, independently, as a Mealy machine. Exactly one of the two
readings has to succeed.
-/

namespace Transducer.Machine

open Document Log

/-- The report for a document that is no machine. -/
def neitherMessage : String :=
  "The YAML file does not contain a Moore or a Mealy machine. Please check the syntax of the file."

/-- The report for a document that is a machine of both kinds. -/
def bothMessage : String := "The YAML file contains both a Moore and a Mealy machine."

/-- The logger of the machine reader. -/
def loggerName : String := "loader"

/-- Tells the log which machine was read. -/
def tellParsed (machine : Machine) : Logged Unit :=
  event .info loggerName "machine_parsed"
    [("kind", .text machine.kind), ("states", .int machine.signature.states.length)]

/-- The machine that data describes. This is `parse_machine`. -/
def ofData (d : Data) : Stage Report Machine := do
  match Decode.moore d, Decode.mealy d with
  | .ok _, .ok _ =>
    event .error loggerName "parse_ambiguous"
    throw (.parse bothMessage)
  | .ok m, .error _ =>
    tellParsed (.moore m)
    return .moore m
  | .error _, .ok m =>
    tellParsed (.mealy m)
    return .mealy m
  | .error notMoore, .error notMealy =>
    let reasons : List Text := ["moore: " ++ notMoore.message, "mealy: " ++ notMealy.message]
    event .error loggerName "parse_failed" [("reasons", .texts reasons)]
    throw (.parse neitherMessage (Text.join "; " reasons))

end Transducer.Machine
