import Transducer.Main
import Transducer.Proofs.Machine.Pruning
import Transducer.Proofs.Machine.Reading
import Transducer.Proofs.Log.Outcome
import Transducer.Outcome
import Transducer.Machine.Encode
import Transducer.Proofs.Machine.Verdict
import Transducer.Proofs.Machine.RoundTrip
import Transducer.Proofs.Machine.SameData
import Transducer.Proofs.Machine.Codec
import Transducer.Proofs.Machine.FirstDefect
import Transducer.Proofs.C.Token
import Transducer.Proofs.C.Syntax
import Transducer.Proofs.C.Unit
import Transducer.Proofs.C.Meaning
import Transducer.Proofs.Code.Behaviour
import Transducer.Proofs.Code.Determined
import Transducer.Proofs.Machine.Rules
import Transducer.Proofs.Machine.Repetition
import Transducer.Proofs.Code.Substitution
import Transducer.Proofs.Code.Generation
import Transducer.Proofs.Code.Emission
import Transducer.Proofs.Code.Warning
import Transducer.Proofs.Code.Declared
import Transducer.Proofs.Disk.Lookup
import Transducer.Proofs.Disk.Replaced
import Transducer.Proofs.Disk.Route
import Transducer.Proofs.Disk.Directories
import Transducer.Proofs.Code.Stored
import Transducer.Proofs.Text.Utf8
import Transducer.Proofs.Disk.Spelling
import Transducer.Proofs.CommandLine.Arguments
import Transducer.Proofs.CommandLine.Build
import Transducer.Proofs.CommandLine.Effect
import Transducer.Proofs.Log.Trace
import Transducer.Proofs.Log.Timing
import Transducer.Proofs.CommandLine.Phases
import Transducer.Proofs.CommandLine.Templates
import Transducer.Proofs.CommandLine.Agreement
import Transducer.Proofs.CommandLine.ExitCode
import Transducer.Proofs.Yaml.Implicit
import Transducer.Proofs.Yaml.Plain
import Transducer.Proofs.Yaml.Schema
import Transducer.Proofs.Yaml.Strict
import Transducer.Proofs.CommandLine.Timing
import Transducer.Proofs.Code.Leftover
import Transducer.Proofs.Code.Identifier
import Transducer.Proofs.Disk.Resolution
import Transducer.Proofs.Disk.TextFile
import Transducer.Proofs.CommandLine.Usable
