import Transducer.Disk.Basic
import Transducer.Document.Written
import Transducer.Report
import Transducer.Yaml.Failure

/-!
# Why a run stops

A run that cannot go on either has a report for its user or met something that no report covers.
-/

namespace Transducer

/-- What no report covers. These are the exceptions that only `main` catches. -/
inductive Defect where
  /-- A document has a fault. -/
  | document (fault : Yaml.Fault)
  /-- The settings are no UTF-8 text. -/
  | encoding (failure : Text.Utf8.Failure)
  /-- A value cannot be written. -/
  | unwritable (why : Document.Unwritable)
  /-- The disk refused a look-up, or a path that it cannot spell. -/
  | disk (e : DiskError)
  /-- A text to be written holds half of a surrogate pair. -/
  | unencodable
  /-- The output does not take a text that is printed. -/
  | unprintable
  deriving DecidableEq, Repr

/-- Why a run stops before its end. -/
inductive Halt where
  | report (r : Report)
  | defect (d : Defect)
  deriving DecidableEq, Repr

/-- A description of a defect for the log. -/
def Defect.message : Defect → Text
  | .document .tooDeep => "collections stand in each other too deep"
  | .document _ => "a scalar does not fit its tag"
  | .encoding failure => failure.message
  | .unwritable .longInteger => "an integer has too many digits to be written"
  | .unwritable .tooDeep => "collections stand in each other too deep to be written"
  | .disk e => e.message
  | .unencodable => "half of a surrogate pair has no bytes in UTF-8"
  | .unprintable => "the output has no bytes for a character"

/-- What becomes of a refused operation that a report is at hand for. -/
def DiskError.halt (e : DiskError) (r : Report) : Halt :=
  if e.refusal.isReported then .report r else .defect (.disk e)

end Transducer
