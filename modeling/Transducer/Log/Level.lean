import Transducer.Text.CodePoint
import Transducer.Text.Lines

/-!
# Levels of severity
-/

namespace Transducer.Log

/-- How severe an event is. -/
inductive Level where
  | debug
  | info
  | warning
  | error
  | critical
  deriving DecidableEq, Repr

namespace Level

/-- The name that lines carry. -/
def name : Level → String
  | .debug => "debug"
  | .info => "info"
  | .warning => "warning"
  | .error => "error"
  | .critical => "critical"

/-- The levels in the order of their severity. -/
def severity : Level → Nat
  | .debug => 0
  | .info => 1
  | .warning => 2
  | .error => 3
  | .critical => 4

/-- The names under which a threshold can be chosen, with their levels. This is the `LEVEL_MAP`. -/
def choices : List (String × Level) :=
  [("debug", .debug), ("info", .info), ("warn", .warning), ("warning", .warning),
    ("error", .error)]

/-- The level chosen by a name in any case. -/
def ofName? (name : Text) : Option Level := choices.lookup (Text.lower name.shown)

/-- The level chosen by a name; an unknown name chooses warnings. -/
def ofName (name : Text) : Level := (ofName? name).getD .warning

end Level

end Transducer.Log
