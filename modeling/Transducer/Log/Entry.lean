import Transducer.Log.Level
import Transducer.Document.Value

/-!
# What is told to the log

Besides events, a log is told which stage is running, which run it belongs to, and how it has to be
written from now on. The calls are those of `configure_logging`, `set_stage`, `get_correlation_id`
and the loggers.
-/

namespace Transducer.Log

open Document

/-- Something that happened. -/
structure Event where
  level : Level
  /-- The part of the program that tells it; an empty name is none. -/
  logger : Text
  name : Text
  fields : List (Text × Value) := []
  deriving Repr

/-- The names of the parameters of a logger. -/
def parameters : List Text := ["self", "method_name", "event"]

/-- Whether a logger takes an event: no field can be passed under the name of a parameter. -/
def Event.isPassable (e : Event) : Bool := e.fields.all fun field => !parameters.contains field.1

/-- One thing that is told to the log. -/
inductive Entry where
  /-- From now on only events of the chosen level are written, in the given format. -/
  | configure (level format : Text)
  /-- The stage that runs from now on. -/
  | stage (name : Text)
  /-- The run that the following events belong to. -/
  | correlation (id : Text)
  /-- The run that the following events belong to, unless one is known already. -/
  | identify (id : Text)
  | event (e : Event)
  deriving Repr

/-- The end of a stage and the time it took in seconds, to the thousandth. This is
`log_stage_timing`. -/
def Event.timing (stage : Text) (seconds : Number.Binary64) : Event where
  level := .info
  logger := "timing"
  name := "stage_completed"
  fields :=
    [("stage", .text stage), ("duration_seconds", .scalar (.float seconds.roundThousandths))]

end Transducer.Log
