import Transducer.Document.Written
import Transducer.Log.Entry
import Transducer.Text.Utf8

/-!
# The lines of a log

The lines that a log writes for what it is told: one for every event that is severe enough and whose
fields can be passed and written, with the stage and the run of that moment.
-/

namespace Transducer.Log

open Document

/-- What a log remembers between events. These are the level and the format of `configure_logging`,
and the context variables. -/
structure Setup where
  threshold : Level := .warning
  format : Text := "text"
  stage : Text := ""
  correlation : Text := ""
  /-- The number of collections that may stand in each other in a field. -/
  room : Nat := 970
  deriving Repr

/-- A line of a log: its fields in the order of their first mention. -/
structure Line where
  level : Level
  event : Text
  /-- The format in force when the line was written. -/
  format : Text
  fields : List (Text × Value)
  deriving Repr

/-- The value of a field of a line. -/
def Line.field? (line : Line) (name : Text) : Option Value := line.fields.lookup name

/-- The fields with a value stored under a name; a name that is there keeps its place. -/
def putField (name : Text) (value : Value) : List (Text × Value) → List (Text × Value)
  | [] => [(name, value)]
  | (n, v) :: rest => if n = name then (n, value) :: rest else (n, v) :: putField name value rest

/-- The fields with a text stored under a name, unless the text is empty. -/
def putText (name text : Text) (fields : List (Text × Value)) : List (Text × Value) :=
  if text = "" then fields else putField name (.text text) fields

/-- The names of fields that the writer of lines keeps for itself: times, traces and its own notes
on the event. -/
def reserved : List Text :=
  ["timestamp", "exc_info", "stack_info", "_record", "_from_structlog"]

/-- What belongs to the line for an event: the name of the logger, then what the event carries,
which may replace it, then the level, the run and the stage, which replace what the event carries.
The run and the stage come from `add_context_info`. -/
def Setup.gathered (s : Setup) (e : Event) : List (Text × Value) :=
  let own := e.fields.filter fun field => !reserved.contains field.1
  let named := own.foldl (fun fields field => putField field.1 field.2 fields)
    (putText "logger_name" e.logger [])
  let leveled := putField "level" (.text e.level.name) (putField "event" (.text e.name) named)
  putText "stage" s.stage (putText "correlation_id" s.correlation leveled)

/-- A value as a line shows it: bytes as the text that they encode. This is `UnicodeDecoder`. -/
def decoded : Value → Value
  | .scalar (.bytes b) => .text (Text.Utf8.decodeReplacing b)
  | v => v

/-- The fields of the line for an event. -/
def Setup.fields (s : Setup) (e : Event) : List (Text × Value) :=
  (s.gathered e).map fun field => (field.1, decoded field.2)

/-- Whether a scalar can be written: it is no integer with too many digits. -/
def isShort (s : Scalar) : Bool := (s.orUnwritable []).isOk

/-- Whether a value can be written, if there is room for `room` collections that stand in each other
and the keys of mappings are of some kind. -/
def fits (isKey : Scalar → Bool) : Nat → Value → Bool
  | _, .scalar s => isShort s
  | 0, _ => false
  | room + 1, .list items => items.all (fits isKey room)
  | room + 1, .mapping entries =>
    entries.all fun entry => isKey entry.1 && isShort entry.1 && fits isKey room entry.2
  | _ + 1, .set members => members.all isShort
  | room + 1, .pair a b => fits isKey room a && fits isKey room b
  | _ + 1, .ref _ => false

/-- Whether a scalar can be the key of an object of JSON. -/
def isJsonKey : Scalar → Bool
  | .bytes _ => false
  | .date _ => false
  | .moment _ => false
  | _ => true

/-- Whether a scalar can be a key of a mapping in a line with a format. -/
def isKeyIn (format : Text) (s : Scalar) : Bool := format ≠ "json" || isJsonKey s

/-- Whether a line can be written in its format. -/
def Line.isWritable (room : Nat) (line : Line) : Bool :=
  line.fields.all fun field => fits (isKeyIn line.format) room field.2

/-- The line for an event, if it is severe enough and can be passed and written. -/
def Setup.line? (s : Setup) (e : Event) : Option Line :=
  let line : Line := ⟨e.level, e.name, s.format, s.fields e⟩
  if s.threshold.severity ≤ e.level.severity && e.isPassable && line.isWritable s.room then
    some line
  else none

/-- What the log remembers after an entry. -/
def Setup.after (s : Setup) : Entry → Setup
  | .configure level format => { s with threshold := Level.ofName level, format := format }
  | .stage name => { s with stage := name }
  | .correlation id => { s with correlation := id }
  | .identify id => { s with correlation := if s.correlation = "" then id else s.correlation }
  | .event _ => s

/-- The lines that a log writes for the entries it is told, in their order. -/
def Setup.lines (s : Setup) : List Entry → List Line
  | [] => []
  | .event e :: rest => (s.line? e).toList ++ s.lines rest
  | entry :: rest => (s.after entry).lines rest

end Transducer.Log
