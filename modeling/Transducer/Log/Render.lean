import Transducer.Document.Written
import Transducer.Log.Line

/-!
# Written lines

A line of the log is written as an object of JSON or as a line for people.
-/

namespace Transducer.Log

open Document Text

/-- A character inside a text of JSON: only printable ASCII stands for itself. -/
def jsonChar (c : Char) : List Char :=
  let unit (n : Nat) : List Char := '\\' :: 'u' :: hex 4 n
  if c = '"' || c = '\\' then ['\\', c]
  else if c = '\n' then ['\\', 'n']
  else if c = '\r' then ['\\', 'r']
  else if c = '\t' then ['\\', 't']
  else if c = '\x08' then ['\\', 'b']
  else if c = '\x0c' then ['\\', 'f']
  else if 0x20 ≤ c.toNat && c.toNat < 0x7f then [c]
  else if c.toNat < 0x10000 then unit c.toNat
  else
    let above := c.toNat - 0x10000
    unit (0xd800 + above / 0x400) ++ unit (0xdc00 + above % 0x400)

/-- A code point inside a text of JSON. -/
def jsonPoint : CodePoint → List Char
  | .char c => jsonChar c
  | .half n => '\\' :: 'u' :: hex 4 (CodePoint.half n).code

/-- A text of JSON. -/
def jsonText (text : Text) : String := String.ofList ('"' :: text.flatMap jsonPoint ++ ['"'])

/-- A scalar in JSON; what JSON does not have is written as a text. -/
def jsonScalar : Scalar → String
  | .null => "null"
  | .bool b => if b then "true" else "false"
  | .int i => Number.intText i
  | .float .nan => "NaN"
  | .float (.infinite negative) => if negative then "-Infinity" else "Infinity"
  | .float x => x.text
  | .text s => jsonText s
  | s => jsonText s.nestedText

/-- A key in JSON, which is always a text. -/
def jsonKey : Scalar → String
  | .text s => jsonText s
  | s => "\"" ++ jsonScalar s ++ "\""

mutual

/-- A value in JSON; `mark` gives the marks that the order of sets depends on. -/
def jsonValue (mark : Scalar → Int) : Value → String
  | .scalar s => jsonScalar s
  | .list items => "[" ++ ", ".intercalate (jsonItems mark items) ++ "]"
  | .mapping entries => "\x7b" ++ ", ".intercalate (jsonEntries mark entries) ++ "\x7d"
  | .set members => jsonText (Value.setText ((listed mark members).map Scalar.nestedText))
  | .pair a b => "[" ++ jsonValue mark a ++ ", " ++ jsonValue mark b ++ "]"
  | .ref _ => "null"

/-- The items of a list in JSON. -/
def jsonItems (mark : Scalar → Int) : List Value → List String
  | [] => []
  | item :: rest => jsonValue mark item :: jsonItems mark rest

/-- The entries of a mapping in JSON. -/
def jsonEntries (mark : Scalar → Int) : List (Scalar × Value) → List String
  | [] => []
  | (key, item) :: rest =>
    (jsonKey key ++ ": " ++ jsonValue mark item) :: jsonEntries mark rest

end

/-- A value in a line for people: a text as it is, all else as inside a collection. -/
def plainValue (writer : Writer) : Value → Text
  | .scalar (.text s) => s
  | v => (v.nestedText writer.mark #[] writer.room []).toOption.getD []

/-- A text filled with spaces on the right to a width. -/
def padded (width : Nat) (text : String) : String :=
  String.ofList (text.toList ++ List.replicate (width - text.length) ' ')

/-- The fields that a line for people names after the event, by their names. -/
def Line.others (line : Line) : List (Text × Value) :=
  let named : List Text := ["event", "level", "logger_name"]
  let others := line.fields.filter fun field => !named.contains field.1
  others.mergeSort fun a b => !decide (b.1.map CodePoint.code < a.1.map CodePoint.code)

/-- A line as it is written, with the time of writing, by `JSONRenderer` or `ConsoleRenderer`. -/
def Line.text (writer : Writer) (line : Line) (time : String) : String :=
  if line.format = "json" then
    let fields := line.fields ++ [(("timestamp" : Text), .text time)]
    let items := fields.map fun field => jsonText field.1 ++ ": " ++ jsonValue writer.mark field.2
    "\x7b" ++ ", ".intercalate items ++ "\x7d"
  else
    let logger := (line.field? "logger_name").toList.map fun name =>
      s!"[{(plainValue writer name).shown}]"
    let words := line.others.map fun field =>
      field.1.shown ++ "=" ++ (plainValue writer field.2).shown
    let level := padded 9 line.level.name
    " ".intercalate (time :: s!"[{level}]" :: padded 30 line.event.shown :: logger ++ words)

end Transducer.Log
