import Transducer.Number.Literal
import Transducer.Text.Base64
import Transducer.Document.Value
import Transducer.Yaml.Failure
import Transducer.Yaml.Schema

/-!
# The values of scalars

The value that a text has under a tag. A tag that was given explicitly may not fit the text.
-/

namespace Transducer.Yaml

open Document Number Text

/-- The text without its underscores. -/
def withoutLines (text : String) : List Char := text.toList.filter (· ≠ '_')

/-- The integer that a text without underscores and sign stands for. -/
def intMagnitude (text : List Char) : Except Fault Int :=
  let read (base : Nat) (digits : List Char) : Except Fault Int :=
    match readInt? base digits with
    | some i => .ok i
    | none => .error .number
  match text with
  | [] => .error .emptyNumber
  | ['0'] => .ok 0
  | '0' :: 'b' :: digits => read 2 digits
  | '0' :: 'x' :: digits => read 16 digits
  | '0' :: digits => read 8 ('0' :: digits)
  | text => do
    let places ← (splitAt ':' text).mapM (read 10)
    return places.foldl (fun total place => total * 60 + place) 0

/-- The integer of a text. -/
def readInt (text : String) : Except Fault Int :=
  match withoutLines text with
  | [] => .error .emptyNumber
  | '-' :: rest => (intMagnitude rest).map (- ·)
  | '+' :: rest => intMagnitude rest
  | rest => intMagnitude rest

/-- The sum of the places of a number in base sixty, the least place first. -/
def sumPlaces : List Binary64 → Nat → Binary64 → Except Fault Binary64
  | [], _, total => .ok total
  | place :: places, base, total =>
    match Binary64.ofNat? base with
    | some weight => sumPlaces places (base * 60) (total.add (place.mul weight))
    | none => .error .numberTooLarge

/-- The word for no number. -/
def nanWord : List Char := ['.', 'n', 'a', 'n']

/-- The floating-point number that a text without underscores and sign stands for. -/
def floatMagnitude (text : List Char) : Except Fault Binary64 :=
  let read (digits : List Char) : Except Fault Binary64 :=
    match readFloat? digits with
    | some x => .ok x
    | none => .error .number
  if text = ['.', 'i', 'n', 'f'] then .ok (.infinite false)
  else if text = nanWord then .ok .nan
  else if text.contains ':' then do
    let places ← (splitAt ':' text).mapM read
    sumPlaces places.reverse 1 (Binary64.zero false)
  else read text

/-- The floating-point number of a text. -/
def readFloat (text : String) : Except Fault Binary64 :=
  match (withoutLines text).map Char.toLower with
  | [] => .error .emptyNumber
  | '-' :: rest => (floatMagnitude rest).map Binary64.neg
  | '+' :: rest => floatMagnitude rest
  | rest => floatMagnitude rest

/-- The truth value of a word. -/
def readBool (text : String) : Except Fault Bool :=
  let word := lower text
  if word = "yes" || word = "true" || word = "on" then .ok true
  else if word = "no" || word = "false" || word = "off" then .ok false
  else .error .truthValue

/-- The date or moment of a timestamp; a line break at its end does not count. -/
def readTimestamp (text : String) : Except Fault Scalar :=
  let chars := text.toList
  let chars := if chars.getLast? = some '\n' then chars.dropLast else chars
  match readTimestamp? chars with
  | none => .error .timestamp
  | some ⟨date, none⟩ => if date.isValid then .ok (.date date) else .error .calendar
  | some ⟨date, some (hour, minute, second, microsecond, offset)⟩ =>
    let moment : Moment := ⟨date, hour, minute, second, microsecond, offset⟩
    if moment.isValid then .ok (.moment moment) else .error .calendar

/-- The bytes of a text in base 64. -/
def readBinary (text : String) : Except Failure (List UInt8) :=
  let chars := text.toList
  if chars.all (·.toNat < 0x80) then
    match Base64.decode chars with
    | some bytes => .ok bytes
    | none => .error (.malformed "binary data that ends inside a group")
  else .error (.malformed "binary data that is not ASCII")

/-- A fault as a failure to read the document. -/
def orFault (result : Except Fault α) : Except Failure α :=
  match result with
  | .ok a => .ok a
  | .error f => .error (.fault f)

/-- The value of a text under the tag of a scalar; none if it is no such tag. Only a text may hold
half of a surrogate pair. -/
def readScalar? (tag : Tag) (text : Text) : Option (Except Failure Scalar) :=
  match tag with
  | .null => some (.ok .null)
  | .bool => some (orFault ((readBool text.shown).map .bool))
  | .int => some (orFault ((readInt text.shown).map .int))
  | .float => some (orFault ((readFloat text.shown).map .float))
  | .binary => some ((readBinary text.shown).map .bytes)
  | .timestamp => some (orFault (readTimestamp text.shown))
  | .text => some (.ok (.text text))
  | _ => none

end Transducer.Yaml
