import Transducer.Document.Calendar

/-!
# Timestamps

A timestamp is a date, and after it a time of day if one is given: the letter T or spaces, hours,
minutes and seconds, a fraction, and the distance from universal time.
-/

namespace Transducer.Yaml

open Document

/-- What a timestamp says, whether or not the calendar has it. -/
structure Timestamp where
  date : Date
  /-- The time of day, without a date. -/
  clock : Option (Nat × Nat × Nat × Nat × Option Int)

/-- From `least` to `most` digits at the start of a text: their value and the rest. -/
def takeNumber (least most : Nat) (text : List Char) : Option (Nat × List Char) :=
  let digits := (text.takeWhile Char.isDigit).take most
  if digits.length < least then none
  else some (digits.foldl (fun n d => n * 10 + (d.toNat - 0x30)) 0, text.drop digits.length)

/-- The text after a character it has to start with. -/
def after (c : Char) : List Char → Option (List Char)
  | first :: rest => if first = c then some rest else none
  | [] => none

/-- A fraction of a second in microseconds; digits beyond the sixth are dropped. -/
def takeFraction : List Char → Nat × List Char
  | '.' :: rest =>
    let digits := rest.takeWhile Char.isDigit
    let six := (digits ++ List.replicate 6 '0').take 6
    (six.foldl (fun n d => n * 10 + (d.toNat - 0x30)) 0, rest.drop digits.length)
  | rest => (0, rest)

/-- The distance from universal time at the end of a timestamp, in minutes. -/
def readOffset (text : List Char) : Option (Option Int) :=
  match text.dropWhile fun c => c = ' ' || c = '\t' with
  | [] => if text.isEmpty then some none else none
  | ['Z'] => some (some 0)
  | sign :: rest => do
    let negative := sign = '-'
    if sign ≠ '-' && sign ≠ '+' then none
    else
      let (hours, rest) ← takeNumber 1 2 rest
      let minutes ←
        match rest with
        | [] => some 0
        | rest => do
          let (minutes, rest) ← takeNumber 2 2 (← after ':' rest)
          if rest.isEmpty then some minutes else none
      let total : Int := (hours * 60 + minutes : Nat)
      some (some (if negative then -total else total))

/-- The time of day after a date. -/
def readClock (text : List Char) : Option (Nat × Nat × Nat × Nat × Option Int) := do
  let (hour, rest) ← takeNumber 1 2 text
  let (minute, rest) ← takeNumber 2 2 (← after ':' rest)
  let (second, rest) ← takeNumber 2 2 (← after ':' rest)
  let (microsecond, rest) := takeFraction rest
  let offset ← readOffset rest
  some (hour, minute, second, microsecond, offset)

/-- The text after what separates a date from a time of day. -/
def afterSeparator : List Char → Option (List Char)
  | c :: rest =>
    if c = 'T' || c = 't' then some rest
    else if c = ' ' || c = '\t' then some (rest.dropWhile fun c => c = ' ' || c = '\t')
    else none
  | [] => none

/-- Reads a timestamp. -/
def readTimestamp? (text : List Char) : Option Timestamp := do
  let (year, rest) ← takeNumber 4 4 text
  let (month, rest) ← takeNumber 1 2 (← after '-' rest)
  let (day, rest) ← takeNumber 1 2 (← after '-' rest)
  if rest.isEmpty then some ⟨⟨year, month, day⟩, none⟩
  else
    let clock ← readClock (← afterSeparator rest)
    some ⟨⟨year, month, day⟩, some clock⟩

/-- Whether a plain text is a timestamp: a date alone has two digits for the month and the day. -/
def isTimestamp (text : List Char) : Bool :=
  match readTimestamp? text with
  | some ⟨_, none⟩ => text.length = 10
  | some ⟨_, some _⟩ => true
  | none => false

end Transducer.Yaml
