import Transducer.Text.Utf8

/-!
# Why a text is no document
-/

namespace Transducer.Yaml

/-- What is wrong with a text that follows the rules of the format: a scalar does not fit the tag it
has, or the text cannot be followed to its end. -/
inductive Fault where
  /-- A number that is no number, or has too many digits. -/
  | number
  /-- A number without any character. -/
  | emptyNumber
  /-- A number in base sixty with more places than a floating-point number can weigh. -/
  | numberTooLarge
  /-- A truth value that is no word for one. -/
  | truthValue
  /-- A time that does not have the form of one. -/
  | timestamp
  /-- A time given as a mapping. -/
  | timestampMapping
  /-- A date or time that the calendar does not have. -/
  | calendar
  /-- An escaped character beyond the last code point. -/
  | character
  /-- An escaped character beyond the greatest 32-bit integer. -/
  | characterTooLarge
  /-- A version number with too many digits. -/
  | version
  /-- A scalar given as a mapping that leads to another one, and so on without an end. -/
  | endless
  /-- Collections that stand in each other, or are merged into each other, too deep. -/
  | tooDeep
  deriving DecidableEq, Repr

/-- Why a text cannot be read. -/
inductive Failure where
  /-- The text does not follow the rules of the format. -/
  | malformed (reason : String)
  /-- The text follows the rules, but has a fault. -/
  | fault (f : Fault)
  /-- The bytes of the text are no UTF-8. -/
  | encoding (f : Text.Utf8.Failure)
  deriving DecidableEq, Repr

/-- How far a document is followed, which depends on how deep the program is in its own calls. -/
structure Room where
  /-- The number of collections that may stand in each other. -/
  nesting : Nat := 490
  /-- The number of nodes that may lead from one to the next, as scalars given by mappings or as
  mappings merged into each other. -/
  chain : Nat := 985
  deriving DecidableEq, Repr

/-- The room that is left inside a collection, given the room around it. -/
def inside : Nat → Except Failure Nat
  | 0 => .error (.fault .tooDeep)
  | room + 1 => .ok room

end Transducer.Yaml
