import Transducer.Text.Lines
import Transducer.Yaml.Failure

/-!
# Where documents come from

A text is checked as a whole before it is read. A file is fetched as the reading goes on: first two
pieces of it, then one piece after the other, and a piece is checked when it arrives. So what is
wrong far down in a file does not matter if the reading ends before.
-/

namespace Transducer.Yaml

/-- Whether the character may stand in a document. -/
def isDocumentChar (c : Char) : Bool :=
  let n := c.toNat
  n = 0x9 || n = 0xA || n = 0xD || (0x20 ≤ n && n ≤ 0x7E) || n = 0x85 ||
    (0xA0 ≤ n && n ≤ 0xFFFD) || 0x10000 ≤ n

/-- The characters of a text as far as they can be had, and why there are no more if the text does
not end there. -/
structure Source where
  chars : List Char
  wall : Option Failure := none

namespace Source

/-- A text with a character that no document may hold. -/
def unprintable : Failure := .malformed "a character that no document may hold"

/-- A text. -/
def ofText (text : String) : Source :=
  let chars := text.toList
  if chars.all isDocumentChar then ⟨chars, none⟩ else ⟨[], some unprintable⟩

/-- The number of characters in a piece of a file. -/
def pieceSize : Nat := 4096

/-- The number of bytes that are decoded at a time. -/
def blockSize : Nat := 8192

/-- The number of characters that can be had if the one with the number `n` is the first that
cannot: whole pieces, and none at all unless there are two. -/
def reach (n : Nat) : Nat :=
  let whole := n / pieceSize * pieceSize
  if whole < 2 * pieceSize then 0 else whole

/-- The number of characters whose bytes all lie among the first `room` bytes. -/
def countWithin : Nat → List Char → Nat
  | _, [] => 0
  | room, c :: rest => if c.utf8Size ≤ room then countWithin (room - c.utf8Size) rest + 1 else 0

/-- The characters in front of bytes that are no UTF-8, and how many of them are decoded before
those bytes are met. -/
def beforeFailure (bytes : List UInt8) (f : Text.Utf8.Failure) : List Char × Nat :=
  let met :=
    match f.reason with
    | .invalidStart => f.start
    | .invalidContinuation => f.start + f.length
    | .unexpectedEnd => bytes.length + blockSize
  let chars := ((Text.Utf8.decode (bytes.take f.start)).toOption.getD "").toList
  let decoded := chars.take (countWithin (met / blockSize * blockSize) chars)
  (Text.unifyBreaks chars, (Text.unifyBreaks decoded).length)

/-- A file. -/
def ofBytes (bytes : List UInt8) : Source :=
  let (chars, wall) :=
    match Text.Utf8.decode bytes with
    | .ok text => (Text.unifyBreaks text.toList, none)
    | .error f =>
      let (chars, count) := beforeFailure bytes f
      (chars, some (reach count, f))
  match chars.findIdx? (!isDocumentChar ·), wall with
  | none, none => ⟨chars, none⟩
  | some n, none => ⟨chars.take (reach n), some unprintable⟩
  | none, some (m, f) => ⟨chars.take m, some (.encoding f)⟩
  | some n, some (m, f) =>
    if reach n < m then ⟨chars.take (reach n), some unprintable⟩
    else ⟨chars.take m, some (.encoding f)⟩

end Source

end Transducer.Yaml
