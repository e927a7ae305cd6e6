import Transducer.Text.CodePoint

/-!
# UTF-8 text

Decoding refuses a byte sequence at the first byte that cannot continue a character, and says which
bytes are at fault.
-/

namespace Transducer.Text.Utf8

/-- Why a byte sequence is no UTF-8 text. -/
inductive Reason where
  /-- The byte starts no character. -/
  | invalidStart
  /-- The byte after the reported ones does not continue the character. -/
  | invalidContinuation
  /-- The text ends inside a character. -/
  | unexpectedEnd
  deriving DecidableEq, Repr

/-- The bytes that could not be decoded: those from `start` on, `length` of them, `first` being the
first. -/
structure Failure where
  start : Nat
  length : Nat
  first : UInt8
  reason : Reason
  deriving DecidableEq, Repr

/-- The wording of a reason. -/
def Reason.message : Reason → String
  | .invalidStart => "invalid start byte"
  | .invalidContinuation => "invalid continuation byte"
  | .unexpectedEnd => "unexpected end of data"

/-- The wording of a failure. -/
def Failure.message (f : Failure) : String :=
  let digits := Nat.toDigits 16 f.first.toNat
  let byte := String.ofList (List.replicate (2 - digits.length) '0' ++ digits)
  if f.length = 1 then
    s!"'utf-8' codec can't decode byte 0x{byte} in position {f.start}: {f.reason.message}"
  else
    let last := f.start + f.length - 1
    s!"'utf-8' codec can't decode bytes in position {f.start}-{last}: {f.reason.message}"

/-- How many bytes follow a first byte, and the least and the greatest value of the second one. -/
def lead? (b : UInt8) : Option (Nat × UInt8 × UInt8) :=
  if b < 0x80 then some (0, 0x80, 0xBF)
  else if b < 0xC2 then none
  else if b < 0xE0 then some (1, 0x80, 0xBF)
  else if b = 0xE0 then some (2, 0xA0, 0xBF)
  else if b = 0xED then some (2, 0x80, 0x9F)
  else if b < 0xF0 then some (2, 0x80, 0xBF)
  else if b = 0xF0 then some (3, 0x90, 0xBF)
  else if b = 0xF4 then some (3, 0x80, 0x8F)
  else if b < 0xF5 then some (3, 0x80, 0xBF)
  else none

/-- The payload of a first byte with the given number of bytes after it. -/
def leadBits (b : UInt8) : Nat → Nat
  | 0 => b.toNat
  | 1 => b.toNat - 0xC0
  | 2 => b.toNat - 0xE0
  | _ => b.toNat - 0xF0

/-- A character under way: where it starts, its first byte, the bytes read of it, the bytes owed,
the bounds of the next byte and the code point so far. -/
structure Pending where
  start : Nat
  first : UInt8
  read : Nat
  owed : Nat
  low : UInt8
  high : UInt8
  code : Nat

/-- Decodes the bytes from position `pos` on; `pending` is the character under way, if any. -/
def decodeFrom (pos : Nat) : Option Pending → List UInt8 → Except Failure (List Char)
  | none, [] => .ok []
  | some p, [] => .error ⟨p.start, p.read, p.first, .unexpectedEnd⟩
  | none, b :: rest =>
    match lead? b with
    | none => .error ⟨pos, 1, b, .invalidStart⟩
    | some (0, _, _) => do
      let chars ← decodeFrom (pos + 1) none rest
      return Char.ofNat b.toNat :: chars
    | some (owed, low, high) =>
      decodeFrom (pos + 1) (some ⟨pos, b, 1, owed, low, high, leadBits b owed⟩) rest
  | some p, b :: rest =>
    if b < p.low || p.high < b then .error ⟨p.start, p.read, p.first, .invalidContinuation⟩
    else
      let code := p.code * 64 + (b.toNat - 0x80)
      if p.owed = 1 then do
        let chars ← decodeFrom (pos + 1) none rest
        return Char.ofNat code :: chars
      else
        decodeFrom (pos + 1)
          (some ⟨p.start, p.first, p.read + 1, p.owed - 1, 0x80, 0xBF, code⟩) rest

/-- The text that the bytes encode. -/
def decode (bytes : List UInt8) : Except Failure String :=
  (decodeFrom 0 none bytes).map String.ofList

/-- What a first byte gives: a character, the replacement character, or a character under way. -/
def firstByte (b : UInt8) : List Char × Option Pending :=
  match lead? b with
  | none => (['\ufffd'], none)
  | some (0, _, _) => ([Char.ofNat b.toNat], none)
  | some (owed, low, high) => ([], some ⟨0, b, 1, owed, low, high, leadBits b owed⟩)

/-- What a byte after those of a character under way gives; one that does not continue the character
starts another one. -/
def nextByte (p : Pending) (b : UInt8) : List Char × Option Pending :=
  if b < p.low || p.high < b then
    let (chars, pending) := firstByte b
    ('\ufffd' :: chars, pending)
  else
    let code := p.code * 64 + (b.toNat - 0x80)
    if p.owed = 1 then ([Char.ofNat code], none)
    else ([], some ⟨p.start, p.first, p.read + 1, p.owed - 1, 0x80, 0xBF, code⟩)

/-- Decodes bytes with the replacement character for the bytes of every failure; `pending` is the
character under way, if any. -/
def replaceFrom : Option Pending → List UInt8 → List Char
  | none, [] => []
  | some _, [] => ['\ufffd']
  | pending, b :: rest =>
    let (chars, next) := pending.elim (firstByte b) fun p => nextByte p b
    chars ++ replaceFrom next rest

/-- The text that the bytes encode, with the replacement character for what encodes none. -/
def decodeReplacing (bytes : List UInt8) : Text := ofChars (replaceFrom none bytes)

/-- The bytes of a code point; half of a surrogate pair has none. -/
def pointBytes : CodePoint → List UInt8
  | .char c => String.utf8EncodeChar c
  | .half _ => []

/-- Whether every code point of a text is a character. -/
def isEncodable (text : Text) : Bool := text.all (·.isIn fun _ => true)

/-- The bytes of a text of characters. -/
def encode? (text : Text) : Option (List UInt8) :=
  if isEncodable text then some (text.flatMap pointBytes) else none

end Transducer.Text.Utf8
