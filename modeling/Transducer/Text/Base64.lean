/-!
# Base 64

Four characters of the alphabet carry three bytes. Characters outside the alphabet are skipped, and
padding ends the text once it completes a group of four.
-/

namespace Transducer.Text.Base64

/-- The six bits that a character carries. -/
def value? (c : Char) : Option Nat :=
  if c.isUpper then some (c.toNat - 0x41)
  else if c.isLower then some (c.toNat - 0x61 + 26)
  else if c.isDigit then some (c.toNat - 0x30 + 52)
  else if c = '+' then some 62
  else if c = '/' then some 63
  else none

/-- Decodes from the middle of a group: `read` characters of it were read, `bits` holds what they
left over and `pads` counts the padding since. None if the text ends inside a group. -/
def decodeFrom (read bits pads : Nat) : List Char → Option (List UInt8)
  | [] => if read = 0 then some [] else none
  | c :: rest =>
    if c = '=' then
      if 2 ≤ read && 4 ≤ read + pads + 1 then some []
      else decodeFrom read bits (if 2 ≤ read then pads + 1 else pads) rest
    else
      match value? c with
      | none => decodeFrom read bits pads rest
      | some v =>
        match read with
        | 0 => decodeFrom 1 v 0 rest
        | 1 => (decodeFrom 2 (v % 16) 0 rest).map (UInt8.ofNat (bits * 4 + v / 16) :: ·)
        | 2 => (decodeFrom 3 (v % 4) 0 rest).map (UInt8.ofNat (bits * 16 + v / 4) :: ·)
        | _ => (decodeFrom 0 0 0 rest).map (UInt8.ofNat (bits * 64 + v) :: ·)

/-- The bytes that a text encodes. -/
def decode (text : List Char) : Option (List UInt8) := decodeFrom 0 0 0 text

end Transducer.Text.Base64
