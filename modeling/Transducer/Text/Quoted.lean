import Transducer.Text.CodePoint
import Transducer.Text.Printable

/-!
# Quoted text

A quoted text stands between single quotes, or between double quotes when it holds a single quote
and no double one. The quote in use, the backslash and the characters that cannot be shown are
escaped, and so is half of a surrogate pair.
-/

namespace Transducer.Text

/-- The quote that surrounds characters. -/
def quoteMark (chars : List Char) : Char :=
  if chars.contains '\'' && !chars.contains '"' then '"' else '\''

/-- A number in base sixteen, filled with zeros on the left to a width. -/
def hex (width n : Nat) : List Char :=
  let digits := Nat.toDigits 16 n
  List.replicate (width - digits.length) '0' ++ digits

/-- One character inside the given quotes. -/
def quoteChar (mark c : Char) : List Char :=
  if c = mark || c = '\\' then ['\\', c]
  else if c = '\n' then ['\\', 'n']
  else if c = '\r' then ['\\', 'r']
  else if c = '\t' then ['\\', 't']
  else if isPrintable c then [c]
  else if c.toNat < 0x100 then '\\' :: 'x' :: hex 2 c.toNat
  else if c.toNat < 0x10000 then '\\' :: 'u' :: hex 4 c.toNat
  else '\\' :: 'U' :: hex 8 c.toNat

/-- One code point of a text inside the given quotes. -/
def quotePoint (mark : Char) : CodePoint → List Char
  | .char c => quoteChar mark c
  | .half n => '\\' :: 'u' :: hex 4 (CodePoint.half n).code

/-- The text in quotes. -/
def quote (text : Text) : Text :=
  let mark := quoteMark (text.map CodePoint.shown)
  ofChars (mark :: text.flatMap (quotePoint mark) ++ [mark])

/-- One byte inside the given quotes: only printable ASCII is shown as it is. -/
def quoteByte (mark : Char) (b : UInt8) : List Char :=
  if b < 0x7f then quoteChar mark (Char.ofNat b.toNat) else '\\' :: 'x' :: hex 2 b.toNat

/-- Bytes in quotes, marked with the letter b. -/
def quoteBytes (bytes : List UInt8) : String :=
  let mark := quoteMark (bytes.map fun b => Char.ofNat b.toNat)
  String.ofList ('b' :: mark :: bytes.flatMap (quoteByte mark) ++ [mark])

end Transducer.Text
