import Transducer.Text.Utf8

/-!
# Names on a disk

A name is a sequence of bytes. In a text it is written in UTF-8, and a byte that belongs to no
character is written as half of a surrogate pair: the byte 0x80 as U+DC80, and so on.
-/

namespace Transducer

/-- The name of a file or directory, or several names with separators. -/
abbrev Name := List UInt8

namespace Name

/-- The place of U+DC00 among the halves of surrogate pairs. -/
def byteHalves : Nat := 0x400

/-- The half that a byte is written as. -/
def halfOf (b : UInt8) : CodePoint := .ofCode (CodePoint.firstHalf + byteHalves + b.toNat)

/-- The bytes of a code point in a name. -/
def pointBytes? : CodePoint → Option (List UInt8)
  | .char c => some (String.utf8EncodeChar c)
  | .half n =>
    let byte := n.val - byteHalves
    if 0x80 ≤ byte && byte ≤ 0xff then some [UInt8.ofNat byte] else none

/-- The name that a text spells. -/
def ofText? (text : Text) : Option Name := (text.mapM pointBytes?).map List.flatten

/-- The character that a name starts with, and the number of its bytes. -/
def char? (name : Name) : Option (Char × Nat) :=
  [1, 2, 3, 4].findSome? fun count =>
    match Text.Utf8.decode (name.take count) with
    | .ok s => s.toList.head?.map (·, count)
    | .error _ => none

/-- The text of a name of which the first `skip` bytes belong to a character before it. -/
def textFrom : Nat → Name → Text
  | _, [] => []
  | skip + 1, _ :: rest => textFrom skip rest
  | 0, b :: rest =>
    match char? (b :: rest) with
    | some (c, count) => .char c :: textFrom (count - 1) rest
    | none => halfOf b :: textFrom 0 rest

/-- The text that spells a name. -/
def text (name : Name) : Text := textFrom 0 name

/-- A path as messages show it, with the replacement character for bytes that are no UTF-8 text. -/
def displayed (path : Text) : Text := ((ofText? path).map Text.Utf8.decodeReplacing).getD path

/-- The byte between two names. -/
def separator : UInt8 := 0x2F

/-- The name of a directory in itself. -/
def self : Name := [0x2E]

/-- The name of the directory above. -/
def above : Name := [0x2E, 0x2E]

end Name

end Transducer
