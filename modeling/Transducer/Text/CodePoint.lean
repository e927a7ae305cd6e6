/-!
# Texts

A text is a sequence of code points. Nearly all of them are characters. An escape in a document can
also name half of a surrogate pair, which is no character and has no bytes in UTF-8.
-/

namespace Transducer

/-- A code point. -/
inductive CodePoint where
  | char (c : Char)
  /-- Half of a surrogate pair, by its place among the halves. -/
  | half (n : Fin 2048)
  deriving DecidableEq, Repr

namespace CodePoint

/-- A character is a code point. -/
instance : Coe Char CodePoint := ⟨.char⟩

/-- The number of the first half of a surrogate pair. -/
def firstHalf : Nat := 0xD800

/-- The number of a code point. -/
def code : CodePoint → Nat
  | .char c => c.toNat
  | .half n => firstHalf + n

/-- The code point with a number. -/
def ofCode (code : Nat) : CodePoint :=
  if h : firstHalf ≤ code ∧ code - firstHalf < 2048 then .half ⟨code - firstHalf, h.2⟩
  else .char (Char.ofNat code)

/-- Whether the code point is a character of a class. -/
def isIn (p : Char → Bool) : CodePoint → Bool
  | .char c => p c
  | .half _ => false

/-- The character of a code point, the replacement character for half of a pair. -/
def shown : CodePoint → Char
  | .char c => c
  | .half _ => '\ufffd'

end CodePoint

/-- A text. -/
abbrev Text := List CodePoint

namespace Text

/-- Characters as a text. -/
def ofChars (chars : List Char) : Text := chars.map .char

/-- A string as a text. -/
def ofString (s : String) : Text := ofChars s.toList

/-- A string is a text without halves. -/
instance : Coe String Text := ⟨ofString⟩

/-- The characters of a text, with the replacement character for every half of a pair. -/
def shown (t : Text) : String := String.ofList (t.map CodePoint.shown)

/-- The texts of a list with a separator between any two. -/
def join (separator : Text) (texts : List Text) : Text := List.intercalate separator texts

end Text

end Transducer
