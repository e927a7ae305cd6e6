import Transducer.Text.CodePoint

/-!
# Strings as texts
-/

namespace Transducer.Text

/-- A string made of characters, as a text. A string literal is such a string, so that rewriting
with this equation spells it out. -/
theorem ofString_ofList (chars : List Char) :
    ofString (String.ofList chars) = chars.map CodePoint.char := by
  simp [ofString, ofChars]

/-- The text of two strings in a row. -/
@[simp]
theorem ofString_append (s t : String) : ofString (s ++ t) = ofString s ++ ofString t := by
  simp [ofString, ofChars]

/-- Different strings are different texts. -/
@[simp]
theorem ofString_inj {s t : String} : ofString s = ofString t ↔ s = t := by
  constructor
  · intro h
    have hchars : s.toList = t.toList :=
      (List.map_inj_right fun _ _ hab => CodePoint.char.inj hab).1 h
    exact String.toList_inj.1 hchars
  · rintro rfl
    rfl

/-- Comparing texts of strings compares the strings. -/
@[simp]
theorem ofString_beq (s t : String) : (ofString s == ofString t) = (s == t) := by
  rw [Bool.eq_iff_iff]
  simp

end Transducer.Text
