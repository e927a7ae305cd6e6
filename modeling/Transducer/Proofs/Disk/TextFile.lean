import Transducer.Disk.TextFile
import Transducer.Proofs.Text.Utf8

/-!
# Text files

A file that can be read holds characters in UTF-8, or it holds none (`Disk.holds_of_read`). In the
one case it is read as a text, and in the other it is not.
-/

namespace Transducer.Disk

open Text.Utf8 (decode decode_flatMap decode_eq_ok_iff)

/-- A file holds some characters in UTF-8. -/
def HoldsText (d : Disk) (path : Path) (chars : List Char) : Prop :=
  d.read path.text = .ok (chars.flatMap String.utf8EncodeChar)

/-- A file holds bytes that are no characters in UTF-8, and this is what is told about them. -/
structure HoldsNoText (d : Disk) (path : Path) (bytes : List UInt8)
    (failure : Text.Utf8.Failure) : Prop where
  read : d.read path.text = .ok bytes
  invalid : ∀ chars : List Char, bytes ≠ chars.flatMap String.utf8EncodeChar
  told : decode bytes = .error failure

variable {d : Disk} {path : Path}

/-- A file that can be read holds a text or none. -/
theorem holds_of_read {bytes : List UInt8} (h : d.read path.text = .ok bytes) :
    (∃ chars, d.HoldsText path chars) ∨ ∃ failure, d.HoldsNoText path bytes failure := by
  cases hdecode : decode bytes with
  | ok s =>
    refine .inl ⟨s.toList, ?_⟩
    rw [HoldsText, h, decode_eq_ok_iff.1 hdecode]
  | error failure =>
    refine .inr ⟨failure, h, ?_, hdecode⟩
    rintro chars rfl
    cases (decode_flatMap chars).symm.trans hdecode

/-- A text is read with its line breaks unified. -/
theorem HoldsText.readText {chars : List Char} (h : d.HoldsText path chars) :
    d.readText path = .ok (String.ofList (Text.unifyBreaks chars)) := by
  unfold Disk.readText
  rw [h]
  dsimp only
  rw [decode_flatMap]
  dsimp only
  rw [String.toList_ofList]

/-- What is no text cannot be read as one. -/
theorem HoldsNoText.readText {bytes : List UInt8} {failure : Text.Utf8.Failure}
    (h : d.HoldsNoText path bytes failure) : d.readText path = .error (.encoding failure) := by
  unfold Disk.readText
  rw [h.read]
  dsimp only
  rw [h.told]

end Transducer.Disk
