import Transducer.Code.Template

/-!
# Names

A name has letters, digits and underscores, and no digit in front. The codes of these characters lie
between those of `0` and `z`, so that no blank, no line break and no brace is part of a name.
-/

namespace Transducer.Text

/-- Whether a text is a name. -/
def isName (text : Text) : Bool :=
  match text with
  | p :: rest => p.isIn Template.isNameStart && rest.all (·.isIn Template.isNamePart)
  | [] => false

/-- The codes of the characters that can start a name. -/
theorem code_of_isNameStart {c : Char} (h : Template.isNameStart c = true) :
    65 ≤ c.toNat ∧ c.toNat ≤ 122 := by
  have hval : c.val.toNat = c.toNat := rfl
  have hupper : c.isUpper = true → 65 ≤ c.val.toNat ∧ c.val.toNat ≤ 90 := of_decide_eq_true
  have hlower : c.isLower = true → 97 ≤ c.val.toNat ∧ c.val.toNat ≤ 122 := fun h =>
    (Bool.and_eq_true_iff.1 h).imp of_decide_eq_true of_decide_eq_true
  rw [Template.isNameStart, Bool.or_eq_true, decide_eq_true_eq] at h
  rcases h with h | rfl
  · rcases Bool.or_eq_true_iff.1 h with h | h
    · have hbounds := hupper h
      omega
    · have hbounds := hlower h
      omega
  · decide

/-- The codes of the characters that a name can have. -/
theorem code_of_isNamePart {c : Char} (h : Template.isNamePart c = true) :
    48 ≤ c.toNat ∧ c.toNat ≤ 122 := by
  simp only [Template.isNamePart, Char.isAlphanum, Char.isDigit, Bool.or_eq_true, Bool.and_eq_true,
    decide_eq_true_eq, ge_iff_le, UInt32.le_iff_toNat_le] at h
  rcases h with (h | ⟨h1, h2⟩) | rfl
  · have hstart := code_of_isNameStart (c := c) (by simp [Template.isNameStart, h])
    omega
  · have hval : c.val.toNat = c.toNat := rfl
    change 48 ≤ c.val.toNat at h1
    change c.val.toNat ≤ 57 at h2
    omega
  · decide

/-- A character that can start a name can also stand later in it. -/
theorem isNamePart_of_isNameStart {c : Char} (h : Template.isNameStart c = true) :
    Template.isNamePart c = true := by
  simp only [Template.isNameStart, Template.isNamePart, Char.isAlphanum, Bool.or_eq_true] at h ⊢
  rcases h with h | h
  · exact .inl (.inl h)
  · exact .inr h

/-- A character outside the codes of a name is no part of it. -/
theorem isNamePart_eq_false {c : Char} (h : c.toNat < 48 ∨ 122 < c.toNat) :
    Template.isNamePart c = false := by
  rw [Bool.eq_false_iff]
  intro hc
  have hcode := code_of_isNamePart hc
  omega

/-- All of a name are parts of a name. -/
theorem isName_all {w : Text} (h : isName w = true) :
    w.all (·.isIn Template.isNamePart) = true := by
  match w, h with
  | .half n :: rest, h => exact absurd h (by simp [isName, CodePoint.isIn])
  | .char c :: rest, h =>
    obtain ⟨hc, hrest⟩ := Bool.and_eq_true_iff.1 h
    exact Bool.and_eq_true_iff.2 ⟨isNamePart_of_isNameStart hc, hrest⟩

/-- A name is not empty, and a character starts it. -/
theorem exists_of_isName {w : Text} (h : isName w = true) :
    ∃ c rest, w = .char c :: rest ∧ Template.isNameStart c = true ∧
      rest.all (·.isIn Template.isNamePart) = true := by
  match w, h with
  | .half n :: rest, h => exact absurd h (by simp [isName, CodePoint.isIn])
  | .char c :: rest, h =>
    obtain ⟨hc, hrest⟩ := Bool.and_eq_true_iff.1 h
    exact ⟨c, rest, rfl, hc, hrest⟩

/-- A name goes on with parts of a name. -/
theorem isName_append {w v : Text} (hw : isName w = true)
    (hv : v.all (·.isIn Template.isNamePart) = true) : isName (w ++ v) = true := by
  obtain ⟨c, rest, rfl, hc, hrest⟩ := exists_of_isName hw
  rw [List.cons_append, isName, List.all_append, hrest, hv]
  simpa [CodePoint.isIn] using hc

/-- A character outside the codes of a name does not stand in one. -/
theorem not_mem_of_isName {w : Text} (h : isName w = true) {c : Char}
    (hc : c.toNat < 48 ∨ 122 < c.toNat) : .char c ∉ w := by
  intro hmem
  have hpart : Template.isNamePart c = true := List.all_eq_true.1 (isName_all h) _ hmem
  rw [isNamePart_eq_false hc] at hpart
  cases hpart

end Transducer.Text
