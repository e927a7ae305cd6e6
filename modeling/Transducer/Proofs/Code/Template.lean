import Transducer.Code.Template
import Transducer.Proofs.Log.Outcome
import Transducer.Proofs.Text.Basic
import Transducer.Proofs.Text.Name

/-!
# Templates made of parts

A template is mostly given by its parts: texts that stand for themselves and slots for values. If no
text has two opening braces in a row or one at its end, no token starts inside it, and the pieces of
the template are those of its parts (`pieces_source`). So filling the template fills its slots
(`render_source`), and filling a template of whole lines fills its lines (`render_lines`).
-/

namespace Transducer.Template

open Log

/-- A part of a template as its author writes it. -/
inductive Part where
  /-- A text that stands for itself. -/
  | text (t : Text)
  /-- A place for the value of a name. -/
  | slot (name : Text)
  deriving DecidableEq, Repr

/-- Whether no token starts inside a text, whatever follows it: each of its opening braces has
something else behind it. -/
def isPlain : Text → Bool
  | [] => true
  | [p] => p != .char '\x7b'
  | p :: q :: rest => (p != .char '\x7b' || q != .char '\x7b') && isPlain (q :: rest)

namespace Part

/-- The text of a part in the template. -/
def source : Part → Text
  | .text t => t
  | .slot name => "\x7b\x7b" ++ name ++ "\x7d\x7d"

/-- The pieces of a part. -/
def pieces : Part → List Piece
  | .text t => t.map .literal
  | .slot name => [.token ("\x7b\x7b" ++ name ++ "\x7d\x7d") name]

/-- The text of a part with its value. -/
def fill (values : List (Text × Text)) : Part → Text
  | .text t => t
  | .slot name => (values.lookup name).getD []

/-- Whether there is a value for a part. -/
def isFilledBy (values : List (Text × Text)) : Part → Bool
  | .text _ => true
  | .slot name => (values.lookup name).isSome

/-- Whether a part is one that the template falls into. -/
def isProper : Part → Bool
  | .text t => isPlain t
  | .slot name => Text.isName name

end Part

/-! ## The pieces of a template -/

/-- A text that does not start with two opening braces does not start with a token. -/
theorem tokenAt?_of_ne {p q : CodePoint} {rest : Text}
    (h : p ≠ .char '\x7b' ∨ q ≠ .char '\x7b') : tokenAt? (p :: q :: rest) = none := by
  unfold tokenAt?
  split
  · rename_i heq
    obtain ⟨hp, heq⟩ := List.cons.inj heq
    obtain ⟨hq, -⟩ := List.cons.inj heq
    rcases h with h | h
    · exact absurd hp h
    · exact absurd hq h
  · rfl

/-- A single code point is no token. -/
theorem tokenAt?_singleton (p : CodePoint) : tokenAt? [p] = none := by
  unfold tokenAt?
  split
  · rename_i heq
    cases heq
  · rfl

/-- The pieces of a text that no token starts in are its code points. -/
theorem piecesFrom_of_isPlain {t : Text} (h : isPlain t = true) (rest : Text) :
    piecesFrom 0 (t ++ rest) = t.map .literal ++ piecesFrom 0 rest := by
  induction t with
  | nil => rfl
  | cons p t ih =>
    -- No token starts at `p`: the code point behind it may belong to the rest.
    have hnone : tokenAt? (p :: (t ++ rest)) = none := by
      cases t with
      | nil =>
        have hp : p ≠ .char '\x7b' := by simpa [isPlain] using h
        cases rest with
        | nil => exact tokenAt?_singleton p
        | cons q rest => exact tokenAt?_of_ne (.inl hp)
      | cons q t =>
        have hpq : p ≠ .char '\x7b' ∨ q ≠ .char '\x7b' := by
          simpa [isPlain] using (Bool.and_eq_true_iff.1 h).1
        exact tokenAt?_of_ne hpq
    have htail : isPlain t = true := by
      cases t with
      | nil => rfl
      | cons q t => exact (Bool.and_eq_true_iff.1 h).2
    rw [List.cons_append, piecesFrom, hnone, ih htail, List.map_cons, List.cons_append]

/-- No character of a name is blank. -/
theorem isBlank_eq_false {c : Char} (h : isNamePart c = true) : Text.isBlank c = false := by
  have hcode := Text.code_of_isNamePart h
  rw [Bool.eq_false_iff]
  intro hblank
  simp [Text.isBlank, Text.inRanges, Text.blankRanges] at hblank
  omega

/-- A slot starts with its token. -/
theorem tokenAt?_slot {name : Text} (h : Text.isName name = true) (rest : Text) :
    tokenAt? (.char '\x7b' :: .char '\x7b' :: (name ++ (.char '\x7d' :: .char '\x7d' :: rest))) =
      some (name, name.length + 4) := by
  obtain ⟨c, tail, rfl, hc, -⟩ := Text.exists_of_isName h
  have hall : ∀ p ∈ CodePoint.char c :: tail, p.isIn isNamePart = true :=
    List.all_eq_true.1 (Text.isName_all h)
  have hblank : (CodePoint.char c).isIn Text.isBlank = false :=
    isBlank_eq_false (Text.isNamePart_of_isNameStart hc)
  have hstart : (CodePoint.char c).isIn isNameStart = true := hc
  -- The name ends at the first brace, which is neither part of a name nor blank.
  have hbrace : (CodePoint.char '\x7d').isIn isNamePart = false := rfl
  have hbrace' : (CodePoint.char '\x7d').isIn Text.isBlank = false := rfl
  have htake : (CodePoint.char c :: (tail ++ (.char '\x7d' :: .char '\x7d' :: rest))).takeWhile
      (fun p => p.isIn isNamePart) = .char c :: tail := by
    rw [← List.cons_append, List.takeWhile_append_of_pos hall, List.takeWhile_cons, hbrace]
    simp
  have hdrop : (CodePoint.char c :: (tail ++ (.char '\x7d' :: .char '\x7d' :: rest))).dropWhile
      (fun p => p.isIn isNamePart) = .char '\x7d' :: .char '\x7d' :: rest := by
    rw [← List.cons_append, List.dropWhile_append_of_pos hall, List.dropWhile_cons, hbrace]
    simp
  unfold tokenAt?
  simp only [List.cons_append, List.takeWhile_cons_of_neg, List.dropWhile_cons_of_neg, hblank,
    hstart, htake, hdrop, hbrace', Bool.false_eq_true, not_false_eq_true, if_true]
  simp

/-- The code points of a token that has been read are passed. -/
theorem piecesFrom_skip (t rest : Text) : piecesFrom t.length (t ++ rest) = piecesFrom 0 rest := by
  induction t with
  | nil => rfl
  | cons p t ih => rw [List.length_cons, List.cons_append, piecesFrom, ih]

/-- The pieces of a text that starts with a part. -/
theorem piecesFrom_source {part : Part} (h : part.isProper = true) (rest : Text) :
    piecesFrom 0 (part.source ++ rest) = part.pieces ++ piecesFrom 0 rest := by
  cases part with
  | text t => exact piecesFrom_of_isPlain h rest
  | slot name =>
    have htoken := tokenAt?_slot h rest
    -- The token takes all of the slot but its first brace off the text behind it.
    have hskip := piecesFrom_skip
      (.char '\x7b' :: (name ++ [CodePoint.char '\x7d', .char '\x7d'])) rest
    have hsource : Part.source (.slot name) ++ rest = CodePoint.char '\x7b' :: .char '\x7b' ::
        (name ++ (.char '\x7d' :: .char '\x7d' :: rest)) := by
      simp [Part.source, Text.ofString, Text.ofChars]
    have htaken : (CodePoint.char '\x7b' :: .char '\x7b' ::
        (name ++ (.char '\x7d' :: .char '\x7d' :: rest))).take (name.length + 4) =
          "\x7b\x7b" ++ name ++ "\x7d\x7d" := by
      have htake : name.take (name.length + 2) = name :=
        List.take_of_length_le (Nat.le_add_right _ 2)
      simp [Text.ofString, Text.ofChars, List.take_append, htake]
    rw [hsource, piecesFrom, htoken]
    simp only [htaken, Part.pieces, List.singleton_append, List.cons.injEq, true_and]
    simpa using hskip

/-- A template falls into the pieces of its parts. -/
theorem pieces_source {parts : List Part} (h : parts.all Part.isProper = true) :
    pieces (parts.flatMap Part.source) = parts.flatMap Part.pieces := by
  unfold pieces
  induction parts with
  | nil => rfl
  | cons part parts ih =>
    obtain ⟨hpart, hparts⟩ := Bool.and_eq_true_iff.1 h
    rw [List.flatMap_cons, piecesFrom_source hpart, ih hparts, List.flatMap_cons]

/-! ## Filling a template -/

variable {values : List (Text × Text)}

/-- A part with a value has no name without one. -/
theorem isSome_of_isFilledBy {part : Part} (h : part.isFilledBy values = true) {piece : Piece}
    (hpiece : piece ∈ part.pieces) {name : Text} (hname : piece.name? = some name) :
    (values.lookup name).isSome = true := by
  cases part with
  | text t =>
    obtain ⟨p, -, rfl⟩ := List.mem_map.1 hpiece
    cases hname
  | slot slotName =>
    obtain rfl := List.mem_singleton.1 hpiece
    cases hname
    exact h

/-- A part with a value is filled with it. -/
theorem flatMap_fill_pieces {part : Part} (h : part.isFilledBy values = true) :
    part.pieces.flatMap (Piece.fill values) = part.fill values := by
  cases part with
  | text t =>
    rw [Part.pieces, List.flatMap_map, Part.fill]
    exact List.flatMap_singleton' t
  | slot name =>
    obtain ⟨value, hvalue⟩ := Option.isSome_iff_exists.1 h
    simp [Part.pieces, Piece.fill, Part.fill, hvalue]

variable {parts : List Part}

/-- A template with a value for every part has no token without one. -/
theorem unknown_source (hparts : parts.all Part.isProper = true)
    (hvalues : parts.all (Part.isFilledBy values) = true) :
    unknown values (parts.flatMap Part.source) = [] := by
  unfold unknown tokens
  rw [pieces_source hparts, List.filter_eq_nil_iff]
  intro name hname
  rw [List.mem_eraseDups, List.mem_filterMap] at hname
  obtain ⟨piece, hpiece, hname⟩ := hname
  obtain ⟨part, hpart, hpiece⟩ := List.mem_flatMap.1 hpiece
  have hsome := isSome_of_isFilledBy (List.all_eq_true.1 hvalues part hpart) hpiece hname
  obtain ⟨value, hvalue⟩ := Option.isSome_iff_exists.1 hsome
  simp [hvalue]

/-- A template with a value for every part is filled with these values. -/
theorem fill_source (hparts : parts.all Part.isProper = true)
    (hvalues : parts.all (Part.isFilledBy values) = true) :
    fill values (parts.flatMap Part.source) = parts.flatMap (Part.fill values) := by
  have hfill : ∀ part ∈ parts, part.pieces.flatMap (Piece.fill values) = part.fill values :=
    fun part hpart => flatMap_fill_pieces (List.all_eq_true.1 hvalues part hpart)
  unfold fill
  rw [pieces_source hparts, List.flatMap_assoc, List.flatMap_def, List.flatMap_def,
    List.map_congr_left hfill]

/-- Filling a template with a value for every part never fails. -/
theorem render_source (title : Text) (hparts : parts.all Part.isProper = true)
    (hvalues : parts.all (Part.isFilledBy values) = true) :
    (render title (parts.flatMap Part.source) values).outcome =
      .ok (parts.flatMap (Part.fill values)) := by
  unfold render
  rw [unknown_source hparts hvalues, fill_source hparts hvalues]
  rfl

/-! ## Templates of whole lines -/

/-- Whole lines are made of the texts of the lines, each with its line break. -/
theorem ofString_ofLines (lines : List String) :
    Text.ofString (Templates.ofLines lines) =
      (lines.map fun line => Text.ofString line ++ "\n").flatten := by
  unfold Templates.ofLines
  induction lines with
  | nil => rfl
  | cons line lines ih =>
    rw [List.map_cons, String.join_cons, Text.ofString_append, Text.ofString_append, ih,
      List.map_cons, List.flatten_cons]

/-- Filling a template that is given line by line fills its lines. -/
theorem render_lines (title : Text) {lines : List (List Part)}
    (hparts : ∀ line ∈ lines, line.all Part.isProper = true)
    (hvalues : ∀ line ∈ lines, line.all (Part.isFilledBy values) = true) :
    (render title (lines.map (List.flatMap Part.source)).flatten values).outcome =
      .ok (lines.map (List.flatMap (Part.fill values))).flatten := by
  have hproper : (lines.flatMap id).all Part.isProper = true := by
    rw [List.flatMap_id, List.all_flatten, List.all_eq_true]
    exact hparts
  have hfilled : (lines.flatMap id).all (Part.isFilledBy values) = true := by
    rw [List.flatMap_id, List.all_flatten, List.all_eq_true]
    exact hvalues
  rw [← List.flatMap_def, ← List.flatMap_def]
  have hrender := render_source title hproper hfilled
  rwa [List.flatMap_assoc, List.flatMap_assoc] at hrender

end Transducer.Template
