import Mathlib.Data.List.Induction
import Transducer.Proofs.Disk.Lookup

/-!
# Paths and the names that spell them

A path is looked up by its text, cut at the separators into the bytes of its names. The last name of
a proper path is cut off the text of its parent, so that the place of the path is found in the place
of the parent (`slot_text`, `locate_text`).
-/

namespace Transducer

/-! ## Bytes of texts -/

namespace Name

/-- The bytes of two texts in a row. -/
theorem ofText?_append_eq_some {s t : Text} {bytes : Name} :
    ofText? (s ++ t) = some bytes ↔
      ∃ a b, ofText? s = some a ∧ ofText? t = some b ∧ bytes = a ++ b := by
  unfold ofText?
  rw [List.mapM_append]
  cases s.mapM pointBytes? with
  | none => simp
  | some a =>
    cases t.mapM pointBytes? with
    | none => simp
    | some b => simp [eq_comm]

/-- The bytes of a text with a code point in front. -/
theorem ofText?_cons_eq_some {p : CodePoint} {t : Text} {bytes : Name} :
    ofText? (p :: t) = some bytes ↔
      ∃ a b, pointBytes? p = some a ∧ ofText? t = some b ∧ bytes = a ++ b := by
  have hsingle : ofText? [p] = pointBytes? p := by
    unfold ofText?
    cases h : pointBytes? p with
    | none => simp [List.mapM_cons, h]
    | some a => simp [List.mapM_cons, h]
  rw [← List.singleton_append, ofText?_append_eq_some, hsingle]

/-- A byte below 128 is the whole of a character, that with the same code. -/
theorem toNat_eq_of_mem_utf8EncodeChar {c : Char} {b : UInt8} (h : b ∈ String.utf8EncodeChar c)
    (hb : b.toNat < 0x80) : c.toNat = b.toNat := by
  have hc : c.val.toNat < 0x110000 := by
    have hvalid := c.valid
    unfold UInt32.isValidChar Nat.isValidChar at hvalid
    omega
  have hbyte : ∀ n, n < 256 → b = UInt8.ofNat n → b.toNat = n := by
    intro n hn heq
    rw [heq, UInt8.toNat_ofNat_of_lt' hn]
  -- A longer character has only bytes with the highest bit.
  unfold String.utf8EncodeChar at h
  dsimp only at h
  split at h
  · exact (hbyte _ (by omega) (List.mem_singleton.1 h)).symm
  · split at h
    · simp only [List.mem_cons, List.not_mem_nil, or_false] at h
      rcases h with h | h <;> have := hbyte _ (by omega) h <;> omega
    · split at h
      · simp only [List.mem_cons, List.not_mem_nil, or_false] at h
        rcases h with h | h | h <;> have := hbyte _ (by omega) h <;> omega
      · simp only [List.mem_cons, List.not_mem_nil, or_false] at h
        rcases h with h | h | h | h <;> have := hbyte _ (by omega) h <;> omega

/-- A code point has at least one byte. -/
theorem ne_nil_of_pointBytes? {p : CodePoint} {bytes : List UInt8}
    (h : pointBytes? p = some bytes) : bytes ≠ [] := by
  cases p with
  | char c =>
    obtain rfl := Option.some.inj h
    unfold String.utf8EncodeChar
    dsimp only
    split
    · simp
    · split
      · simp
      · split <;> simp
  | half n =>
    simp only [pointBytes?] at h
    split at h
    · obtain rfl := Option.some.inj h
      simp
    · cases h

/-- A byte below 128 is that of the character with its code. -/
theorem eq_char_of_pointBytes? {p : CodePoint} {bytes : List UInt8}
    (h : pointBytes? p = some bytes) {b : UInt8} (hmem : b ∈ bytes) (hb : b.toNat < 0x80) :
    p = .char (Char.ofNat b.toNat) := by
  cases p with
  | char c =>
    obtain rfl := Option.some.inj h
    rw [← toNat_eq_of_mem_utf8EncodeChar hmem hb, Char.ofNat_toNat]
  | half n =>
    simp only [pointBytes?] at h
    split at h
    · rename_i hbounds
      obtain rfl := Option.some.inj h
      rw [Bool.and_eq_true, decide_eq_true_eq, decide_eq_true_eq] at hbounds
      have hbyte := congrArg UInt8.toNat (List.mem_singleton.1 hmem)
      rw [UInt8.toNat_ofNat_of_lt' (Nat.lt_succ_of_le hbounds.2)] at hbyte
      omega
    · cases h

/-- A byte below 128 of a text is that of a character in the text. -/
theorem char_mem_of_ofText? {t : Text} {bytes : Name} (h : ofText? t = some bytes) {b : UInt8}
    (hmem : b ∈ bytes) (hb : b.toNat < 0x80) : CodePoint.char (Char.ofNat b.toNat) ∈ t := by
  induction t generalizing bytes with
  | nil =>
    obtain rfl : [] = bytes := by simpa [ofText?] using h
    simp at hmem
  | cons p t ih =>
    obtain ⟨first, rest, hfirst, hrest, rfl⟩ := ofText?_cons_eq_some.1 h
    rcases List.mem_append.1 hmem with hmem | hmem
    · rw [eq_char_of_pointBytes? hfirst hmem hb]
      exact List.mem_cons_self
    · exact List.mem_cons_of_mem _ (ih hrest hmem)

/-- A text without a separator has no byte of one. -/
theorem separator_not_mem {t : Text} {bytes : Name} (h : ofText? t = some bytes)
    (ht : Path.separator ∉ t) : separator ∉ bytes :=
  fun hmem => ht (char_mem_of_ofText? h hmem (by decide))

/-- A separator is spelt by its own byte. -/
theorem ofText?_separator_cons {t : Text} {bytes : Name} :
    ofText? (Path.separator :: t) = some bytes ↔
      ∃ rest, ofText? t = some rest ∧ bytes = separator :: rest := by
  have hbyte : pointBytes? Path.separator = some [separator] := rfl
  rw [ofText?_cons_eq_some, hbyte]
  constructor
  · rintro ⟨a, rest, ha, hrest, rfl⟩
    obtain rfl := Option.some.inj ha
    exact ⟨rest, hrest, rfl⟩
  · rintro ⟨rest, hrest, rfl⟩
    exact ⟨_, rest, rfl, hrest, rfl⟩

/-- A text that is not empty has bytes. -/
theorem ne_nil_of_ofText? {t : Text} {bytes : Name} (h : ofText? t = some bytes) (ht : t ≠ []) :
    bytes ≠ [] := by
  obtain ⟨p, t, rfl⟩ := List.exists_cons_of_ne_nil ht
  obtain ⟨a, b, ha, -, rfl⟩ := ofText?_cons_eq_some.1 h
  simp [ne_nil_of_pointBytes? ha]

end Name

/-! ## Words between separators -/

namespace Text

variable {α : Type} [DecidableEq α] {separator : α}

/-- A text without a separator is one word. -/
theorem splitAt_of_not_mem {text : List α} (h : separator ∉ text) :
    splitAt separator text = [text] := by
  induction text with
  | nil => rfl
  | cons c rest ih =>
    obtain ⟨hc, hrest⟩ := not_or.1 (List.mem_cons.not.1 h)
    rw [splitAt, if_neg (fun heq => hc heq.symm), ih hrest]

/-- There is no word before a separator at the front. -/
theorem splitAt_separator_cons (rest : List α) :
    splitAt separator (separator :: rest) = [] :: splitAt separator rest := by
  rw [splitAt, if_pos rfl]

/-- The words on both sides of a separator. -/
theorem splitAt_append (a b : List α) :
    splitAt separator (a ++ separator :: b) = splitAt separator a ++ splitAt separator b := by
  induction a with
  | nil => simp [splitAt]
  | cons c a ih =>
    rw [List.cons_append, splitAt, splitAt, ih]
    split
    · rfl
    · obtain ⟨word, words, hwords⟩ := List.exists_cons_of_ne_nil (Disk.splitAt_ne_nil separator a)
      rw [hwords]
      rfl

end Text

/-! ## Paths -/

namespace Path

/-- The names of a proper path are not empty and hold no separator. -/
def Proper (p : Path) : Prop := ∀ part ∈ p.parts, part ≠ [] ∧ separator ∉ part

/-- The words of a text hold no separator. -/
theorem separator_not_mem_splitAt {text word : Text} (h : word ∈ Text.splitAt separator text) :
    separator ∉ word := by
  induction text generalizing word with
  | nil =>
    obtain rfl := List.mem_singleton.1 h
    simp
  | cons c rest ih =>
    rw [Text.splitAt] at h
    split at h
    · rcases List.mem_cons.1 h with rfl | h
      · simp
      · exact ih h
    · rename_i hc
      obtain ⟨first, words, hwords⟩ :=
        List.exists_cons_of_ne_nil (Disk.splitAt_ne_nil separator rest)
      rw [hwords] at h ih
      rcases List.mem_cons.1 h with rfl | h
      · rw [List.mem_cons, not_or]
        exact ⟨fun heq => hc heq.symm, ih List.mem_cons_self⟩
      · exact ih (List.mem_cons_of_mem _ h)

/-- A path that is read from a text is proper. -/
theorem ofText_proper (text : Text) : (ofText text).Proper := by
  intro part hpart
  obtain ⟨hmem, hne⟩ := List.mem_filter.1 hpart
  rw [Bool.and_eq_true, decide_eq_true_eq] at hne
  exact ⟨hne.1, separator_not_mem_splitAt hmem⟩

/-- Two proper paths make a proper path. -/
theorem join_proper {p q : Path} (hp : p.Proper) (hq : q.Proper) : (p.join q).Proper := by
  unfold join
  split
  · exact hq
  · intro part hpart
    rcases List.mem_append.1 hpart with h | h
    · exact hp part h
    · exact hq part h

/-- The path up to its n-th name. -/
def upTo (p : Path) (n : Nat) : Path := { p with parts := p.parts.take n }

/-- A path goes up to its last name. -/
theorem upTo_length (p : Path) : p.upTo p.parts.length = p := by
  rw [upTo, List.take_length]

/-- The parent of a path goes up to the name before the last. -/
theorem parent_eq_upTo (p : Path) : p.parent = p.upTo (p.parts.length - 1) := by
  rw [parent, upTo, List.dropLast_eq_take]

/-- What is on the way to the parent is on the way to the path. -/
theorem upTo_parent (p : Path) (n : Nat) :
    p.parent.upTo n = p.upTo (min n (p.parts.length - 1)) := by
  rw [parent_eq_upTo, upTo, upTo, upTo, List.take_take]

/-- The parent of a proper path is proper. -/
theorem parent_proper {p : Path} (h : p.Proper) : p.parent.Proper :=
  fun part hpart => h part (List.dropLast_subset _ hpart)

/-- A proper path is spelt by its parent, a separator and its name, if its parent has names. -/
theorem text_concat {root : Root} {parts : List Text} {part : Text} (h : parts ≠ []) :
    (⟨root, parts ++ [part]⟩ : Path).text =
      (⟨root, parts⟩ : Path).text ++ separator :: part := by
  have hjoin : ∀ words : List Text, words ≠ [] →
      Text.join "/" (words ++ [part]) = Text.join "/" words ++ separator :: part := by
    intro words hwords
    obtain ⟨word, rest, rfl⟩ := List.exists_cons_of_ne_nil hwords
    clear hwords
    unfold Text.join
    induction rest generalizing word with
    | nil => simp [List.intercalate, Text.ofString, Text.ofChars, separator]
    | cons next rest ih =>
      have htail := ih next
      simp only [List.intercalate, List.intersperse, List.cons_append, List.flatten_cons] at htail ⊢
      rw [htail]
      simp
  have hempty : parts.isEmpty = false := by simpa using h
  unfold text
  dsimp only
  rw [hempty, hjoin parts h]
  simp

/-- A path with one name is spelt by its root and the name. -/
theorem text_singleton (root : Root) (part : Text) :
    (⟨root, [part]⟩ : Path).text = rootText root ++ part := by
  simp [text, Text.join, List.intercalate]

/-- The text of a proper path is not empty. -/
theorem text_ne_nil {p : Path} (h : p.Proper) : p.text ≠ [] := by
  obtain ⟨root, parts⟩ := p
  induction parts using List.reverseRecOn with
  | nil => cases root <;> decide
  | append_singleton parts part ih =>
    by_cases hparts : parts = []
    · subst hparts
      have hpart := (h part (by simp)).1
      cases root <;> simp [text, rootText, Text.join, List.intercalate, hpart]
    · rw [text_concat hparts]
      simp

end Path

namespace Disk

open Outcome (bind_eq_ok_iff)

/-- The name of a path with one name follows those of the root, which has a name of the same
directory behind them. -/
theorem route_singleton {d : Disk} {root : Root} {last : Text}
    (hlast : Path.separator ∉ last) {start : Location} {names : List Name}
    (h : d.route (⟨root, [last]⟩ : Path).text = .ok (start, names)) :
    ∃ name before dot, Name.ofText? last = some name ∧ names = before ++ [name] ∧
      d.route (⟨root, []⟩ : Path).text = .ok (start, before ++ [dot]) ∧
      (dot = [] ∨ dot = Name.self) := by
  rw [Path.text_singleton] at h
  obtain ⟨bytes, hbytes, -, -, -, hstart, hnames⟩ := route_eq_ok_iff.1 h
  -- Before the name there are as many separators as the root has, each with an empty name.
  cases root with
  | here =>
    have hsep := Name.separator_not_mem hbytes hlast
    have hhead : bytes.head? ≠ some Name.separator :=
      fun hhead => hsep (List.mem_of_mem_head? hhead)
    rw [if_neg hhead] at hstart
    rw [Text.splitAt_of_not_mem hsep] at hnames
    exact ⟨bytes, [], Name.self, hbytes, hnames, by rw [hstart]; rfl, .inr rfl⟩
  | top =>
    obtain ⟨name, hname, rfl⟩ := Name.ofText?_separator_cons.1 hbytes
    have hsep := Name.separator_not_mem hname hlast
    rw [Text.splitAt_separator_cons, Text.splitAt_of_not_mem hsep] at hnames
    exact ⟨name, [[]], [], hname, hnames, by rw [hstart]; rfl, .inl rfl⟩
  | doubleTop =>
    obtain ⟨rest, hrest, rfl⟩ := Name.ofText?_separator_cons.1 hbytes
    obtain ⟨name, hname, rfl⟩ := Name.ofText?_separator_cons.1 hrest
    have hsep := Name.separator_not_mem hname hlast
    rw [Text.splitAt_separator_cons, Text.splitAt_separator_cons,
      Text.splitAt_of_not_mem hsep] at hnames
    exact ⟨name, [[], []], [], hname, hnames, by rw [hstart]; rfl, .inl rfl⟩

/-- The last name of a path with more than one name follows the names of its parent. -/
theorem route_concat {d : Disk} {root : Root} {init : List Text} {last : Text}
    (hproper : (⟨root, init⟩ : Path).Proper) (hinit : init ≠ []) (hlast : Path.separator ∉ last)
    {start : Location} {names : List Name}
    (h : d.route (⟨root, init ++ [last]⟩ : Path).text = .ok (start, names)) :
    ∃ name before, Name.ofText? last = some name ∧ names = before ++ [name] ∧
      d.route (⟨root, init⟩ : Path).text = .ok (start, before) := by
  obtain ⟨bytes, hbytes, hnull, -, hle, hstart, hnames⟩ := route_eq_ok_iff.1 h
  -- The text of the parent is a start of the text of the path, up to a separator.
  rw [Path.text_concat hinit] at hbytes
  obtain ⟨above, behind, habove, hbehind, rfl⟩ := Name.ofText?_append_eq_some.1 hbytes
  obtain ⟨name, hname, rfl⟩ := Name.ofText?_separator_cons.1 hbehind
  have hsep := Name.separator_not_mem hname hlast
  have hne : above ≠ [] := Name.ne_nil_of_ofText? habove (Path.text_ne_nil hproper)
  rw [Text.splitAt_append, Text.splitAt_of_not_mem hsep] at hnames
  refine ⟨name, Text.splitAt Name.separator above, hname, hnames, ?_⟩
  refine route_eq_ok_iff.2
    ⟨above, habove, fun hmem => hnull (List.mem_append_left _ hmem), hne, ?_, ?_, rfl⟩
  · rw [List.length_append] at hle
    omega
  · obtain ⟨first, rest, rfl⟩ := List.exists_cons_of_ne_nil hne
    exact hstart

/-- The last name of a proper path follows the names of its parent, which may have a name of the
same directory behind them. -/
theorem route_parent {d : Disk} {p : Path} (hp : p.Proper) (hparts : p.parts ≠ [])
    {start : Location} {names : List Name} (h : d.route p.text = .ok (start, names)) :
    ∃ name before above, Name.ofText? p.name = some name ∧ names = before ++ [name] ∧
      d.route p.parent.text = .ok (start, above) ∧
      (above = before ∨ ∃ dot, (dot = [] ∨ dot = Name.self) ∧ above = before ++ [dot]) := by
  obtain ⟨root, parts⟩ := p
  obtain ⟨init, last, rfl⟩ : ∃ init last, parts = init ++ [last] :=
    ⟨_, _, (List.dropLast_concat_getLast hparts).symm⟩
  have hlast : Path.separator ∉ last := (hp last (by simp)).2
  have hname : (⟨root, init ++ [last]⟩ : Path).name = last := by simp [Path.name]
  have hparent : (⟨root, init ++ [last]⟩ : Path).parent = ⟨root, init⟩ := by simp [Path.parent]
  rw [hname, hparent]
  by_cases hinit : init = []
  · subst hinit
    obtain ⟨name, before, dot, hbytes, hnames, habove, hdot⟩ := route_singleton hlast h
    exact ⟨name, before, _, hbytes, hnames, habove, .inr ⟨dot, hdot, rfl⟩⟩
  · have hproper : (⟨root, init⟩ : Path).Proper := fun part hpart => hp part (by simp [hpart])
    obtain ⟨name, before, hbytes, hnames, habove⟩ := route_concat hproper hinit hlast h
    exact ⟨name, before, before, hbytes, hnames, habove, .inl rfl⟩

/-- What follows a walk is refused outside of directories, so that it does not matter whether the
walk ends with a name of the same directory. -/
theorem walk_bind_of_dot {β : Type} {d : Disk} (start : Location) {before above : List Name}
    (h : above = before ∨ ∃ dot, (dot = [] ∨ dot = Name.self) ∧ above = before ++ [dot])
    {f : Location → Except Refusal β}
    (hf : ∀ l, d.isDirectoryAt l = false → f l = .error .notDirectory) :
    (d.walk start above >>= f) = (d.walk start before >>= f) := by
  rcases h with rfl | ⟨dot, hdot, rfl⟩
  · rfl
  · rw [walk_concat]
    cases d.walk start before with
    | error refusal => rfl
    | ok l =>
      change (d.step l dot >>= f) = f l
      cases hdir : d.isDirectoryAt l with
      | false =>
        rw [hf l hdir]
        simp [step, hdir, bind, Except.bind]
      | true =>
        have hstep : d.step l dot = .ok l := by
          rcases hdot with rfl | rfl
          · simp [step, hdir]
          · simp [step, hdir]
        rw [hstep]
        rfl

/-- The place for a path is in the place of its parent, and so is what the path leads to. -/
theorem slot_text {d : Disk} {p : Path} (hp : p.Proper) (hparts : p.parts ≠ [])
    {way : Location × List Name} (h : d.route p.text = .ok way) :
    ∃ name, Name.ofText? p.name = some name ∧
      d.slot p.text = (d.locate p.parent.text >>= fun l => d.slotIn l name) ∧
      d.locate p.text = (d.locate p.parent.text >>= fun l => d.step l name) := by
  obtain ⟨start, names⟩ := way
  obtain ⟨name, before, above, hname, rfl, habove, hdot⟩ := route_parent hp hparts h
  have hlocate : d.locate p.parent.text = d.walk start above := by
    unfold locate
    rw [habove]
    rfl
  refine ⟨name, hname, ?_, ?_⟩
  · have hslot : d.slot p.text = (d.walk start before >>= fun l => d.slotIn l name) := by
      unfold slot
      rw [h]
      change (d.walk start (before ++ [name]).dropLast >>= fun l =>
        d.slotIn l ((before ++ [name]).getLast?.getD [])) = _
      rw [List.dropLast_concat, List.getLast?_concat]
      rfl
    rw [hslot, hlocate, walk_bind_of_dot start hdot]
    intro l hl
    simp [slotIn, hl]
  · have hwalk : d.locate p.text = (d.walk start before >>= fun l => d.step l name) := by
      unfold locate
      rw [h, ← walk_concat]
      rfl
    rw [hwalk, hlocate, walk_bind_of_dot start hdot]
    intro l hl
    simp [step, hl]

end Disk

end Transducer
