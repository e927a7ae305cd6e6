import Transducer.Proofs.Disk.Replaced
import Transducer.Proofs.Disk.Route
import Transducer.Proofs.Text.Utf8

/-!
# Paths that can be spelt

A text can be looked up on a disk if each of its code points has bytes and none is the null
character. Whatever is refused for such a path is about the state of the disk. The path of a
temporary file can be spelt if that of its target can, since the text of a name spells again
(`spellable_temporary`).
-/

namespace Transducer

open Outcome (bind_eq_ok_iff bind_eq_error_iff)

/-- A code point with bytes that is not the null character. -/
def CodePoint.IsSpelt (p : CodePoint) : Prop :=
  (Name.pointBytes? p).isSome = true ∧ p ≠ .char '\x00'

namespace Text

/-- Every code point of the text can stand in a name. -/
def Spellable (t : Text) : Prop := ∀ p ∈ t, p.IsSpelt

/-- Two texts in a row can be spelt if both can. -/
theorem spellable_append {s t : Text} : Spellable (s ++ t) ↔ Spellable s ∧ Spellable t :=
  List.forall_mem_append

/-- A string without the null character can be spelt. -/
theorem spellable_ofString {s : String} (h : '\x00' ∉ s.toList) : Spellable (ofString s) := by
  intro p hp
  obtain ⟨c, hc, rfl⟩ := List.mem_map.1 hp
  exact ⟨rfl, fun heq => h (CodePoint.char.inj heq ▸ hc)⟩

/-- A text can be spelt if it has bytes and none of them is null. -/
theorem spellable_of_ofText? {t : Text} {bytes : Name} (h : Name.ofText? t = some bytes)
    (hnull : 0 ∉ bytes) : Spellable t := by
  induction t generalizing bytes with
  | nil => exact fun p hp => nomatch hp
  | cons p t ih =>
    obtain ⟨first, rest, hfirst, hrest, rfl⟩ := Name.ofText?_cons_eq_some.1 h
    have hrest_null : 0 ∉ rest := fun hmem => hnull (List.mem_append_right _ hmem)
    rintro q (_ | ⟨_, hq⟩)
    · refine ⟨by rw [hfirst]; rfl, ?_⟩
      rintro rfl
      obtain rfl := Option.some.inj hfirst
      exact hnull (List.mem_append_left _ (by decide))
    · exact ih hrest hrest_null q hq

/-- A text has bytes if each of its code points has. -/
theorem exists_ofText? {t : Text} (h : ∀ p ∈ t, (Name.pointBytes? p).isSome = true) :
    ∃ bytes, Name.ofText? t = some bytes := by
  induction t with
  | nil => exact ⟨[], rfl⟩
  | cons p t ih =>
    obtain ⟨rest, hrest⟩ := ih fun q hq => h q (List.mem_cons_of_mem _ hq)
    obtain ⟨first, hfirst⟩ := Option.isSome_iff_exists.1 (h p List.mem_cons_self)
    exact ⟨first ++ rest, Name.ofText?_cons_eq_some.2 ⟨first, rest, hfirst, hrest, rfl⟩⟩

/-- A text that can be spelt has bytes, none of which is null. -/
theorem Spellable.exists_bytes {t : Text} (h : Spellable t) :
    ∃ bytes, Name.ofText? t = some bytes ∧ 0 ∉ bytes := by
  obtain ⟨bytes, hbytes⟩ := exists_ofText? fun p hp => (h p hp).1
  exact ⟨bytes, hbytes, fun hmem =>
    (h _ (Name.char_mem_of_ofText? hbytes hmem (by decide))).2 (by decide)⟩

end Text

open Text (Spellable)

/-! ## Names -/

namespace Name

/-- The character that a name starts with has its bytes in the name. -/
theorem char?_eq_some {name : Name} {c : Char} {count : Nat}
    (h : char? name = some (c, count)) : String.utf8EncodeChar c ⊆ name := by
  obtain ⟨n, -, h⟩ := List.exists_of_findSome?_eq_some h
  split at h
  · rename_i s hdecode
    unfold Text.Utf8.decode at hdecode
    cases hchars : Text.Utf8.decodeFrom 0 none (name.take n) with
    | error failure =>
      rw [hchars] at hdecode
      cases hdecode
    | ok chars =>
      rw [hchars] at hdecode
      obtain rfl : String.ofList chars = s := Except.ok.inj hdecode
      rw [String.toList_ofList] at h
      cases chars with
      | nil => cases h
      | cons c' chars =>
        obtain rfl : c' = c := (Prod.mk.inj (Option.some.inj h)).1
        have hbytes := Text.Utf8.eq_flatMap_of_decodeFrom hchars
        intro b hb
        refine List.take_subset n name ?_
        rw [hbytes, List.flatMap_cons]
        exact List.mem_append_left _ hb
  · cases h

/-- A byte below 128 is a character of its own. -/
theorem isSome_char?_of_lt {b : UInt8} (hb : b.toNat < 0x80) (rest : Name) :
    (char? (b :: rest)).isSome = true := by
  have hlead := Text.Utf8.lead?_of_lt hb
  have hfirst : Text.Utf8.decode ((b :: rest).take 1) =
      .ok (String.ofList [Char.ofNat b.toNat]) := by
    simp [Text.Utf8.decode, Text.Utf8.decodeFrom, hlead, Except.map, bind, Except.bind, pure,
      Except.pure]
  rw [char?, List.findSome?_cons, hfirst]
  dsimp only
  rw [String.toList_ofList]
  rfl

/-- The text of a name without a null byte can be spelt. -/
theorem spellable_textFrom (skip : Nat) {name : Name} (h : 0 ∉ name) :
    Spellable (textFrom skip name) := by
  induction name generalizing skip with
  | nil =>
    intro p hp
    cases skip with
    | zero => cases hp
    | succ skip => cases hp
  | cons b rest ih =>
    have hrest : 0 ∉ rest := fun hmem => h (List.mem_cons_of_mem _ hmem)
    cases skip with
    | succ skip => exact ih skip hrest
    | zero =>
      rw [textFrom]
      split
      · rename_i c count hchar
        rintro p (_ | ⟨_, hp⟩)
        · refine ⟨rfl, fun heq => h (char?_eq_some hchar ?_)⟩
          rw [CodePoint.char.inj heq]
          decide
        · exact ih _ hrest p hp
      · rename_i hnone
        rintro p (_ | ⟨_, hp⟩)
        · -- A byte that starts no character is 128 or more, and its half has this byte again.
          have hhigh : 0x80 ≤ b.toNat := by
            by_contra hlow
            have hsome := isSome_char?_of_lt (b := b) (by omega) rest
            rw [hnone] at hsome
            cases hsome
          have hlt := b.toNat_lt
          have hhalf : halfOf b = .half ⟨byteHalves + b.toNat, by unfold byteHalves; omega⟩ := by
            unfold halfOf CodePoint.ofCode
            rw [dif_pos (by unfold CodePoint.firstHalf byteHalves; omega)]
            exact congrArg CodePoint.half (Fin.ext (by dsimp only; omega))
          rw [hhalf]
          refine ⟨?_, fun heq => nomatch heq⟩
          have hbyte : byteHalves + b.toNat - byteHalves = b.toNat := Nat.add_sub_cancel_left _ _
          simp only [pointBytes?, hbyte]
          rw [if_pos (by simp; omega)]
          rfl
        · exact ih _ hrest p hp

end Name

/-! ## Paths -/

namespace Path

/-- The code points of joined texts are those of the texts and of the separator. -/
theorem spellable_join {parts : List Text} :
    Spellable (Text.join "/" parts) ↔ ∀ part ∈ parts, Spellable part := by
  have hslash : Spellable "/" := Text.spellable_ofString (by decide)
  unfold Text.join
  induction parts with
  | nil => exact ⟨fun _ part hpart => (nomatch hpart), fun _ p hp => (nomatch hp)⟩
  | cons part rest ih =>
    cases rest with
    | nil => simp [List.intercalate]
    | cons next rest =>
      rw [List.intercalate_cons_cons, Text.spellable_append, Text.spellable_append]
      constructor
      · rintro ⟨⟨hpart, -⟩, hrest⟩
        exact List.forall_mem_cons.2 ⟨hpart, ih.1 hrest⟩
      · intro h
        obtain ⟨hpart, hrest⟩ := List.forall_mem_cons.1 h
        exact ⟨⟨hpart, hslash⟩, ih.2 hrest⟩

/-- The words of a text are made of its code points. -/
theorem mem_of_mem_splitAt {text word : Text} (h : word ∈ Text.splitAt separator text)
    {p : CodePoint} (hp : p ∈ word) : p ∈ text := by
  induction text generalizing word with
  | nil =>
    obtain rfl := List.mem_singleton.1 h
    cases hp
  | cons c rest ih =>
    rw [Text.splitAt] at h
    split at h
    · rcases List.mem_cons.1 h with rfl | h
      · cases hp
      · exact List.mem_cons_of_mem _ (ih h hp)
    · obtain ⟨first, words, hwords⟩ :=
        List.exists_cons_of_ne_nil (Disk.splitAt_ne_nil separator rest)
      rw [hwords] at h ih
      rcases List.mem_cons.1 h with rfl | h
      · rcases List.mem_cons.1 hp with rfl | hp
        · exact List.mem_cons_self
        · exact List.mem_cons_of_mem _ (ih List.mem_cons_self hp)
      · exact List.mem_cons_of_mem _ (ih (List.mem_cons_of_mem _ h) hp)

/-- A path can be spelt if each of its names can. -/
theorem spellable_text {p : Path} : Spellable p.text ↔ ∀ part ∈ p.parts, Spellable part := by
  have hroot : Spellable (rootText p.root) := by
    cases p.root with
    | here => exact Text.spellable_ofString (by decide)
    | top => exact Text.spellable_ofString (by decide)
    | doubleTop => exact Text.spellable_ofString (by decide)
  unfold text
  split
  · rename_i hdot
    obtain ⟨-, hparts⟩ := Bool.and_eq_true_iff.1 hdot
    rw [List.isEmpty_iff.1 hparts]
    exact ⟨fun _ part hpart => (nomatch hpart), fun _ => Text.spellable_ofString (by decide)⟩
  · rw [Text.spellable_append, spellable_join]
    exact ⟨fun h => h.2, fun h => ⟨hroot, h⟩⟩

/-- A path that is read from a text can be spelt if the text can. -/
theorem spellable_ofText {t : Text} (h : Spellable t) : Spellable (ofText t).text := by
  refine spellable_text.2 fun part hpart p hp => h p ?_
  exact mem_of_mem_splitAt (List.mem_filter.1 hpart).1 hp

end Path

namespace Disk

variable {d : Disk}

/-- A path that can be looked up can be spelt. -/
theorem spellable_of_route {path : Text} {way : Location × List Name}
    (h : d.route path = .ok way) : Spellable path := by
  obtain ⟨bytes, hbytes, hnull, -⟩ := route_eq_ok_iff.1 h
  exact Text.spellable_of_ofText? hbytes hnull

/-- If a path that can be spelt is refused, it is empty or too long. -/
theorem isReported_of_route {path : Text} (hpath : Spellable path) {refusal : Refusal}
    (h : d.route path = .error refusal) : refusal.isReported = true := by
  obtain ⟨bytes, hbytes, hnull⟩ := hpath.exists_bytes
  unfold route at h
  rw [hbytes] at h
  dsimp only at h
  rw [if_neg (fun hmem => hnull (List.contains_iff_mem.1 hmem))] at h
  split at h
  · obtain rfl := Except.error.inj h
    rfl
  · split at h
    · obtain rfl := Except.error.inj h
      rfl
    · cases h

/-- What is refused on a walk is about the state of the disk. -/
theorem isReported_of_walk {l : Location} {names : List Name} {refusal : Refusal}
    (h : d.walk l names = .error refusal) : refusal.isReported = true := by
  induction names generalizing l with
  | nil => cases h
  | cons name names ih =>
    rcases bind_eq_error_iff.1 h with h | ⟨m, -, h⟩
    · unfold step at h
      repeat' split at h
      all_goals cases h
      all_goals rfl
    · exact ih h

/-- What is refused to a look-up is about the state of the disk, if its path can be spelt. -/
theorem isReported_of_stat {path : Text} (hpath : Spellable path) {refusal : Refusal}
    (h : d.stat path = .error refusal) : refusal.isReported = true := by
  rcases bind_eq_error_iff.1 h with h | ⟨l, -, h⟩
  · rcases bind_eq_error_iff.1 h with h | ⟨way, -, h⟩
    · exact isReported_of_route hpath h
    · exact isReported_of_walk h
  · split at h
    · cases h
    · obtain rfl := Except.error.inj h
      rfl

/-- A path that is found, or refused for the state of the disk, can be spelt. -/
theorem spellable_of_stat {path : Text}
    (h : ∀ refusal, d.stat path = .error refusal → refusal.isReported = true) :
    Spellable path := by
  cases hbytes : Name.ofText? path with
  | none =>
    have hroute : d.route path = .error .noName := by rw [route, hbytes]
    have hstat : d.stat path = .error .noName := by
      rw [stat, locate, hroute]
      rfl
    exact absurd (h _ hstat) (by decide)
  | some bytes =>
    refine Text.spellable_of_ofText? hbytes fun hnull => ?_
    have hroute : d.route path = .error .nullCharacter := by
      rw [route, hbytes]
      exact if_pos (List.contains_iff_mem.2 hnull)
    have hstat : d.stat path = .error .nullCharacter := by
      rw [stat, locate, hroute]
      rfl
    exact absurd (h _ hstat) (by decide)

/-- What is refused to something new is about the state of the disk, if its path can be spelt. -/
theorem isReported_of_slot {path : Text} (hpath : Spellable path) {refusal : Refusal}
    (h : d.slot path = .error refusal) : refusal.isReported = true := by
  rcases bind_eq_error_iff.1 h with h | ⟨⟨start, names⟩, -, h⟩
  · exact isReported_of_route hpath h
  · rcases bind_eq_error_iff.1 h with h | ⟨l, -, h⟩
    · exact isReported_of_walk h
    · exact isReported_of_slotIn h

/-- Resolving double dots only leaves names out. -/
theorem mem_resolveDots {seen parts : List Text} {part : Text}
    (h : part ∈ resolveDots seen parts) : part ∈ seen ∨ part ∈ parts := by
  induction parts generalizing seen with
  | nil => exact .inl h
  | cons next rest ih =>
    rw [resolveDots] at h
    split at h
    · rcases ih h with h | h
      · exact .inl (List.dropLast_subset _ h)
      · exact .inr (List.mem_cons_of_mem _ h)
    · rcases ih h with h | h
      · rcases List.mem_append.1 h with h | h
        · exact .inl h
        · exact .inr (List.mem_singleton.1 h ▸ List.mem_cons_self)
      · exact .inr (List.mem_cons_of_mem _ h)

/-- The path of the temporary file can be spelt if that of the target can. -/
theorem spellable_temporary (hhome : ∀ name ∈ d.home, 0 ∉ name) {tag : String}
    (htag : '\x00' ∉ tag.toList) {target : Path} (htarget : Spellable target.text) :
    Spellable (d.temporary tag target).text := by
  rw [Path.spellable_text] at htarget
  -- The temporary file is beside the target, by a path from the root.
  have hparent : ∀ part ∈ (d.absolute target.parent).parts, Spellable part := by
    intro part hpart
    have hmem : part ∈ d.home.map Name.text ∨ part ∈ target.parent.parts := by
      unfold absolute at hpart
      split at hpart
      · exact mem_resolveDots hpart
      · exact .inr ((mem_resolveDots hpart).resolve_left List.not_mem_nil)
    rcases hmem with hmem | hmem
    · obtain ⟨name, hname, rfl⟩ := List.mem_map.1 hmem
      exact Name.spellable_textFrom 0 (hhome name hname)
    · exact htarget part (List.dropLast_subset _ hmem)
  have hname : Spellable target.name := by
    unfold Path.name
    cases hlast : target.parts.getLast? with
    | none => exact fun p hp => nomatch hp
    | some part => exact htarget part (List.mem_of_getLast? hlast)
  rw [Path.spellable_text]
  intro part hpart
  rcases List.mem_append.1 hpart with hpart | hpart
  · exact hparent part hpart
  · rw [List.mem_singleton.1 hpart]
    simp only [Text.spellable_append]
    exact ⟨⟨⟨⟨Text.spellable_ofString (by decide), hname⟩, Text.spellable_ofString (by decide)⟩,
      Text.spellable_ofString htag⟩, Text.spellable_ofString (by decide)⟩

/-- What is refused to a new file is reported, if its path can be spelt. -/
theorem isReported_of_create {path : Text} (hpath : Spellable path) {refusal : Refusal}
    (h : d.create path = .error refusal) : refusal.isReported = true := by
  rcases bind_eq_error_iff.1 h with hslot | ⟨⟨l, own⟩, -, hplace⟩
  · exact isReported_of_slot hpath hslot
  · cases own with
    | none =>
      obtain rfl := Except.error.inj hplace
      rfl
    | some name =>
      dsimp only at hplace
      split at hplace
      · obtain rfl := Except.error.inj hplace
        rfl
      · cases hplace

/-- What is refused to a file that is moved is reported, if its new path can be spelt. -/
theorem isReported_of_rename {place : Location} {target : Text} (htarget : Spellable target)
    {refusal : Refusal} (h : d.rename place target = .error refusal) :
    refusal.isReported = true := by
  rcases bind_eq_error_iff.1 h with hslot | ⟨⟨l, own⟩, -, hplace⟩
  · exact isReported_of_slot htarget hslot
  · cases own with
    | none =>
      obtain rfl := Except.error.inj hplace
      rfl
    | some name =>
      dsimp only at hplace
      split at hplace
      · obtain rfl := Except.error.inj hplace
        rfl
      · cases hplace
      · obtain rfl := Except.error.inj hplace
        rfl

/-- If a file whose path can be spelt is not replaced, the reason is one that is reported. -/
theorem isReported_of_replace {ε : Type} (hhome : ∀ name ∈ d.home, 0 ∉ name) {tag : String}
    (htag : '\x00' ∉ tag.toList) {target : Path} (htarget : Spellable target.text)
    {pieces : List (List UInt8)} {outcome : Except ε Unit} {e : DiskError} {after : Disk}
    (h : d.replace tag target pieces outcome = (.error (.disk e), after)) :
    e.refusal.isReported = true := by
  unfold replace at h
  dsimp only at h
  split at h
  · rename_i refusal hcreate
    obtain ⟨he, -⟩ := Prod.mk.inj h
    obtain rfl := ReplaceError.disk.inj (Except.error.inj he)
    exact isReported_of_create (spellable_temporary hhome htag htarget) hcreate
  · split at h
    · cases h
    · split at h
      · cases h
      · rename_i refusal hrename
        obtain ⟨he, -⟩ := Prod.mk.inj h
        obtain rfl := ReplaceError.disk.inj (Except.error.inj he)
        exact isReported_of_rename htarget hrename

end Disk

end Transducer
