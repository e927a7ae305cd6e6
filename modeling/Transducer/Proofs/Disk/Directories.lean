import Transducer.Proofs.Disk.Route

/-!
# The directories on the way to a path

Making a directory with those above it adds directories on the way to its path and changes nothing
else, whether it goes through or stops half way (`makePath_made`). If it stops because the path
cannot be spelt or because too much is missing, nothing was made (`makePath_of_unreported`).
-/

namespace Transducer.Disk

open Outcome (bind_eq_ok_iff bind_eq_error_iff)

/-- A place with a new directory that is on the way to a path. -/
structure NewOnWay (p : Path) (d d' : Disk) (l : Location) : Prop where
  missing : d.get? l = none
  made : d'.get? l = some .directory
  onWay : ∃ n, d'.locate (p.upTo n).text = .ok l

/-- A disk that has changed by new directories on the way to a path only. -/
structure Grows (p : Path) (d d' : Disk) : Prop where
  home : d'.home = d.home
  places : ∀ l, d'.get? l = d.get? l ∨ NewOnWay p d d' l

namespace Grows

variable {p : Path} {d d' : Disk}

/-- A disk that has not changed has not grown. -/
theorem refl (p : Path) (d : Disk) : d.Grows p d := ⟨rfl, fun _ => .inl rfl⟩

/-- Where nothing is on a disk that has grown, nothing was before. -/
theorem get?_eq_none (h : d.Grows p d') {l : Location} (hl : d'.get? l = none) :
    d.get? l = none := by
  rcases h.places l with heq | hnew
  · rw [← heq, hl]
  · exact hnew.missing

/-- What is on the way to the parent of a path is on the way to the path. -/
theorem of_parent (h : d.Grows p.parent d') : d.Grows p d' := by
  refine ⟨h.home, fun l => ?_⟩
  rcases h.places l with heq | ⟨hnone, hdir, n, hn⟩
  · exact .inl heq
  · rw [Path.upTo_parent] at hn
    exact .inr ⟨hnone, hdir, _, hn⟩

/-- One more directory, at the end of the path. -/
theorem put (h : d.Grows p d') {l : Location} (hnone : d'.get? l = none)
    (hl : (d'.put l .directory).locate p.text = .ok l) : d.Grows p (d'.put l .directory) := by
  have hne := ne_nil_of_get?_eq_none hnone
  have hext : d'.Extends (d'.put l .directory) := extends_put hne _ (.inr rfl)
  have hput := get?_put d' hne .directory
  refine ⟨h.home, fun k => ?_⟩
  by_cases hk : k = l
  · subst hk
    refine .inr ⟨h.get?_eq_none hnone, by rw [hput, if_pos rfl], p.parts.length, ?_⟩
    rw [Path.upTo_length, hl]
  · have hsame : (d'.put l .directory).get? k = d'.get? k := by rw [hput, if_neg hk]
    rcases h.places k with heq | ⟨hnew, hdir, n, hn⟩
    · exact .inl (hsame.trans heq)
    · exact .inr ⟨hnew, hsame.trans hdir, n,
        locate_mono hext hn ((isDirectoryAt_iff _ _).2 hdir)⟩

end Grows

/-- What is left of an attempt to make the directory of a path: the disk has grown, and if it went
through, the path leads to a directory. -/
structure Made (p : Path) (d : Disk) (result : Except DiskError Location × Disk) : Prop where
  grows : d.Grows p result.2
  reached : ∀ l, result.1 = .ok l →
    result.2.locate p.text = .ok l ∧ result.2.isDirectoryAt l = true

variable {p : Path} {d d' : Disk}

/-- A directory is made where nothing was. -/
theorem makeIn_eq_ok {place : Location × Option Name} {l : Location} {made : Disk}
    (h : d.makeIn place = .ok (l, made)) :
    ∃ above name, place = (above, some name) ∧ l = above ++ [name] ∧ d.get? l = none ∧
      made = d.put l .directory := by
  obtain ⟨above, own⟩ := place
  cases own with
  | none => cases h
  | some name =>
    rw [makeIn] at h
    split at h
    · cases h
    · rename_i hnone
      obtain ⟨rfl, rfl⟩ := Prod.mk.inj (Except.ok.inj h)
      exact ⟨above, name, rfl, rfl, by simpa using hnone, rfl⟩

/-- A directory that is made at the place for a path is what the path leads to. -/
theorem made_of_makeIn (hgrows : d.Grows p d') {place : Location × Option Name}
    (hslot : d'.slot p.text = .ok place) {l : Location} {made : Disk}
    (h : d'.makeIn place = .ok (l, made)) : Made p d (.ok l, made) := by
  obtain ⟨above, name, rfl, rfl, hnone, rfl⟩ := makeIn_eq_ok h
  have hne := ne_nil_of_get?_eq_none hnone
  have hitem : (d'.put (above ++ [name]) .directory).get? (above ++ [name]) = some .directory := by
    rw [get?_put d' hne, if_pos rfl]
  have hlocate : (d'.put (above ++ [name]) .directory).locate p.text = .ok (above ++ [name]) :=
    locate_of_slot (slot_mono (extends_put hne _ (.inr rfl)) hslot) (by rw [hitem]; rfl)
  refine ⟨hgrows.put hnone hlocate, fun l hl => ?_⟩
  obtain rfl := Except.ok.inj hl
  exact ⟨hlocate, (isDirectoryAt_iff _ _).2 hitem⟩

/-- The outcome for one directory, if what it was made of is the place for the path. -/
theorem made_of_madeOr (hgrows : d.Grows p d') {result : Except Refusal (Location × Disk)}
    (hresult : ∀ l made, result = .ok (l, made) →
      ∃ place, d'.slot p.text = .ok place ∧ d'.makeIn place = .ok (l, made)) :
    Made p d (d'.madeOr p.text result) := by
  cases result with
  | ok made =>
    obtain ⟨place, hslot, hmake⟩ := hresult made.1 made.2 rfl
    exact made_of_makeIn hgrows hslot hmake
  | error refusal =>
    rw [madeOr]
    split
    · rename_i l hlocate
      split
      · rename_i hdir
        refine ⟨hgrows, fun l hl => ?_⟩
        obtain rfl := Except.ok.inj hl
        exact ⟨hlocate, hdir⟩
      · exact ⟨hgrows, fun l hl => nomatch hl⟩
    · exact ⟨hgrows, fun l hl => nomatch hl⟩

/-- If a directory is missing on the way to a path, the path can be spelt. -/
theorem route_of_noEntry (hp : p.Proper) (h : d.makeDirectory p.text = .error .noEntry) :
    ∃ way, d.route p.text = .ok way := by
  cases hroute : d.route p.text with
  | ok way => exact ⟨way, rfl⟩
  | error refusal =>
    have hslot : d.slot p.text = .error refusal := by
      rw [slot, hroute]
      rfl
    obtain rfl : refusal = .noEntry := by
      rw [makeDirectory, hslot] at h
      exact Except.error.inj h
    unfold route at hroute
    split at hroute
    · cases hroute
    · rename_i bytes hbytes
      split at hroute
      · cases hroute
      · split at hroute
        · rename_i hempty
          exact absurd (List.isEmpty_iff.1 hempty)
            (Name.ne_nil_of_ofText? hbytes (Path.text_ne_nil hp))
        · split at hroute <;> cases hroute

/-- Making a directory and those above it adds directories on the way to it, and nothing else. -/
theorem makePath_made (hp : p.Proper) (room : Nat) (d : Disk) : Made p d (makePath p room d) := by
  -- The missing directories are made from above, as many as there is room for.
  induction room generalizing p with
  | zero =>
    unfold makePath
    split
    · split
      · exact ⟨.refl p d, fun l hl => nomatch hl⟩
      · exact ⟨.refl p d, fun l hl => nomatch hl⟩
    · exact made_of_madeOr (.refl p d) fun l made h => bind_eq_ok_iff.1 h
  | succ room ih =>
    unfold makePath
    split
    · rename_i hmissing
      split
      · exact ⟨.refl p d, fun l hl => nomatch hl⟩
      · rename_i hparts
        have hparts : p.parts ≠ [] := by simpa using hparts
        have hparent := ih (Path.parent_proper hp)
        dsimp only
        split
        · rename_i e d' heq
          rw [heq] at hparent
          exact ⟨hparent.grows.of_parent, fun l hl => nomatch hl⟩
        · rename_i above d' heq
          rw [heq] at hparent
          -- The last name is made in the place of the parent, the place for the whole path.
          obtain ⟨hlocate, -⟩ := hparent.reached above rfl
          obtain ⟨way, hroute⟩ := route_of_noEntry hp hmissing
          rw [← route_congr hparent.grows.home] at hroute
          obtain ⟨name, hname, hslot, -⟩ := slot_text hp hparts hroute
          refine made_of_madeOr hparent.grows.of_parent fun l made h => ?_
          obtain ⟨place, hplace, hmake⟩ := bind_eq_ok_iff.1 h
          refine ⟨place, ?_, hmake⟩
          rw [hname] at hplace
          rw [hslot]
          exact bind_eq_ok_iff.2 ⟨above, hlocate, hplace⟩
    · exact made_of_madeOr (.refl p d) fun l made h => bind_eq_ok_iff.1 h

/-- The disk is kept if one directory is not made. -/
theorem madeOr_eq_error {path : Text} {result : Except Refusal (Location × Disk)} {e : DiskError}
    (h : (d.madeOr path result).1 = .error e) :
    (d.madeOr path result).2 = d ∧ result = .error e.refusal := by
  cases result with
  | ok made => cases h
  | error refusal =>
    rw [madeOr] at h ⊢
    split at h
    · split at h
      · cases h
      · rename_i hdir
        obtain rfl := Except.error.inj h
        rw [if_neg hdir]
        exact ⟨rfl, rfl⟩
    · obtain rfl := Except.error.inj h
      exact ⟨rfl, rfl⟩

/-- Whatever is refused at a place is about the state of the disk. -/
theorem isReported_of_makeIn {above : Location} {name : Name} {refusal : Refusal}
    (h : (d.slotIn above name >>= d.makeIn) = .error refusal) : refusal.isReported = true := by
  rcases bind_eq_error_iff.1 h with h | ⟨⟨l, own⟩, -, h⟩
  · exact isReported_of_slotIn h
  · cases own with
    | none =>
      obtain rfl := Except.error.inj h
      rfl
    | some name =>
      rw [makeIn] at h
      split at h
      · obtain rfl := Except.error.inj h
        rfl
      · cases h

/-- If no directory can be made for a reason that is not reported, none was made. -/
theorem makePath_of_unreported {room : Nat} {e : DiskError} (h : (makePath p room d).1 = .error e)
    (he : e.refusal.isReported = false) : (makePath p room d).2 = d := by
  -- Below a directory that was made, what is refused is reported: the reason comes from above it.
  induction room generalizing p with
  | zero =>
    unfold makePath at h ⊢
    split at h
    · split at h
      · rename_i hparts
        rw [if_pos hparts]
      · rename_i hparts
        rw [if_neg hparts]
    · exact (madeOr_eq_error h).1
  | succ room ih =>
    unfold makePath at h ⊢
    split at h
    · split at h
      · rename_i hparts
        rw [if_pos hparts]
      · rename_i hparts
        rw [if_neg hparts]
        dsimp only at h ⊢
        split at h
        · rename_i e' d' heq
          obtain rfl := Except.error.inj h
          have hparent := ih (p := p.parent) (by rw [heq])
          rw [heq] at hparent
          exact hparent
        · rw [isReported_of_makeIn (madeOr_eq_error h).2] at he
          cases he
    · exact (madeOr_eq_error h).1

/-- If the directories of a path are not made for a reason that is not reported, none was made. -/
theorem makeDirectories_of_unreported {room : Nat} {e : DiskError} {made : Disk}
    (h : d.makeDirectories room p = (.error e, made)) (he : e.refusal.isReported = false) :
    made = d := by
  unfold makeDirectories at h
  split at h
  · cases h
  · rename_i e' made' heq
    obtain ⟨herror, rfl⟩ := Prod.mk.inj h
    obtain rfl := Except.error.inj herror
    have hsame := makePath_of_unreported (p := p) (d := d) (by rw [heq]) he
    rw [heq] at hsame
    exact hsame

end Transducer.Disk
