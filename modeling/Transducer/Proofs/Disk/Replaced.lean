import Transducer.Disk.Replace
import Transducer.Proofs.Disk.Lookup

/-!
# A file is replaced as a whole or not at all

Replacing a file either stores the whole content at the place of its path, and nothing else
(`replace_eq_ok`), or leaves the disk as it was (`replace_eq_error`). The temporary file is made
where nothing was, so that taking it away again gives the disk back, and it hides nothing: it is no
directory. So the exchange with the target is refused only where the disk without the temporary file
takes no file, and what comes out of all that is one of four ends (`replace_all_or_nothing`).
-/

namespace Transducer.Disk

open Outcome (bind_eq_ok_iff bind_eq_error_iff)

variable {d : Disk}

/-- A file is made where nothing was. -/
theorem create_eq_ok {path : Text} {place : Location} {opened : Disk}
    (h : d.create path = .ok (place, opened)) :
    d.get? place = none ∧ opened = d.put place (.file []) := by
  unfold create at h
  obtain ⟨⟨l, own⟩, -, h⟩ := bind_eq_ok_iff.1 h
  cases own with
  | none => cases h
  | some name =>
    dsimp only at h
    split at h
    · cases h
    · rename_i hnone
      obtain ⟨rfl, rfl⟩ := Prod.mk.inj (Except.ok.inj h)
      exact ⟨by simpa using hnone, rfl⟩

/-- A file where nothing was adds no directory. -/
theorem put_file_extends {l : Location} (h : d.get? l = none) (content : List UInt8) :
    (d.put l (.file content)).Extends d := by
  refine ⟨rfl, fun k hk => ?_⟩
  rw [isDirectoryAt_iff, get?_put d (ne_nil_of_get?_eq_none h)] at hk
  rw [isDirectoryAt_iff]
  split at hk
  · cases hk
  · exact hk

/-- A file that was put where nothing was moves to the place of the target. -/
theorem rename_eq_ok {source : Location} {content : List UInt8} {target : Text} {replaced : Disk}
    (hsource : d.get? source = none)
    (h : (d.put source (.file content)).rename source target = .ok replaced) :
    ∃ l name, d.slot target = .ok (l, some name) ∧ d.get? (l ++ [name]) ≠ some .directory ∧
      replaced = d.put (l ++ [name]) (.file content) := by
  have hput := get?_put d (ne_nil_of_get?_eq_none hsource) (.file content)
  have hmoved : (d.put source (.file content)).get? source = some (.file content) := by
    rw [hput, if_pos rfl]
  unfold rename at h
  obtain ⟨⟨l, own⟩, hslot, h⟩ := bind_eq_ok_iff.1 h
  cases own with
  | none => cases h
  | some name =>
    dsimp only at h
    rw [hmoved] at h
    refine ⟨l, name, slot_mono (put_file_extends hsource content) hslot, ?_, ?_⟩
    · intro hdir
      have hwritten : (d.put source (.file content)).get? (l ++ [name]) = some .directory := by
        rw [hput, if_neg, hdir]
        rintro heq
        rw [heq, hsource] at hdir
        cases hdir
      rw [hwritten] at h
      cases h
    · split at h
      · cases h
      · rename_i heq _
        obtain rfl := Option.some.inj heq
        rw [← Except.ok.inj h, erase_put hsource]
      · cases h

/-- A file can be stored at the place of a path: in a directory, under a name of its own, where no
directory is. -/
def TakesFile (d : Disk) (path : Text) (l : Location) : Prop :=
  ∃ directory name, d.slot path = .ok (directory, some name) ∧ l = directory ++ [name] ∧
    d.get? l ≠ some .directory

/-- A file that was put where nothing was moves to every place that takes a file. -/
theorem not_takesFile_of_rename {source : Location} {content : List UInt8} {target : Text}
    {refusal : Refusal} (hsource : d.get? source = none)
    (h : (d.put source (.file content)).rename source target = .error refusal) (l : Location) :
    ¬ d.TakesFile target l := by
  rintro ⟨directory, name, hslot, rfl, hdir⟩
  have hne := ne_nil_of_get?_eq_none hsource
  have hput := get?_put d hne (.file content)
  -- The file that was put is no directory, so it neither opens nor closes a way to the target.
  have hslot' : (d.put source (.file content)).slot target = .ok (directory, some name) := by
    refine slot_mono (extends_put hne _ (.inl ?_)) hslot
    rw [hsource]
    simp
  have hmoved : (d.put source (.file content)).get? source = some (.file content) := by
    rw [hput, if_pos rfl]
  have htarget : (d.put source (.file content)).get? (directory ++ [name]) ≠ some .directory := by
    rw [hput]
    split
    · simp
    · exact hdir
  unfold rename at h
  rcases bind_eq_error_iff.1 h with h | ⟨way, hway, h⟩
  · rw [hslot'] at h
    cases h
  · obtain rfl := Except.ok.inj (hslot'.symm.trans hway)
    dsimp only at h
    rw [hmoved] at h
    split at h
    · exact htarget ‹_›
    · cases h
    · rename_i hnone _
      cases hnone

variable {ε : Type} {tag : String} {target : Path} {pieces : List (List UInt8)}
  {outcome : Except ε Unit} {after : Disk}

/-- A file that is replaced holds all pieces, and nothing else changes. -/
theorem replace_eq_ok (h : d.replace tag target pieces outcome = (.ok (), after)) :
    outcome = .ok () ∧ ∃ l name, d.slot target.text = .ok (l, some name) ∧
      d.get? (l ++ [name]) ≠ some .directory ∧
      after = d.put (l ++ [name]) (.file pieces.flatten) := by
  unfold replace at h
  dsimp only at h
  split at h
  · cases h
  · rename_i place opened hcreate
    obtain ⟨hplace, rfl⟩ := create_eq_ok hcreate
    rw [put_put hplace] at h
    split at h
    · cases h
    · split at h
      · rename_i replaced hrename
        obtain ⟨-, rfl⟩ := Prod.mk.inj h
        exact ⟨rfl, rename_eq_ok hplace hrename⟩
      · cases h

/-- A file that is not replaced leaves the disk as it was. -/
theorem replace_eq_error {e : ReplaceError ε}
    (h : d.replace tag target pieces outcome = (.error e, after)) : after = d := by
  unfold replace at h
  dsimp only at h
  split at h
  · exact (Prod.mk.inj h).2.symm
  · rename_i place opened hcreate
    obtain ⟨hplace, rfl⟩ := create_eq_ok hcreate
    rw [put_put hplace, erase_put hplace] at h
    split at h
    · exact (Prod.mk.inj h).2.symm
    · split at h
      · cases h
      · exact (Prod.mk.inj h).2.symm

/-- The writer of a file that is not replaced on its account gave up. -/
theorem replace_eq_writer {e : ε}
    (h : d.replace tag target pieces outcome = (.error (.writer e), after)) :
    outcome = .error e := by
  unfold replace at h
  dsimp only at h
  split at h
  · cases h
  · split at h
    · obtain ⟨he, -⟩ := Prod.mk.inj h
      rw [ReplaceError.writer.inj (Except.error.inj he)]
    · split at h
      · cases h
      · cases h

/-- How replacing a file can end. -/
inductive Replacement (d : Disk) (tag : String) (target : Path) (pieces : List (List UInt8))
    (outcome : Except ε Unit) : Except (ReplaceError ε) Unit × Disk → Prop where
  /-- The writer delivers everything and the target takes a file: it holds all pieces in a row, and
  every other place is as it was. -/
  | whole {made : Location × Disk} {l : Location} {after : Disk}
    (htemporary : d.create (d.temporary tag target).text = .ok made) (hwriter : outcome = .ok ())
    (htarget : d.TakesFile target.text l) (hplace : after.locate target.text = .ok l)
    (hcontent : after.read target.text = .ok pieces.flatten)
    (hothers : ∀ k, k ≠ l → after.get? k = d.get? k) (hhome : after.home = d.home) :
    Replacement d tag target pieces outcome (.ok (), after)
  /-- The temporary file is refused, for the reason that is given. -/
  | noTemporary {refusal : Refusal}
    (htemporary : d.create (d.temporary tag target).text = .error refusal) :
    Replacement d tag target pieces outcome
      (.error (.disk ⟨refusal, (d.temporary tag target).text, none⟩), d)
  /-- The writer gives up after the pieces, for the reason that is given. -/
  | gaveUp {made : Location × Disk} {e : ε}
    (htemporary : d.create (d.temporary tag target).text = .ok made)
    (hwriter : outcome = .error e) :
    Replacement d tag target pieces outcome (.error (.writer e), d)
  /-- The target takes no file; the reason is the one for which the exchange is refused. -/
  | noTarget {place : Location} {opened : Disk} {refusal : Refusal}
    (htemporary : d.create (d.temporary tag target).text = .ok (place, opened))
    (hwriter : outcome = .ok ()) (htarget : ∀ l, ¬ d.TakesFile target.text l)
    (hexchange : (opened.put place (.file pieces.flatten)).rename place target.text =
      .error refusal) :
    Replacement d tag target pieces outcome
      (.error (.disk ⟨refusal, (d.temporary tag target).text, some target.text⟩), d)

/-- A file that takes the place of its target is found there, and nothing else changes. -/
theorem replacement_of_ok {made : Location × Disk}
    (htemporary : d.create (d.temporary tag target).text = .ok made)
    (h : d.replace tag target pieces outcome = (.ok (), after)) :
    Replacement d tag target pieces outcome (.ok (), after) := by
  obtain ⟨hwriter, directory, name, hslot, hdir, rfl⟩ := replace_eq_ok h
  have hne : directory ++ [name] ≠ [] := by simp
  have hput := get?_put d hne (.file pieces.flatten)
  have hstored : (d.put (directory ++ [name]) (.file pieces.flatten)).get? (directory ++ [name]) =
      some (.file pieces.flatten) := by
    rw [hput, if_pos rfl]
  have hslot' := slot_mono (extends_put hne (.file pieces.flatten) (.inl hdir)) hslot
  refine .whole htemporary hwriter ⟨directory, name, hslot, rfl, hdir⟩ ?_
    (read_of_slot hslot' hstored) (fun k hk => ?_) rfl
  · exact locate_of_slot hslot' (by rw [hstored]; rfl)
  · rw [hput, if_neg hk]

/-- A file is replaced as a whole, or the disk is as it was and the error is that of the step that
failed. -/
theorem replace_all_or_nothing (d : Disk) (tag : String) (target : Path)
    (pieces : List (List UInt8)) (outcome : Except ε Unit) :
    Replacement d tag target pieces outcome (d.replace tag target pieces outcome) := by
  rcases hreplace : d.replace tag target pieces outcome with ⟨result, after⟩
  cases htemporary : d.create (d.temporary tag target).text with
  | error refusal =>
    have hend : d.replace tag target pieces outcome =
        (.error (.disk ⟨refusal, (d.temporary tag target).text, none⟩), d) := by
      rw [replace, htemporary]
    rw [← hreplace, hend]
    exact .noTemporary htemporary
  | ok made =>
    obtain ⟨place, opened⟩ := made
    obtain ⟨hplace, hopened⟩ := create_eq_ok htemporary
    cases result with
    | ok done => exact replacement_of_ok htemporary hreplace
    | error e =>
      obtain rfl := replace_eq_error hreplace
      rw [replace, htemporary] at hreplace
      dsimp only at hreplace
      -- The temporary file is there; so the writer or the exchange is at fault.
      cases hwriter : outcome with
      | error e' =>
        rw [hwriter] at hreplace
        rw [← (Prod.mk.inj hreplace).1]
        exact .gaveUp htemporary rfl
      | ok done =>
        rw [hwriter] at hreplace
        dsimp only at hreplace
        split at hreplace
        · cases hreplace
        · rename_i refusal hexchange
          rw [← (Prod.mk.inj hreplace).1]
          refine .noTarget htemporary rfl ?_ hexchange
          rw [hopened, put_put hplace] at hexchange
          exact not_takesFile_of_rename hplace hexchange

end Transducer.Disk
