import Transducer.Code.Bundle
import Transducer.Proofs.Disk.Directories
import Transducer.Proofs.Disk.Replaced

/-!
# What a bundle leaves on a disk

A bundle is stored as a whole or up to the first of its files that cannot be written. In both cases
every place other than those of its files is as it was, or is a new directory on the way to the
directory of the bundle; of several files with one place the last one counts (`Stored`).
-/

namespace Transducer.Bundle

open Disk Log

/-! ## Files in a row -/

/-- What some files that were written one after the other leave on a disk. -/
structure Stores (directory : Path) (files : List (Text × Text)) (d after : Disk) : Prop where
  kept : d.Extends after
  /-- Every file has a place, with a file in it. -/
  placed : ∀ entry ∈ files, ∃ l name bytes,
    after.slot (target directory entry.1).text = .ok (l, some name) ∧
      after.get? (l ++ [name]) = some (.file bytes)
  /-- A file that no later one took the place of can be read. -/
  last : ∀ earlier name content later, files = earlier ++ (name, content) :: later →
    (∀ entry ∈ later, after.locate (target directory entry.1).text ≠
      after.locate (target directory name).text) →
    ∃ bytes, Text.Utf8.encode? content = some bytes ∧
      after.read (target directory name).text = .ok bytes
  /-- Every other place is as before. -/
  others : ∀ l, after.get? l = d.get? l ∨
    ∃ entry ∈ files, after.locate (target directory entry.1).text = .ok l

/-- A file that is written holds the bytes of its content, and nothing else changes. -/
theorem writeFile_eq_ok {tag : String} {path : Path} {content : Text} {d after : Disk}
    (h : writeFile tag path content d = (.ok (), after)) :
    ∃ bytes l name, Text.Utf8.encode? content = some bytes ∧
      d.slot path.text = .ok (l, some name) ∧ d.get? (l ++ [name]) ≠ some .directory ∧
      after = d.put (l ++ [name]) (.file bytes) := by
  unfold writeFile at h
  split at h
  · rename_i bytes hbytes
    obtain ⟨-, l, name, hslot, hdir, rfl⟩ := replace_eq_ok h
    refine ⟨bytes, l, name, hbytes, hslot, hdir, ?_⟩
    rw [List.flatten_cons, List.flatten_nil, List.append_nil]
  · cases (replace_eq_ok h).1

/-- A file that is not written leaves the disk as it was. -/
theorem writeFile_eq_error {tag : String} {path : Path} {content : Text} {d after : Disk}
    {e : ReplaceError Defect} (h : writeFile tag path content d = (.error e, after)) :
    after = d := by
  unfold writeFile at h
  split at h
  · exact replace_eq_error h
  · exact replace_eq_error h

/-- The writer of a file gives up if the content has no bytes. -/
theorem writeFile_eq_writer {tag : String} {path : Path} {content : Text} {d after : Disk}
    {defect : Defect} (h : writeFile tag path content d = (.error (.writer defect), after)) :
    Text.Utf8.encode? content = none ∧ defect = .unencodable := by
  unfold writeFile at h
  split at h
  · cases replace_eq_writer h
  · rename_i hnone
    exact ⟨hnone, (Except.error.inj (replace_eq_writer h)).symm⟩

/-- One file before those that are stored. -/
theorem Stores.cons {directory : Path} {name content : Text} {rest : List (Text × Text)}
    {d after : Disk} {bytes : List UInt8} {l : Location} {own : Name}
    (hbytes : Text.Utf8.encode? content = some bytes)
    (hslot : d.slot (target directory name).text = .ok (l, some own))
    (hdir : d.get? (l ++ [own]) ≠ some .directory)
    (h : Stores directory rest (d.put (l ++ [own]) (.file bytes)) after) :
    Stores directory ((name, content) :: rest) d after := by
  have hne : l ++ [own] ≠ [] := by simp
  have hext : d.Extends after := (extends_put hne _ (.inl hdir)).trans h.kept
  have hafter : after.slot (target directory name).text = .ok (l, some own) := slot_mono hext hslot
  have hput : (d.put (l ++ [own]) (.file bytes)).get? (l ++ [own]) = some (.file bytes) := by
    rw [get?_put d hne, if_pos rfl]
  -- The place of the first file may be taken by a later one, which is a file again.
  have hfile : ∃ bytes', after.get? (l ++ [own]) = some (.file bytes') := by
    rcases h.others (l ++ [own]) with heq | ⟨entry, hentry, hlocate⟩
    · exact ⟨bytes, heq.trans hput⟩
    · obtain ⟨l', own', bytes', hslot', hitem⟩ := h.placed entry hentry
      rw [locate_of_slot hslot' (by rw [hitem]; rfl)] at hlocate
      rw [← Except.ok.inj hlocate]
      exact ⟨bytes', hitem⟩
  obtain ⟨bytes', hitem⟩ := hfile
  have hlocate := locate_of_slot hafter (by rw [hitem]; rfl)
  refine ⟨hext, ?_, ?_, ?_⟩
  · intro entry hentry
    rcases List.mem_cons.1 hentry with rfl | hentry
    · exact ⟨l, own, bytes', hafter, hitem⟩
    · exact h.placed entry hentry
  · intro earlier name' content' later hfiles hlater
    cases earlier with
    | nil =>
      obtain ⟨hentry, rfl⟩ := List.cons.inj hfiles
      obtain ⟨rfl, rfl⟩ := Prod.mk.inj hentry
      refine ⟨bytes, hbytes, read_of_slot hafter ?_⟩
      rcases h.others (l ++ [own]) with heq | ⟨entry, hentry, hother⟩
      · exact heq.trans hput
      · exact absurd (hother.trans hlocate.symm) (hlater entry hentry)
    | cons entry earlier =>
      obtain ⟨-, hrest⟩ := List.cons.inj hfiles
      exact h.last earlier name' content' later hrest hlater
  · intro k
    rcases h.others k with heq | ⟨entry, hentry, hk⟩
    · by_cases hkl : k = l ++ [own]
      · subst hkl
        exact .inr ⟨_, List.mem_cons_self, hlocate⟩
      · rw [get?_put d hne, if_neg hkl] at heq
        exact .inl heq
    · exact .inr ⟨entry, List.mem_cons_of_mem _ hentry, hk⟩

/-- What becomes of a file that is not written. -/
def fault (path : Text) : ReplaceError Defect → Halt
  | .disk e => e.halt (.write path "write failed" (some e.message))
  | .writer defect => .defect defect

/-- A refused operation gives its report, unless no report covers it. -/
theorem value_refused (name : String) (path message : Text) (e : DiskError) :
    (refused name path message e).value = e.halt (.write path message (some e.message)) := by
  unfold refused
  dsimp only
  split <;> rfl

/-- Writing some files is writing the first one and then the others. -/
theorem value_writeFiles_cons (tag : String) (directory : Path) (name content : Text)
    (rest : List (Text × Text)) (d : Disk) :
    (writeFiles tag directory ((name, content) :: rest) d).value =
      match writeFile tag (target directory name) content d with
      | (.error e, _) => (.error (fault (target directory name).text e), d)
      | (.ok (), after) => (writeFiles tag directory rest after).value := by
  rw [writeFiles]
  split
  · rename_i e after heq
    obtain rfl := writeFile_eq_error heq
    rw [heq]
    exact congrArg (fun halt => (Except.error halt, after)) (value_refused _ _ _ e)
  · rename_i defect after heq
    obtain rfl := writeFile_eq_error heq
    rw [heq]
    rfl
  · rename_i after heq
    rw [heq]
    rfl

/-- Files that are all written are stored. -/
theorem writeFiles_stores {tag : String} {directory : Path} {files : List (Text × Text)}
    {d after : Disk} (h : (writeFiles tag directory files d).value = (.ok (), after)) :
    Stores directory files d after := by
  induction files generalizing d with
  | nil =>
    obtain ⟨-, rfl⟩ := Prod.mk.inj h
    refine ⟨.refl d, fun entry hentry => ?_, fun earlier name content later hfiles => ?_,
      fun l => .inl rfl⟩
    · cases hentry
    · simp at hfiles
  | cons entry rest ih =>
    obtain ⟨name, content⟩ := entry
    rw [value_writeFiles_cons] at h
    split at h
    · cases h
    · rename_i written heq
      obtain ⟨bytes, l, own, hbytes, hslot, hdir, rfl⟩ := writeFile_eq_ok heq
      exact Stores.cons hbytes hslot hdir (ih h)

/-- Files behind others are written where these have left off. -/
theorem value_writeFiles_append {tag : String} {directory : Path} {earlier : List (Text × Text)}
    {d written : Disk} (h : (writeFiles tag directory earlier d).value = (.ok (), written))
    (rest : List (Text × Text)) :
    (writeFiles tag directory (earlier ++ rest) d).value =
      (writeFiles tag directory rest written).value := by
  induction earlier generalizing d with
  | nil =>
    obtain ⟨-, rfl⟩ := Prod.mk.inj h
    rfl
  | cons entry earlier ih =>
    obtain ⟨name, content⟩ := entry
    rw [value_writeFiles_cons] at h
    rw [List.cons_append, value_writeFiles_cons]
    split at h
    · cases h
    · exact ih h

/-- Files of which one cannot be written are written up to that one. -/
theorem writeFiles_eq_error {tag : String} {directory : Path} {files : List (Text × Text)}
    {d after : Disk} {halt : Halt}
    (h : (writeFiles tag directory files d).value = (.error halt, after)) :
    ∃ earlier name content later e, files = earlier ++ (name, content) :: later ∧
      (writeFiles tag directory earlier d).value = (.ok (), after) ∧
      writeFile tag (target directory name) content after = (.error e, after) ∧
      halt = fault (target directory name).text e := by
  induction files generalizing d with
  | nil => cases h
  | cons entry rest ih =>
    obtain ⟨name, content⟩ := entry
    rw [value_writeFiles_cons] at h
    split at h
    · rename_i e written heq
      obtain rfl := writeFile_eq_error heq
      obtain ⟨hhalt, rfl⟩ := Prod.mk.inj h
      exact ⟨[], name, content, rest, e, rfl, rfl, heq, (Except.error.inj hhalt).symm⟩
    · rename_i written heq
      obtain ⟨earlier, name', content', later, e, rfl, hearlier, hfile, hhalt⟩ := ih h
      refine ⟨(name, content) :: earlier, name', content', later, e, rfl, ?_, hfile, hhalt⟩
      rw [value_writeFiles_cons, heq]
      exact hearlier

/-! ## Whole bundles -/

/-- A bundle of which every file is stored. -/
structure Stored (directory : Path) (files : List (Text × Text)) (d after : Disk) : Prop where
  home : after.home = d.home
  /-- The directory is there. -/
  reached : after.isDirectory directory.text = true
  /-- The path of every file leads to a place, and the last file with this place is in it. -/
  content : ∀ earlier name content later, files = earlier ++ (name, content) :: later →
    ∃ l, after.locate (target directory name).text = .ok l ∧
      ((∀ entry ∈ later, after.locate (target directory entry.1).text ≠ .ok l) →
        ∃ bytes, Text.Utf8.encode? content = some bytes ∧
          after.read (target directory name).text = .ok bytes)
  /-- Every other place is as it was, or is a directory that was missing on the way. -/
  others : ∀ l, (∀ entry ∈ files, after.locate (target directory entry.1).text ≠ .ok l) →
    after.get? l = d.get? l ∨ NewOnWay directory d after l

/-- What can become of a bundle. -/
inductive Written (room : Nat) (tag : String) (directory : Path) (files : List (Text × Text))
    (d : Disk) : Except Halt Text × Disk → Prop where
  /-- All is stored. -/
  | stored {after : Disk} (h : Stored directory files d after) :
    Written room tag directory files d
      (.ok ("The files have been written to " ++ directory.text ++ "."), after)
  /-- The directory cannot be made; some of those above it may have been. -/
  | noDirectory {after : Disk} {e : DiskError}
    (hmade : d.makeDirectories room directory = (.error e, after))
    (hgrows : d.Grows directory after) :
    Written room tag directory files d
      (.error (e.halt (.write directory.text "cannot create output directory" (some e.message))),
        after)
  /-- One of the files cannot be written: what is there is what those before it make a bundle of,
  whatever was to follow. -/
  | stopped {earlier later : List (Text × Text)} {name content : Text} {after : Disk}
    {e : ReplaceError Defect} (hfiles : files = earlier ++ (name, content) :: later)
    (hearlier : (write ⟨directory, earlier⟩ room tag d).value =
      (.ok ("The files have been written to " ++ directory.text ++ "."), after))
    (hstored : Stored directory earlier d after)
    (hfile : writeFile tag (target directory name) content after = (.error e, after))
    (hlater : ∀ others,
      (write ⟨directory, earlier ++ (name, content) :: others⟩ room tag d).value =
        (.error (fault (target directory name).text e), after)) :
    Written room tag directory files d (.error (fault (target directory name).text e), after)

/-- A bundle is written after its directory is made. -/
theorem value_write (b : Bundle) (room : Nat) (tag : String) (d : Disk) :
    (b.write room tag d).value =
      match d.makeDirectories room b.directory with
      | (.error e, made) =>
        (.error (e.halt
          (.write b.directory.text "cannot create output directory" (some e.message))), made)
      | (.ok (), made) =>
        match (writeFiles tag b.directory b.files made).value with
        | (.error halt, after) => (.error halt, after)
        | (.ok (), after) =>
          (.ok ("The files have been written to " ++ b.directory.text ++ "."), after) := by
  unfold write
  rcases d.makeDirectories room b.directory with ⟨e | ⟨⟩, made⟩
  · exact congrArg (fun halt => (Except.error halt, made)) (value_refused _ _ _ e)
  · change Logged.value (match (writeFiles tag b.directory b.files made).value with
      | (.error halt, after) => _
      | (.ok (), after) => _) = _
    dsimp only
    rcases (writeFiles tag b.directory b.files made).value with ⟨halt | ⟨⟩, after⟩
    · rfl
    · rfl

/-- Making a directory keeps all files. -/
theorem makeDirectories_grows {directory : Path} (hp : directory.Proper) {room : Nat}
    {d made : Disk} {outcome : Except DiskError Unit}
    (h : d.makeDirectories room directory = (outcome, made)) :
    d.Grows directory made ∧
      (outcome = .ok () →
        ∃ l, made.locate directory.text = .ok l ∧ made.isDirectoryAt l = true) := by
  have hmade := makePath_made hp room d
  unfold makeDirectories at h
  split at h
  · rename_i l made' heq
    obtain ⟨-, rfl⟩ := Prod.mk.inj h
    rw [heq] at hmade
    exact ⟨hmade.grows, fun _ => ⟨l, hmade.reached l rfl⟩⟩
  · rename_i e made' heq
    obtain ⟨rfl, rfl⟩ := Prod.mk.inj h
    rw [heq] at hmade
    exact ⟨hmade.grows, fun hok => nomatch hok⟩

/-- Files that are stored in a directory that was made are stored as a bundle. -/
theorem stored_of_stores {directory : Path} {files : List (Text × Text)} {d made after : Disk}
    (hgrows : d.Grows directory made) {l : Location} (hlocate : made.locate directory.text = .ok l)
    (hdir : made.isDirectoryAt l = true) (h : Stores directory files made after) :
    Stored directory files d after := by
  refine ⟨h.kept.home.trans hgrows.home, ?_, ?_, ?_⟩
  · exact isDirectory_iff.2 ⟨l, locate_mono h.kept hlocate hdir, h.kept.directory l hdir⟩
  · intro earlier name content later hfiles
    obtain ⟨m, own, bytes, hslot, hitem⟩ := h.placed (name, content) (by simp [hfiles])
    have hplace := locate_of_slot hslot (by rw [hitem]; rfl)
    refine ⟨m ++ [own], hplace, fun hlater => ?_⟩
    refine h.last earlier name content later hfiles fun entry hentry => ?_
    rw [hplace]
    exact hlater entry hentry
  · intro k hk
    rcases h.others k with heq | ⟨entry, hentry, hlocate⟩
    · rcases hgrows.places k with hmade | ⟨hnone, hnew, n, hn⟩
      · exact .inl (heq.trans hmade)
      · refine .inr ⟨hnone, heq.trans hnew, n, ?_⟩
        exact locate_mono h.kept hn ((isDirectoryAt_iff _ _).2 hnew)
    · exact absurd hlocate (hk entry hentry)

/-- A bundle that is written is stored. -/
theorem write_eq_ok {b : Bundle} (hp : b.directory.Proper) {room : Nat} {tag : String}
    {d after : Disk} {text : Text} (h : (b.write room tag d).value = (.ok text, after)) :
    text = "The files have been written to " ++ b.directory.text ++ "." ∧
      Stored b.directory b.files d after := by
  rw [value_write] at h
  split at h
  · cases h
  · rename_i made hmade
    obtain ⟨hgrows, hreached⟩ := makeDirectories_grows hp hmade
    obtain ⟨l, hlocate, hdir⟩ := hreached rfl
    split at h
    · cases h
    · rename_i after' hfiles
      obtain ⟨htext, rfl⟩ := Prod.mk.inj h
      exact ⟨(Except.ok.inj htext).symm,
        stored_of_stores hgrows hlocate hdir (writeFiles_stores hfiles)⟩

/-- A bundle that is not written has no directory, or stops at one of its files. -/
theorem write_eq_error {b : Bundle} {room : Nat} {tag : String} {d after : Disk} {halt : Halt}
    (h : (b.write room tag d).value = (.error halt, after)) :
    (∃ e, d.makeDirectories room b.directory = (.error e, after) ∧
      halt = e.halt (.write b.directory.text "cannot create output directory" (some e.message))) ∨
    ∃ made earlier name content later e, d.makeDirectories room b.directory = (.ok (), made) ∧
      b.files = earlier ++ (name, content) :: later ∧
      (writeFiles tag b.directory earlier made).value = (.ok (), after) ∧
      writeFile tag (target b.directory name) content after = (.error e, after) ∧
      halt = fault (target b.directory name).text e := by
  rw [value_write] at h
  split at h
  · rename_i e made hmade
    obtain ⟨hhalt, rfl⟩ := Prod.mk.inj h
    exact .inl ⟨e, hmade, (Except.error.inj hhalt).symm⟩
  · rename_i made hmade
    split at h
    · rename_i halt' after' hfiles
      obtain ⟨hhalt, rfl⟩ := Prod.mk.inj h
      obtain rfl := Except.error.inj hhalt
      obtain ⟨earlier, name, content, later, e, hsplit, hearlier, hfile, hfault⟩ :=
        writeFiles_eq_error hfiles
      exact .inr ⟨made, earlier, name, content, later, e, hmade, hsplit, hearlier, hfile, hfault⟩
    · cases h

/-- Writing a bundle keeps the directory in which the program runs. -/
theorem home_write {b : Bundle} (hp : b.directory.Proper) {room : Nat} {tag : String}
    {d after : Disk} {outcome : Except Halt Text}
    (h : (b.write room tag d).value = (outcome, after)) :
    after.home = d.home := by
  cases outcome with
  | ok text => exact (write_eq_ok hp h).2.home
  | error halt =>
    obtain ⟨e, hmade, -⟩ | ⟨made, _, _, _, _, _, hmade, -, hearlier, -⟩ := write_eq_error h
    · exact (makeDirectories_grows hp hmade).1.home
    · exact (writeFiles_stores hearlier).kept.home.trans (makeDirectories_grows hp hmade).1.home

/-- A bundle is stored in its directory, as a whole or up to the first file that cannot be
written. -/
theorem write_stores_prefix (room : Nat) (tag : String) (directory : Text)
    (files : List (Text × Text)) (d : Disk) :
    Written room tag (.ofText directory) files d
      (write ⟨.ofText directory, files⟩ room tag d).value := by
  have hproper := Path.ofText_proper directory
  cases hwrite : (write ⟨.ofText directory, files⟩ room tag d).value with
  | mk outcome after =>
    cases outcome with
    | ok text =>
      obtain ⟨rfl, hstored⟩ := write_eq_ok hproper hwrite
      exact .stored hstored
    | error halt =>
      obtain ⟨e, hmade, rfl⟩ |
        ⟨made, earlier, name, content, later, e, hmade, hfiles, hearlier, hfile, rfl⟩ :=
        write_eq_error hwrite
      all_goals dsimp only at hmade
      · exact .noDirectory hmade (makeDirectories_grows hproper hmade).1
      · -- What follows the file at fault is never looked at, so any other files end the same way.
        dsimp only at hfiles hearlier hfile
        obtain ⟨hgrows, hreached⟩ := makeDirectories_grows hproper hmade
        obtain ⟨l, hlocate, hdir⟩ := hreached rfl
        have hstored := stored_of_stores hgrows hlocate hdir (writeFiles_stores hearlier)
        refine .stopped hfiles ?_ hstored hfile fun others => ?_
        · rw [value_write]
          dsimp only
          rw [hmade]
          dsimp only
          rw [hearlier]
        · rw [value_write]
          dsimp only
          rw [hmade]
          dsimp only
          rw [value_writeFiles_append hearlier, value_writeFiles_cons, hfile]

end Transducer.Bundle
