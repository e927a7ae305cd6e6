import Transducer.Disk.Basic
import Transducer.Proofs.Outcome

/-!
# Looking things up on a disk

A disk is seen through `get?`, and storing or removing an item changes what is at its own place
only. Where a path leads is decided by the directories: on a disk that has the directories of
another one (`Extends`), what was found in a directory is found again, and so is the place for
something new (`slot_mono`).
-/

namespace Transducer.Disk

open Outcome (bind_eq_ok_iff)

/-! ## Items -/

/-- The root is a directory. -/
@[simp]
theorem get?_nil (d : Disk) : d.get? [] = some .directory := rfl

/-- Below the root, an item is found in the list. -/
theorem get?_of_ne_nil (d : Disk) {l : Location} (h : l ≠ []) : d.get? l = d.items.lookup l :=
  if_neg h

/-- A place with nothing at it is not the root. -/
theorem ne_nil_of_get?_eq_none {d : Disk} {l : Location} (h : d.get? l = none) : l ≠ [] := by
  rintro rfl
  rw [get?_nil] at h
  cases h

/-- A list without the items of one place has the others as before. -/
theorem lookup_filter_ne (items : List (Location × Item)) (l k : Location) :
    (items.filter fun item => item.1 ≠ l).lookup k = if k = l then none else items.lookup k := by
  induction items with
  | nil => simp
  | cons item items ih =>
    obtain ⟨place, content⟩ := item
    by_cases hplace : place = l
    · subst hplace
      rw [List.filter_cons_of_neg (by simp), ih, List.lookup_cons]
      by_cases hk : k = place
      · rw [if_pos hk, if_pos hk]
      · rw [if_neg hk, if_neg hk, beq_false_of_ne hk]
    · rw [List.filter_cons_of_pos (by simpa using hplace), List.lookup_cons, List.lookup_cons, ih]
      by_cases hk : k = place
      · subst hk
        simp [hplace]
      · rw [beq_false_of_ne hk]

/-- Removing an item empties its place. -/
theorem get?_erase (d : Disk) {l : Location} (hl : l ≠ []) (k : Location) :
    (d.erase l).get? k = if k = l then none else d.get? k := by
  by_cases hk : k = []
  · subst hk
    rw [get?_nil, get?_nil, if_neg hl.symm]
  · rw [get?_of_ne_nil _ hk, get?_of_ne_nil _ hk]
    exact lookup_filter_ne d.items l k

/-- Storing an item fills its place. -/
theorem get?_put (d : Disk) {l : Location} (hl : l ≠ []) (item : Item) (k : Location) :
    (d.put l item).get? k = if k = l then some item else d.get? k := by
  by_cases hk : k = []
  · subst hk
    rw [get?_nil, get?_nil, if_neg hl.symm]
  · have hput : (d.put l item).items.lookup k =
        ((l, item) :: (d.erase l).items).lookup k := rfl
    rw [get?_of_ne_nil _ hk, hput, List.lookup_cons]
    by_cases heq : k = l
    · subst heq
      simp
    · rw [beq_false_of_ne heq, if_neg heq, ← get?_of_ne_nil _ hk, get?_erase d hl, if_neg heq]

/-- Removing what is not there changes nothing. -/
theorem erase_eq_self {d : Disk} {l : Location} (h : d.get? l = none) : d.erase l = d := by
  rw [get?_of_ne_nil _ (ne_nil_of_get?_eq_none h), List.lookup_eq_none_iff] at h
  have hitems : (d.items.filter fun item => item.1 ≠ l) = d.items := by
    rw [List.filter_eq_self]
    intro item hitem
    have hne : l ≠ item.1 := bne_iff_ne.1 (h item hitem)
    exact decide_eq_true hne.symm
  rw [erase, hitems]

/-- Removing an item that was stored where nothing was gives the disk back. -/
theorem erase_put {d : Disk} {l : Location} (h : d.get? l = none) (item : Item) :
    (d.put l item).erase l = d := by
  have hdrop : (d.put l item).erase l = (d.erase l).erase l := by
    rw [put, erase, List.filter_cons_of_neg (by simp)]
    rfl
  rw [hdrop, erase_eq_self h, erase_eq_self h]

/-- An item that is stored again where nothing was is stored once. -/
theorem put_put {d : Disk} {l : Location} (h : d.get? l = none) (first second : Item) :
    (d.put l first).put l second = d.put l second := by
  rw [put, erase_put h, put, erase_eq_self h]

/-- Whether a place holds a directory, as a fact on what is there. -/
theorem isDirectoryAt_iff (d : Disk) (l : Location) :
    d.isDirectoryAt l = true ↔ d.get? l = some .directory := decide_eq_true_iff

/-! ## Walks -/

/-- A disk that has the directories of another one, and maybe more. -/
structure Extends (d d' : Disk) : Prop where
  home : d'.home = d.home
  directory : ∀ l, d.isDirectoryAt l = true → d'.isDirectoryAt l = true

namespace Extends

variable {d d' d'' : Disk}

/-- A disk has its own directories. -/
theorem refl (d : Disk) : d.Extends d := ⟨rfl, fun _ h => h⟩

/-- A disk has the directories that a disk has whose directories it has. -/
theorem trans (h : d.Extends d') (h' : d'.Extends d'') : d.Extends d'' :=
  ⟨h'.home.trans h.home, fun l hl => h'.directory l (h.directory l hl)⟩

end Extends

/-- Storing an item keeps the directories, unless it takes the place of one. -/
theorem extends_put {d : Disk} {l : Location} (hl : l ≠ []) (item : Item)
    (h : d.get? l ≠ some .directory ∨ item = .directory) : d.Extends (d.put l item) := by
  refine ⟨rfl, fun k hk => ?_⟩
  rw [isDirectoryAt_iff] at hk ⊢
  rw [get?_put d hl]
  split
  · rename_i heq
    subst heq
    rcases h with h | rfl
    · exact absurd hk h
    · rfl
  · exact hk

/-- Names that stand for no place of their own. -/
def IsSpecial (name : Name) : Prop := name = [] ∨ name = .self ∨ name = .above

/-- A step leads on from a directory: to itself, to the one above, or to what is in it. -/
theorem step_eq_ok {d : Disk} {l l' : Location} {name : Name} (h : d.step l name = .ok l') :
    d.isDirectoryAt l = true ∧
      ((name = [] ∨ name = .self) ∧ l' = l ∨ name = .above ∧ l' = l.dropLast ∨
        ¬ IsSpecial name ∧ isTooLong name = false ∧ (d.get? (l ++ [name])).isSome = true ∧
          l' = l ++ [name]) := by
  unfold step at h
  split at h
  · cases h
  · rename_i hdir
    refine ⟨by simpa using hdir, ?_⟩
    split at h
    · rename_i hself
      exact .inl ⟨by simpa using hself, (Except.ok.inj h).symm⟩
    · rename_i hself
      split at h
      · rename_i habove
        exact .inr (.inl ⟨habove, (Except.ok.inj h).symm⟩)
      · rename_i habove
        split at h
        · cases h
        · rename_i hlong
          split at h
          · rename_i hsome
            refine .inr (.inr ⟨?_, by simpa using hlong, hsome, (Except.ok.inj h).symm⟩)
            rintro (hname | hname | hname)
            · exact hself (by simp [hname])
            · exact hself (by simp [hname])
            · exact habove hname
          · cases h

/-- A step by a name of its own leads to what is there. -/
theorem step_of_isSome {d : Disk} {l : Location} {name : Name} (hdir : d.isDirectoryAt l = true)
    (hname : ¬ IsSpecial name) (hlong : isTooLong name = false)
    (hsome : (d.get? (l ++ [name])).isSome = true) : d.step l name = .ok (l ++ [name]) := by
  have hself : (decide (name = []) || decide (name = Name.self)) = false := by
    rw [Bool.or_eq_false_iff, decide_eq_false_iff_not, decide_eq_false_iff_not]
    exact ⟨fun h => hname (.inl h), fun h => hname (.inr (.inl h))⟩
  have habove : name ≠ .above := fun h => hname (.inr (.inr h))
  simp [step, hdir, hself, habove, hlong, hsome]

/-- A walk along more names goes on where the first ones lead. -/
theorem walk_append (d : Disk) (l : Location) (names rest : List Name) :
    d.walk l (names ++ rest) = d.walk l names >>= fun m => d.walk m rest := by
  induction names generalizing l with
  | nil => rfl
  | cons name names ih =>
    rw [List.cons_append, walk, walk]
    cases d.step l name with
    | error refusal => rfl
    | ok m => exact ih m

/-- A walk along one more name. -/
theorem walk_concat (d : Disk) (l : Location) (names : List Name) (name : Name) :
    d.walk l (names ++ [name]) = d.walk l names >>= fun m => d.step m name := by
  rw [walk_append]
  congr 1
  funext m
  rw [walk]
  cases d.step m name with
  | error refusal => rfl
  | ok m => rfl

/-- A walk that ends in a directory starts in one. -/
theorem isDirectoryAt_of_walk {d : Disk} {l l' : Location} {names : List Name}
    (h : d.walk l names = .ok l') (hdir : d.isDirectoryAt l' = true) :
    d.isDirectoryAt l = true := by
  cases names with
  | nil =>
    obtain rfl := Except.ok.inj h
    exact hdir
  | cons name names =>
    obtain ⟨m, hm, -⟩ := bind_eq_ok_iff.1 h
    exact (step_eq_ok hm).1

/-- A step to a directory is the same on a disk with more directories. -/
theorem step_mono {d d' : Disk} (hext : d.Extends d') {l l' : Location} {name : Name}
    (h : d.step l name = .ok l') (hdir : d.isDirectoryAt l' = true) : d'.step l name = .ok l' := by
  obtain ⟨hl, ⟨hname, rfl⟩ | ⟨rfl, rfl⟩ | ⟨hname, hlong, -, rfl⟩⟩ := step_eq_ok h
  · rcases hname with rfl | rfl
    · simp [step, hext.directory _ hl]
    · simp [step, hext.directory _ hl]
  · simp [step, hext.directory _ hl, Name.above, Name.self]
  · refine step_of_isSome (hext.directory _ hl) hname hlong ?_
    rw [(isDirectoryAt_iff _ _).1 (hext.directory _ hdir)]
    rfl

/-- A walk to a directory is the same on a disk with more directories. -/
theorem walk_mono {d d' : Disk} (hext : d.Extends d') {l l' : Location} {names : List Name}
    (h : d.walk l names = .ok l') (hdir : d.isDirectoryAt l' = true) :
    d'.walk l names = .ok l' := by
  -- The places on the way are directories too, since the walk goes on from them.
  induction names generalizing l with
  | nil => exact h
  | cons name names ih =>
    obtain ⟨m, hm, hrest⟩ := bind_eq_ok_iff.1 h
    rw [walk, step_mono hext hm (isDirectoryAt_of_walk hrest hdir)]
    exact ih hrest

/-! ## Paths -/

/-- A path starts the same way on disks with the same home. -/
theorem route_congr {d d' : Disk} (h : d'.home = d.home) (path : Text) :
    d'.route path = d.route path := by
  unfold route
  rw [h]

/-- A path can be looked up if its text has bytes, not too many and none of them null. -/
theorem route_eq_ok_iff {d : Disk} {path : Text} {start : Location} {names : List Name} :
    d.route path = .ok (start, names) ↔ ∃ bytes, Name.ofText? path = some bytes ∧ 0 ∉ bytes ∧
      bytes ≠ [] ∧ bytes.length ≤ pathLimit ∧
      start = (if bytes.head? = some Name.separator then [] else d.home) ∧
      names = Text.splitAt Name.separator bytes := by
  unfold route
  cases Name.ofText? path with
  | none => simp
  | some bytes =>
    dsimp only
    by_cases hnull : bytes.contains 0 = true
    · rw [if_pos hnull]
      simpa using fun hnot => absurd (List.contains_iff_mem.1 hnull) hnot
    · rw [if_neg hnull]
      have hnull : (0 : UInt8) ∉ bytes := fun h => hnull (List.contains_iff_mem.2 h)
      by_cases hempty : bytes.isEmpty = true
      · rw [if_pos hempty]
        simpa using fun _ hne => absurd (List.isEmpty_iff.1 hempty) hne
      · rw [if_neg hempty]
        have hne : bytes ≠ [] := fun h => hempty (List.isEmpty_iff.2 h)
        by_cases hlong : pathLimit < bytes.length
        · rw [if_pos hlong]
          simpa using fun _ _ hle => absurd hlong (Nat.not_lt.2 hle)
        · rw [if_neg hlong]
          have hle : bytes.length ≤ pathLimit := Nat.not_lt.1 hlong
          simp [hnull, hne, hle, eq_comm]

/-- A text has at least one word. -/
theorem splitAt_ne_nil {α : Type} [DecidableEq α] (separator : α) (text : List α) :
    Text.splitAt separator text ≠ [] := by
  cases text with
  | nil => simp [Text.splitAt]
  | cons c rest =>
    rw [Text.splitAt]
    split
    · simp
    · cases Text.splitAt separator rest with
      | nil => simp
      | cons word words => simp

/-- The names of a path are those before the last, and the last. -/
theorem names_of_route {d : Disk} {path : Text} {start : Location} {names : List Name}
    (h : d.route path = .ok (start, names)) :
    names = names.dropLast ++ [names.getLast?.getD []] := by
  obtain ⟨bytes, -, -, -, -, -, hnames⟩ := route_eq_ok_iff.1 h
  have hne : names ≠ [] := hnames ▸ splitAt_ne_nil _ _
  rw [List.getLast?_eq_some_getLast hne, Option.getD_some, List.dropLast_concat_getLast]

/-- Something new can be put into a directory, under a name of its own or none. -/
theorem slotIn_eq_ok {d : Disk} {l l' : Location} {name : Name} {own : Option Name}
    (h : d.slotIn l name = .ok (l', own)) :
    l' = l ∧ d.isDirectoryAt l = true ∧
      (own = none ∧ IsSpecial name ∨
        own = some name ∧ ¬ IsSpecial name ∧ isTooLong name = false) := by
  unfold slotIn at h
  split at h
  · cases h
  · rename_i hdir
    have hdir : d.isDirectoryAt l = true := by simpa using hdir
    split at h
    · rename_i hname
      obtain ⟨rfl, rfl⟩ := Prod.mk.inj (Except.ok.inj h)
      refine ⟨rfl, hdir, .inl ⟨rfl, ?_⟩⟩
      simpa [IsSpecial, or_assoc] using hname
    · rename_i hname
      split at h
      · cases h
      · rename_i hlong
        obtain ⟨rfl, rfl⟩ := Prod.mk.inj (Except.ok.inj h)
        refine ⟨rfl, hdir, .inr ⟨rfl, ?_, by simpa using hlong⟩⟩
        simpa [IsSpecial, or_assoc] using hname

/-- Whether something new can be put into a directory does not depend on what else is there. -/
theorem slotIn_mono {d d' : Disk} (hext : d.Extends d') {l : Location} {name : Name}
    {place : Location × Option Name} (h : d.slotIn l name = .ok place) :
    d'.slotIn l name = .ok place := by
  obtain ⟨l', own⟩ := place
  obtain ⟨-, hdir, -⟩ := slotIn_eq_ok h
  unfold slotIn at h ⊢
  rw [hdir] at h
  rw [hext.directory l hdir]
  exact h

/-- What is refused to something new in a directory is about the state of the disk. -/
theorem isReported_of_slotIn {d : Disk} {l : Location} {name : Name} {refusal : Refusal}
    (h : d.slotIn l name = .error refusal) : refusal.isReported = true := by
  unfold slotIn at h
  repeat' split at h
  all_goals cases h
  all_goals rfl

/-- The place for something new is reached by a walk. -/
theorem slot_eq_ok_iff {d : Disk} {path : Text} {place : Location × Option Name} :
    d.slot path = .ok place ↔ ∃ start names l, d.route path = .ok (start, names) ∧
      d.walk start names.dropLast = .ok l ∧
      d.slotIn l (names.getLast?.getD []) = .ok place := by
  unfold slot
  rw [bind_eq_ok_iff]
  constructor
  · rintro ⟨⟨start, names⟩, hroute, h⟩
    obtain ⟨l, hl, hplace⟩ := bind_eq_ok_iff.1 h
    exact ⟨start, names, l, hroute, hl, hplace⟩
  · rintro ⟨start, names, l, hroute, hl, hplace⟩
    exact ⟨(start, names), hroute, bind_eq_ok_iff.2 ⟨l, hl, hplace⟩⟩

/-- The place that a path leads to is reached by a walk. -/
theorem locate_eq_ok_iff {d : Disk} {path : Text} {l : Location} :
    d.locate path = .ok l ↔ ∃ start names, d.route path = .ok (start, names) ∧
      d.walk start names = .ok l := by
  unfold locate
  rw [bind_eq_ok_iff]
  constructor
  · rintro ⟨⟨start, names⟩, hroute, h⟩
    exact ⟨start, names, hroute, h⟩
  · rintro ⟨start, names, hroute, h⟩
    exact ⟨(start, names), hroute, h⟩

/-- The place for something new is the same on a disk with more directories. -/
theorem slot_mono {d d' : Disk} (hext : d.Extends d') {path : Text}
    {place : Location × Option Name} (h : d.slot path = .ok place) : d'.slot path = .ok place := by
  obtain ⟨l', own⟩ := place
  obtain ⟨start, names, l, hroute, hwalk, hslot⟩ := slot_eq_ok_iff.1 h
  obtain ⟨-, hdir, -⟩ := slotIn_eq_ok hslot
  refine slot_eq_ok_iff.2 ⟨start, names, l, ?_, walk_mono hext hwalk hdir, slotIn_mono hext hslot⟩
  rw [route_congr hext.home, hroute]

/-- A directory that a path leads to is found again on a disk with more directories. -/
theorem locate_mono {d d' : Disk} (hext : d.Extends d') {path : Text} {l : Location}
    (h : d.locate path = .ok l) (hdir : d.isDirectoryAt l = true) : d'.locate path = .ok l := by
  obtain ⟨start, names, hroute, hwalk⟩ := locate_eq_ok_iff.1 h
  refine locate_eq_ok_iff.2 ⟨start, names, ?_, walk_mono hext hwalk hdir⟩
  rw [route_congr hext.home, hroute]

/-- A path leads to its place once something is there. -/
theorem locate_of_slot {d : Disk} {path : Text} {l : Location} {name : Name}
    (h : d.slot path = .ok (l, some name)) (hsome : (d.get? (l ++ [name])).isSome = true) :
    d.locate path = .ok (l ++ [name]) := by
  obtain ⟨start, names, m, hroute, hwalk, hslot⟩ := slot_eq_ok_iff.1 h
  obtain ⟨rfl, hdir, hcases⟩ := slotIn_eq_ok hslot
  obtain ⟨hnone, -⟩ | ⟨hown, hname, hlong⟩ := hcases
  · cases hnone
  · obtain rfl := Option.some.inj hown
    refine locate_eq_ok_iff.2 ⟨start, names, hroute, ?_⟩
    have hnames : d.walk start names = d.walk start names.dropLast >>= fun m =>
        d.step m (names.getLast?.getD []) := by
      rw [← walk_concat, ← names_of_route hroute]
    rw [hnames, hwalk]
    exact step_of_isSome hdir hname hlong hsome

/-- A path leads to what is at its place. -/
theorem stat_eq_ok_iff {d : Disk} {path : Text} {item : Item} :
    d.stat path = .ok item ↔ ∃ l, d.locate path = .ok l ∧ d.get? l = some item := by
  unfold stat
  rw [bind_eq_ok_iff]
  refine exists_congr fun l => and_congr_right fun _ => ?_
  cases d.get? l with
  | none => simp
  | some found => simp

/-- A path leads to a directory if one is at its place. -/
theorem isDirectory_iff {d : Disk} {path : Text} :
    d.isDirectory path = true ↔ ∃ l, d.locate path = .ok l ∧ d.isDirectoryAt l = true := by
  have hstat : d.isDirectory path = true ↔ d.stat path = .ok .directory := by
    unfold isDirectory
    split <;> simp_all
  rw [hstat, stat_eq_ok_iff]
  simp only [isDirectoryAt_iff]

/-- The content of a file that can be read is at the place of its path. -/
theorem read_eq_ok_iff {d : Disk} {path : Text} {content : List UInt8} :
    d.read path = .ok content ↔ ∃ l, d.locate path = .ok l ∧ d.get? l = some (.file content) := by
  have hstat : d.read path = .ok content ↔ d.stat path = .ok (.file content) := by
    unfold read
    split <;> simp_all
  rw [hstat, stat_eq_ok_iff]

/-- What is at the place of a path is what the path leads to. -/
theorem read_of_slot {d : Disk} {path : Text} {l : Location} {name : Name} {content : List UInt8}
    (h : d.slot path = .ok (l, some name)) (hfile : d.get? (l ++ [name]) = some (.file content)) :
    d.read path = .ok content :=
  read_eq_ok_iff.2 ⟨_, locate_of_slot h (by rw [hfile]; rfl), hfile⟩

end Transducer.Disk
