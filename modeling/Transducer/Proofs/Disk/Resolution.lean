import Transducer.Proofs.Disk.Route
import Transducer.Proofs.Text.Basic
import Transducer.Settings

/-!
# Paths as they are read, joined and written

What a text says about a path is given by rules (`Names`): the separators in front say where the
path starts, and the words between separators are its names, unless they are empty or a single dot.
Reading a text follows the rules (`names_iff`), and the text of a path whose parts are names is read
as the path again (`ofText_text`). Texts that are seen one from the other lead to a path by rules as
well (`Leads`, `leads_iff`). Since joining is associative (`join_assoc`), a directory in the
settings does not depend on whether its base is given at once or in two parts
(`outputRoot_composes`).
-/

namespace Transducer

namespace Path

/-! ## What a text says -/

/-- The names in a word between separators: none if it is empty or a single dot. -/
def named (word : Text) : List Text := if word = [] ∨ word = "." then [] else [word]

/-- The names in a text, in order. -/
inductive Lists : Text → List Text → Prop where
  | last {word : Text} (hword : separator ∉ word) : Lists word (named word)
  | more {word rest : Text} {names : List Text} (hword : separator ∉ word)
    (hrest : Lists rest names) : Lists (word ++ separator :: rest) (named word ++ names)

/-- Where a text starts, by the separators in front. -/
inductive StartsAt : Text → Root → Prop where
  | here {t : Text} (h : t.head? ≠ some separator) : StartsAt t .here
  | top {t : Text} (h : t.head? ≠ some separator) : StartsAt (separator :: t) .top
  /-- Exactly two separators are a root of their own. -/
  | doubleTop {t : Text} (h : t.head? ≠ some separator) :
    StartsAt (separator :: separator :: t) .doubleTop
  | many (t : Text) : StartsAt (separator :: separator :: separator :: t) .top

/-- What a text says about a path. -/
structure Names (t : Text) (p : Path) : Prop where
  start : StartsAt t p.root
  parts : Lists t p.parts

/-- The words of a word are the word, if it is a name. -/
theorem filter_splitAt_of_not_mem {word : Text} (h : separator ∉ word) :
    (Text.splitAt separator word).filter (fun part => part ≠ [] && part ≠ ".") = named word := by
  rw [Text.splitAt_of_not_mem h, named]
  by_cases hword : word = [] ∨ word = "."
  · rw [if_pos hword]
    rcases hword with rfl | rfl
    · rfl
    · rfl
  · rw [if_neg hword]
    obtain ⟨hne, hdot⟩ := not_or.1 hword
    simp [hne, hdot]

/-- A separator in front does not change the names. -/
theorem Lists.separated {t : Text} {names : List Text} (h : Lists t names) :
    Lists (separator :: t) names :=
  @Lists.more [] t names List.not_mem_nil h

/-- The names in a text are those that are read. -/
theorem Lists.parts_ofText {t : Text} {names : List Text} (h : Lists t names) :
    (ofText t).parts = names := by
  unfold ofText
  induction h with
  | last hword => exact filter_splitAt_of_not_mem hword
  | more hword hrest ih =>
    rw [Text.splitAt_append, List.filter_append, filter_splitAt_of_not_mem hword]
    exact congrArg _ ih

/-- Every text has names, if only none. -/
theorem exists_lists (t : Text) : ∃ names, Lists t names := by
  induction t with
  | nil => exact ⟨_, .last List.not_mem_nil⟩
  | cons c t ih =>
    obtain ⟨names, h⟩ := ih
    by_cases hc : c = separator
    · subst hc
      exact ⟨names, h.separated⟩
    · -- A code point in front belongs to the first word.
      have hcons {word : Text} (hword : separator ∉ word) : separator ∉ c :: word := by
        rw [List.mem_cons, not_or]
        exact ⟨fun heq => hc heq.symm, hword⟩
      cases h with
      | last hword => exact ⟨_, .last (hcons hword)⟩
      | more hword hrest => exact ⟨_, .more (hcons hword) hrest⟩

/-- The root of a text is the one that is read. -/
theorem StartsAt.root_ofText {t : Text} {root : Root} (h : StartsAt t root) :
    (ofText t).root = root := by
  have hnone {t : Text} (h : t.head? ≠ some separator) : t.takeWhile (· = separator) = [] := by
    cases t with
    | nil => rfl
    | cons c t =>
      have hc : c ≠ separator := fun heq => h (congrArg some heq)
      simp [hc]
  unfold ofText
  cases h with
  | here h => simp [hnone h, rootOf]
  | top h => simp [hnone h, rootOf]
  | doubleTop h => simp [hnone h, rootOf]
  | many t => simp [rootOf]

/-- Every text has a root. -/
theorem exists_startsAt (t : Text) : ∃ root, StartsAt t root := by
  by_cases h : t.head? = some separator
  · obtain ⟨t, rfl⟩ := List.head?_eq_some_iff.1 h
    by_cases h : t.head? = some separator
    · obtain ⟨t, rfl⟩ := List.head?_eq_some_iff.1 h
      by_cases h : t.head? = some separator
      · obtain ⟨t, rfl⟩ := List.head?_eq_some_iff.1 h
        exact ⟨_, .many t⟩
      · exact ⟨_, .doubleTop h⟩
    · exact ⟨_, .top h⟩
  · exact ⟨_, .here h⟩

/-- A text says what is read from it, and nothing else. -/
theorem names_iff {t : Text} {p : Path} : Names t p ↔ ofText t = p := by
  have hread {p : Path} (h : Names t p) : ofText t = p :=
    congrArg₂ Path.mk h.start.root_ofText h.parts.parts_ofText
  refine ⟨hread, ?_⟩
  rintro rfl
  obtain ⟨root, hstart⟩ := exists_startsAt t
  obtain ⟨parts, hparts⟩ := exists_lists t
  have hnames : Names t ⟨root, parts⟩ := ⟨hstart, hparts⟩
  rw [hread hnames]
  exact hnames

/-! ## What a path is written as -/

/-- Every part of a path is a name. -/
def Normal (p : Path) : Prop := ∀ part ∈ p.parts, named part = [part] ∧ separator ∉ part

/-- A path that is read from a text has names as its parts. -/
theorem ofText_normal (t : Text) : (ofText t).Normal := by
  intro part hpart
  refine ⟨?_, (ofText_proper t part hpart).2⟩
  obtain ⟨-, hne⟩ := List.mem_filter.1 hpart
  rw [Bool.and_eq_true, decide_eq_true_eq, decide_eq_true_eq] at hne
  exact if_neg (not_or.2 hne)

/-- Two paths with names as their parts make such a path. -/
theorem join_normal {p q : Path} (hp : p.Normal) (hq : q.Normal) : (p.join q).Normal := by
  unfold join
  split
  · exact hq
  · exact List.forall_mem_append.2 ⟨hp, hq⟩

/-- Names with separators between them are listed again. -/
theorem lists_join {parts : List Text}
    (h : ∀ part ∈ parts, named part = [part] ∧ separator ∉ part) :
    Lists (Text.join "/" parts) parts := by
  unfold Text.join
  induction parts with
  | nil => exact .last List.not_mem_nil
  | cons part rest ih =>
    obtain ⟨⟨hname, hpart⟩, hrest⟩ := List.forall_mem_cons.1 h
    cases rest with
    | nil =>
      have hlast := Lists.last hpart
      rw [hname] at hlast
      simpa [List.intercalate] using hlast
    | cons next rest =>
      have hmore := Lists.more hpart (ih hrest)
      rw [hname] at hmore
      rw [List.intercalate_cons_cons, List.append_assoc]
      exact hmore

/-- Names with separators between them do not start with one. -/
theorem head?_join {parts : List Text}
    (h : ∀ part ∈ parts, named part = [part] ∧ separator ∉ part) :
    (Text.join "/" parts).head? ≠ some separator := by
  unfold Text.join
  cases parts with
  | nil => simp [List.intercalate]
  | cons part rest =>
    obtain ⟨⟨hname, hpart⟩, -⟩ := List.forall_mem_cons.1 h
    cases part with
    | nil => cases hname
    | cons c word =>
      have hc : c ≠ separator := fun heq => hpart (heq ▸ List.mem_cons_self)
      cases rest with
      | nil => simpa [List.intercalate] using hc
      | cons next rest => simpa [List.intercalate_cons_cons] using hc

/-- The text of a path whose parts are names says what the path is. -/
theorem names_text {p : Path} (h : p.Normal) : Names p.text p := by
  obtain ⟨root, parts⟩ := p
  have hlists := lists_join h
  have hhead := head?_join h
  unfold text
  cases root with
  | here =>
    cases parts with
    | nil => exact ⟨.here (by decide), .last (by decide)⟩
    | cons part rest => exact ⟨.here hhead, hlists⟩
  | top => exact ⟨.top hhead, hlists.separated⟩
  | doubleTop => exact ⟨.doubleTop hhead, hlists.separated.separated⟩

/-- The text of a path whose parts are names is read as the path. -/
theorem ofText_text {p : Path} (h : p.Normal) : ofText p.text = p := names_iff.1 (names_text h)

example : (ofText "//a/./b//../").text = "//a/b/.." := by decide

/-! ## One path seen from another -/

/-- An absolute path stays as it is. -/
theorem join_of_absolute (p : Path) {q : Path} (h : q.isAbsolute = true) : p.join q = q := if_pos h

/-- The names of a relative path follow those of the other. -/
theorem join_of_relative (p : Path) {q : Path} (h : q.isAbsolute ≠ true) :
    p.join q = ⟨p.root, p.parts ++ q.parts⟩ := if_neg h

/-- A joined path is absolute if one of its parts is. -/
theorem isAbsolute_join (p q : Path) :
    (p.join q).isAbsolute = true ↔ q.isAbsolute = true ∨ p.isAbsolute = true := by
  by_cases hq : q.isAbsolute = true
  · simp [join_of_absolute p hq, hq]
  · rw [join_of_relative p hq, or_iff_right hq]
    rfl

/-- It does not matter which two of three paths are joined first. -/
theorem join_assoc (p q r : Path) : (p.join q).join r = p.join (q.join r) := by
  by_cases hr : r.isAbsolute = true
  · rw [join_of_absolute _ hr, join_of_absolute q hr, join_of_absolute p hr]
  · by_cases hq : q.isAbsolute = true
    · have hqr : (q.join r).isAbsolute = true := (isAbsolute_join q r).2 (.inr hq)
      rw [join_of_absolute p hq, join_of_absolute p hqr]
    · have hqr : (q.join r).isAbsolute ≠ true := fun h =>
        ((isAbsolute_join q r).1 h).elim hr hq
      rw [join_of_relative p hqr, join_of_relative (p.join q) hr, join_of_relative p hq,
        join_of_relative q hr, List.append_assoc]

/-- Where texts that are seen one from the other start. -/
def origin : Path := ⟨.here, []⟩

/-- Every path can be seen from there. -/
theorem origin_join (p : Path) : origin.join p = p := by
  by_cases hp : p.isAbsolute = true
  · exact join_of_absolute _ hp
  · have hroot : p.root = .here := by simpa [isAbsolute] using hp
    rw [join_of_relative _ hp]
    show (⟨.here, p.parts⟩ : Path) = p
    rw [← hroot]

/-- The path that some texts lead to, each seen from those before it. -/
inductive Leads : List Text → Path → Prop where
  | start : Leads [] origin
  /-- The names of a relative text follow those before it. -/
  | further {texts : List Text} {t : Text} {p : Path} {names : List Text} (hbase : Leads texts p)
    (ht : Names t ⟨.here, names⟩) : Leads (texts ++ [t]) ⟨p.root, p.parts ++ names⟩
  /-- An absolute text leaves behind what is before it. -/
  | anew {t : Text} {q : Path} (texts : List Text) (ht : Names t q) (hroot : q.root ≠ .here) :
    Leads (texts ++ [t]) q

/-- Texts lead to the path that is joined from them, and to no other. -/
theorem leads_iff {texts : List Text} {p : Path} :
    Leads texts p ↔ texts.foldl (fun base t => base.join (ofText t)) origin = p := by
  constructor
  · intro h
    induction h with
    | start => rfl
    | further hbase ht ih =>
      rw [List.foldl_append, ih, List.foldl_cons, List.foldl_nil, names_iff.1 ht]
      exact join_of_relative _ (by simp [isAbsolute])
    | anew texts ht hroot =>
      rw [List.foldl_append, List.foldl_cons, List.foldl_nil, names_iff.1 ht]
      exact join_of_absolute _ (by simpa [isAbsolute] using hroot)
  · rintro rfl
    induction texts using List.reverseRecOn with
    | nil => exact .start
    | append_singleton texts t ih =>
      rw [List.foldl_append, List.foldl_cons, List.foldl_nil]
      by_cases ht : (ofText t).isAbsolute = true
      · rw [join_of_absolute _ ht]
        exact .anew texts (names_iff.2 rfl) (by simpa [isAbsolute] using ht)
      · have hroot : (ofText t).root = .here := by simpa [isAbsolute] using ht
        rw [join_of_relative _ ht]
        exact .further ih (names_iff.2 (by rw [← hroot]))

end Path

/-! ## Directories in the settings -/

namespace Settings

open Document
open Transducer.Path (ofText)

/-- Settings that say where output goes, and nothing else. -/
def outputSetting (directory : Text) : Data := Value.record [("output_root", .text directory)]

/-- A directory in the settings is seen from the base. -/
theorem ofData_outputSetting (writer : Writer) (directory : Text) (base : Path) :
    ofData writer (outputSetting directory) (some base) =
      .ok { outputRoot := base.join (ofText directory) } := by
  have hentries : (outputSetting directory).entries? =
      some [(.text "output_root", (Value.text directory : Data))] := rfl
  have hother {key : String} (hkey : "output_root" ≠ key) :
      lookup? key [(.text "output_root", (Value.text directory : Data))] = none := by
    simp [lookup?, hkey]
  have hown : lookup? "output_root" [(.text "output_root", (Value.text directory : Data))] =
      some (Value.text directory : Data) := if_pos rfl
  have hlogging : loggingEntries [(.text "output_root", (Value.text directory : Data))] =
      .ok [] := by
    rw [loggingEntries, hother (by decide)]
  unfold ofData
  rw [hentries]
  dsimp only
  rw [hlogging, hown, hother (by decide)]
  rfl

/-- For a base of two parts, output goes to the same directory whether it is seen from both parts at
once, or seen from the second, written, and then seen from the first. The directory is absolute if
its text or the base is, it is read again as it is written, and it is the one that the three texts
lead to. -/
theorem outputRoot_composes (writer writer' : Writer) (b₁ b₂ v : Text) :
    ∃ p : Path,
      ofData writer (outputSetting v) (some ((ofText b₁).join (ofText b₂))) =
        .ok { outputRoot := p } ∧
      ofData writer' (outputSetting ((ofText b₂).join (ofText v)).text) (some (ofText b₁)) =
        .ok { outputRoot := p } ∧
      (p.isAbsolute = true ↔
        (ofText v).isAbsolute = true ∨ ((ofText b₁).join (ofText b₂)).isAbsolute = true) ∧
      ofText p.text = p ∧ ∀ q, Path.Leads [b₁, b₂, v] q ↔ q = p := by
  have hinner : ((ofText b₂).join (ofText v)).Normal :=
    Path.join_normal (Path.ofText_normal b₂) (Path.ofText_normal v)
  have houter : (((ofText b₁).join (ofText b₂)).join (ofText v)).Normal := by
    rw [Path.join_assoc]
    exact Path.join_normal (Path.ofText_normal b₁) hinner
  refine ⟨((ofText b₁).join (ofText b₂)).join (ofText v), ofData_outputSetting writer v _, ?_,
    Path.isAbsolute_join _ _, Path.ofText_text houter, fun q => ?_⟩
  · rw [ofData_outputSetting, Path.ofText_text hinner, Path.join_assoc]
  · rw [Path.leads_iff, List.foldl_cons, List.foldl_cons, List.foldl_cons, List.foldl_nil,
      Path.origin_join, eq_comm]

end Settings

end Transducer
