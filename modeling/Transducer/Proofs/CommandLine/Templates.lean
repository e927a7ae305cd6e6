import Transducer.Proofs.Code.Generation
import Transducer.Proofs.CommandLine.Phases
import Transducer.Proofs.Disk.TextFile

/-!
# The templates of a run

The settings may name a directory with two templates. Settings are accepted if they can be used
(`Settings.validate_eq_ok_iff`), and then both files are there, so reading them fails only if one is
no UTF-8 text, and the tokens of the templates are those of the files (`templatesOf_verdict`). The
embedded templates are always there.
-/

namespace Transducer

open Log
open Outcome (bind_eq_ok_iff)

/-! ## Settings that are accepted -/

namespace Settings

/-- The settings can be used on a disk. -/
structure Valid (s : Settings) (d : Disk) : Prop where
  level : (Level.ofName? s.level).isSome = true
  format : s.format ∈ formats
  /-- Templates that are named are files in a directory. -/
  templates : ∀ directory, s.templatesDir = some directory →
    d.stat directory.text = .ok .directory ∧
      ∀ file ∈ [Templates.headerFile, Templates.sourceFile],
        ∃ bytes, d.read (directory.join (.ofText file)).text = .ok bytes

/-- What a look-up finds is what the path leads to. -/
theorem lookAt_eq_some {d : Disk} {path : Path} {item : Item}
    (h : lookAt d path = .ok (some item)) : d.stat path.text = .ok item := by
  unfold lookAt Disk.find? at h
  split at h
  · rename_i found hfound
    obtain rfl := Except.ok.inj h
    split at hfound
    · rename_i item' hstat
      rw [hstat, Option.some.inj (Except.ok.inj hfound)]
    · cases hfound
    · cases hfound
  · cases h

/-- A look-up finds what the path leads to. -/
theorem lookAt_of_stat {d : Disk} {path : Path} {item : Item} (h : d.stat path.text = .ok item) :
    lookAt d path = .ok (some item) := by
  rw [lookAt, Disk.find?, h]

/-- A template has to be there as a file that can be read. -/
theorem requireTemplate_eq_ok_iff {d : Disk} {directory : Path} {file : String} :
    requireTemplate d directory file = .ok () ↔
      ∃ bytes, d.read (directory.join (.ofText file)).text = .ok bytes := by
  constructor
  · intro h
    obtain ⟨found, hfound, h⟩ := bind_eq_ok_iff.1 h
    split at h
    · rename_i bytes
      refine ⟨bytes, ?_⟩
      rw [Disk.read, lookAt_eq_some hfound]
    · cases h
  · rintro ⟨bytes, hread⟩
    refine bind_eq_ok_iff.2 ⟨some (.file bytes), lookAt_of_stat ?_, rfl⟩
    unfold Disk.read at hread
    split at hread
    · rename_i content hstat
      rw [hstat, Except.ok.inj hread]
    · cases hread
    · cases hread

/-- Settings pass their check if they can be used. -/
theorem validate_eq_ok_iff {s : Settings} {d : Disk} : s.validate d = .ok () ↔ s.Valid d := by
  unfold validate
  dsimp only
  constructor
  · intro h
    split at h
    · cases h
    rename_i hlevel
    split at h
    · cases h
    rename_i hformat
    refine ⟨by simpa [Option.isSome_iff_ne_none] using hlevel, by simpa using hformat, ?_⟩
    intro directory hdirectory
    rw [hdirectory] at h
    obtain ⟨found, hfound, h⟩ := bind_eq_ok_iff.1 h
    split at h
    · obtain ⟨⟨⟩, hheader, hsource⟩ := bind_eq_ok_iff.1 h
      refine ⟨lookAt_eq_some hfound, fun file hfile => ?_⟩
      rcases List.mem_pair.1 hfile with rfl | rfl
      · exact requireTemplate_eq_ok_iff.1 hheader
      · exact requireTemplate_eq_ok_iff.1 hsource
    · cases h
  · rintro ⟨hlevel, hformat, htemplates⟩
    rw [if_neg (by simpa [Option.isSome_iff_ne_none] using hlevel), if_neg (by simpa using hformat)]
    cases hdirectory : s.templatesDir with
    | none => rfl
    | some directory =>
      obtain ⟨hstat, hfiles⟩ := htemplates directory hdirectory
      refine bind_eq_ok_iff.2 ⟨_, lookAt_of_stat hstat, bind_eq_ok_iff.2 ⟨(), ?_, ?_⟩⟩
      · exact requireTemplate_eq_ok_iff.2 (hfiles _ List.mem_cons_self)
      · exact requireTemplate_eq_ok_iff.2 (hfiles _ (List.mem_cons_of_mem _ List.mem_cons_self))

/-- Settings that are loaded can be used. -/
theorem load_valid {reader : Reader} {d : Disk} {path : Option Path} {settings : Settings}
    (h : load reader d path = .ok settings) : settings.Valid d := by
  obtain ⟨found, -, h⟩ := bind_eq_ok_iff.1 h
  obtain ⟨⟨⟩, hvalid, h⟩ := bind_eq_ok_iff.1 h
  obtain rfl := Except.ok.inj h
  exact validate_eq_ok_iff.1 hvalid

end Settings

/-! ## Reading templates -/

namespace Templates

/-- The path of a template in a directory. -/
def pathIn (directory : Path) (file : String) : Path := directory.join (.ofText file)

/-- The report on a template that is no UTF-8 text. -/
def unreadable (path : Path) (failure : Text.Utf8.Failure) : Report :=
  .template path.text ("could not be read (" ++ failure.message ++ ")")

/-- What reading the templates of a directory ends with, by what the two files hold. -/
inductive Reads (d : Disk) (directory : Path) : Except Halt Templates → Prop where
  | both {header source : List Char} (hheader : d.HoldsText (pathIn directory headerFile) header)
    (hsource : d.HoldsText (pathIn directory sourceFile) source) :
    Reads d directory (.ok ⟨String.ofList (Text.unifyBreaks header),
      String.ofList (Text.unifyBreaks source)⟩)
  /-- The header is no text; the source may be one or not. -/
  | noHeader {bytes : List UInt8} {failure : Text.Utf8.Failure}
    (hheader : d.HoldsNoText (pathIn directory headerFile) bytes failure) :
    Reads d directory (.error (.report (unreadable (pathIn directory headerFile) failure)))
  | noSource {header : List Char} {bytes : List UInt8} {failure : Text.Utf8.Failure}
    (hheader : d.HoldsText (pathIn directory headerFile) header)
    (hsource : d.HoldsNoText (pathIn directory sourceFile) bytes failure) :
    Reads d directory (.error (.report (unreadable (pathIn directory sourceFile) failure)))

/-- A template that is a text is read. -/
theorem outcome_readOne {d : Disk} {path : Path} {text : String}
    (h : d.readText path = .ok text) : (readOne d path).outcome = .ok (Text.ofString text) := by
  unfold readOne
  rw [h]
  rfl

/-- A template that is no text is reported. -/
theorem outcome_readOne_of_error {d : Disk} {path : Path} {failure : Text.Utf8.Failure}
    (h : d.readText path = .error (.encoding failure)) :
    (readOne d path).outcome = .error (.report (unreadable path failure)) := by
  unfold readOne
  rw [h]
  rfl

/-- The templates of a directory are its two files. -/
theorem outcome_ofDirectory (d : Disk) (directory : Path) :
    (ofDirectory d directory).outcome =
      (readOne d (directory.join (.ofText headerFile))).outcome.bind fun header =>
        (readOne d (directory.join (.ofText sourceFile))).outcome.map fun source =>
          ⟨header, source⟩ := by
  unfold ofDirectory
  simp only [Stage.outcome_bind, Stage.outcome_event, Stage.outcome_pure]
  rfl

/-- The templates that accepted settings name are read, unless one of them is no UTF-8 text. -/
theorem reads_of_valid {d : Disk} {settings : Settings} (h : settings.Valid d) {directory : Path}
    (hdirectory : settings.templatesDir = some directory) :
    Reads d directory (ofDirectory d directory).outcome := by
  obtain ⟨-, hfiles⟩ := h.templates directory hdirectory
  obtain ⟨headerBytes, hheader⟩ := hfiles headerFile List.mem_cons_self
  obtain ⟨sourceBytes, hsource⟩ := hfiles sourceFile (List.mem_cons_of_mem _ List.mem_cons_self)
  rw [outcome_ofDirectory]
  -- The first template that is no text ends the reading.
  obtain ⟨header, hheader⟩ | ⟨failure, hnone⟩ := Disk.holds_of_read hheader
  · rw [outcome_readOne hheader.readText]
    obtain ⟨source, hsource⟩ | ⟨failure, hnone⟩ := Disk.holds_of_read hsource
    · rw [outcome_readOne hsource.readText]
      exact .both hheader hsource
    · rw [outcome_readOne_of_error hnone.readText]
      exact .noSource hheader hnone
  · rw [outcome_readOne_of_error hnone.readText]
    exact .noHeader hnone

end Templates

namespace CommandLine

/-- The settings name templates that cannot be read. -/
def Unreadable (d : Disk) (settings : Settings) : Prop :=
  ∃ directory, settings.templatesDir = some directory ∧
    ∃ file ∈ [Templates.headerFile, Templates.sourceFile],
      ∀ text, d.readText (directory.join (.ofText file)) ≠ .ok text

/-- The settings name a template that has a token without a value. -/
def HasUnknownToken (d : Disk) (settings : Settings) : Prop :=
  ∃ directory, settings.templatesDir = some directory ∧
    ∃ entry ∈ [(Templates.headerFile, Code.headerNames), (Templates.sourceFile, Code.sourceNames)],
      ∃ text, d.readText (directory.join (.ofText entry.1)) = .ok text ∧
        ∃ name ∈ Template.tokens text, name ∉ entry.2

section Directory

variable {d : Disk} {settings : Settings} {directory : Path} {header source : String}
  (hdirectory : settings.templatesDir = some directory)
  (hheader : d.readText (directory.join (.ofText Templates.headerFile)) = .ok header)
  (hsource : d.readText (directory.join (.ofText Templates.sourceFile)) = .ok source)

include hdirectory hheader hsource

/-- Templates that are both read are readable. -/
theorem not_unreadable_of_readText : ¬ Unreadable d settings := by
  rintro ⟨directory', hsome, file, hfile, hnone⟩
  obtain rfl := Option.some.inj (hdirectory.symm.trans hsome)
  rcases List.mem_pair.1 hfile with rfl | rfl
  · exact hnone _ hheader
  · exact hnone _ hsource

/-- Templates that are both read are known unless one of them has a token without a value. -/
theorem not_known_iff_hasUnknownToken :
    ¬ (⟨header, source⟩ : Templates).Known ↔ HasUnknownToken d settings := by
  rw [Templates.not_known_iff]
  constructor
  · rintro (hname | hname)
    · exact ⟨directory, hdirectory, _, List.mem_cons_self, header, hheader, hname⟩
    · exact ⟨directory, hdirectory, _, List.mem_cons_of_mem _ List.mem_cons_self, source, hsource,
        hname⟩
  · rintro ⟨directory', hsome, entry, hentry, text, htext, hname⟩
    obtain rfl := Option.some.inj (hdirectory.symm.trans hsome)
    rcases List.mem_pair.1 hentry with rfl | rfl
    · obtain rfl := Except.ok.inj (hheader.symm.trans htext)
      exact .inl hname
    · obtain rfl := Except.ok.inj (hsource.symm.trans htext)
      exact .inr hname

end Directory

/-- The templates of a run cannot be read, or they are there and have the tokens of the files that
the settings name. -/
theorem templatesOf_verdict {c : Circumstances} {d : Disk} {request : Request} {settings : Settings}
    (h : settingsOf c d request = .ok settings) :
    (Unreadable d settings ∧ ∃ title message,
      (templatesOf d settings).outcome = .error (.report (.template title message))) ∨
    ¬ Unreadable d settings ∧ ∃ templates, (templatesOf d settings).outcome = .ok templates ∧
      (¬ templates.Known ↔ HasUnknownToken d settings) := by
  obtain ⟨loaded, hload, hsettings⟩ := exists_of_settingsOf h
  have htemplates : settings.templatesDir = loaded.templatesDir := by rw [hsettings]; rfl
  unfold templatesOf
  cases hdirectory : settings.templatesDir with
  | none =>
    -- The embedded templates are always there, and all their tokens have values.
    refine .inr ⟨?_, _, rfl, ?_⟩
    · rintro ⟨directory, hsome, -⟩
      cases hdirectory.symm.trans hsome
    · constructor
      · exact fun hnot => absurd Code.known_embedded hnot
      · rintro ⟨directory, hsome, -⟩
        cases hdirectory.symm.trans hsome
  | some directory =>
    have hreads := Templates.reads_of_valid (Settings.load_valid hload)
      (htemplates.symm.trans hdirectory)
    dsimp only
    generalize (Templates.ofDirectory d directory).outcome = outcome at hreads
    cases hreads with
    | both hheader hsource =>
      exact .inr ⟨not_unreadable_of_readText hdirectory hheader.readText hsource.readText, _, rfl,
        not_known_iff_hasUnknownToken hdirectory hheader.readText hsource.readText⟩
    | noHeader hheader =>
      exact .inl ⟨⟨directory, hdirectory, _, List.mem_cons_self,
        fun text htext => by cases hheader.readText.symm.trans htext⟩, _, _, rfl⟩
    | noSource _ hsource =>
      exact .inl ⟨⟨directory, hdirectory, _, List.mem_cons_of_mem _ List.mem_cons_self,
        fun text htext => by cases hsource.readText.symm.trans htext⟩, _, _, rfl⟩

end CommandLine

end Transducer
