import Transducer.Proofs.CommandLine.Arguments
import Transducer.Proofs.Code.Generation
import Transducer.Proofs.Code.Stored
import Transducer.Proofs.Disk.Spelling
import Transducer.Proofs.Log.Outcome
import Transducer.Proofs.Text.Name

/-!
# What a build writes

A build generates the code of the machine in its file and writes it as a bundle of two files, whose
names make them children of the output directory (`locate_target`). It is refused by the disk for
reasons that are reported only (`isReported_of_writeFile`).
-/

namespace Transducer

open Outcome (bind_eq_ok_iff mapError_eq_ok_iff)

/-! ## Files in a directory -/

/-- A text that names a file in a directory: one name, which is not that of a directory above. -/
structure Text.IsFileName (w : Text) : Prop where
  separator : Path.separator ∉ w
  length : 2 < w.length
  spellable : Text.Spellable w

/-- A text has at least as many bytes as code points. -/
theorem Name.length_le_of_ofText? {t : Text} {bytes : Name} (h : ofText? t = some bytes) :
    t.length ≤ bytes.length := by
  induction t generalizing bytes with
  | nil => exact Nat.zero_le _
  | cons p t ih =>
    obtain ⟨first, rest, hfirst, hrest, rfl⟩ := ofText?_cons_eq_some.1 h
    have hpos := List.length_pos_iff.2 (ne_nil_of_pointBytes? hfirst)
    have hle := ih hrest
    rw [List.length_cons, List.length_append]
    omega

namespace Bundle

variable {directory : Path} {w : Text}

/-- The path of a file has its name behind those of the directory. -/
theorem target_eq (hw : w.IsFileName) (directory : Path) :
    target directory w = { directory with parts := directory.parts ++ [w] } := by
  have hlength := hw.length
  have hof : Path.ofText w = ⟨.here, [w]⟩ := by
    have hnil : w ≠ [] := by
      rintro rfl
      exact absurd hlength (by decide)
    have hroot : w.takeWhile (· = Path.separator) = [] := by
      obtain ⟨p, rest, rfl⟩ := List.exists_cons_of_ne_nil hnil
      refine List.takeWhile_cons_of_neg ?_
      rw [decide_eq_true_eq]
      rintro rfl
      exact hw.separator List.mem_cons_self
    have hdot : w ≠ "." := by
      rintro rfl
      exact absurd hlength (by decide)
    unfold Path.ofText
    rw [hroot, Text.splitAt_of_not_mem hw.separator, List.filter_cons_of_pos (by simp [hnil, hdot])]
    rfl
  rw [target, hof, Path.join, if_neg (by simp [Path.isAbsolute])]

/-- The path of a file in a proper directory is proper. -/
theorem target_proper (hw : w.IsFileName) (hp : directory.Proper) :
    (target directory w).Proper := by
  have hlength := hw.length
  rw [target_eq hw]
  intro part hpart
  rcases List.mem_append.1 hpart with hpart | hpart
  · exact hp part hpart
  · rw [List.mem_singleton.1 hpart]
    refine ⟨?_, hw.separator⟩
    rintro rfl
    exact absurd hlength (by decide)

/-- What the path of a file leads to is in the directory, under the name of the file. -/
theorem locate_target (hw : w.IsFileName) (hp : directory.Proper) {d : Disk} {l place : Location}
    (hdirectory : d.locate directory.text = .ok l)
    (h : d.locate (target directory w).text = .ok place) :
    ∃ name, Name.ofText? w = some name ∧ place = l ++ [name] := by
  obtain ⟨start, names, hroute, -⟩ := Disk.locate_eq_ok_iff.1 h
  have htarget := target_eq hw directory
  obtain ⟨name, hname, -, hlocate⟩ :=
    Disk.slot_text (target_proper hw hp) (by rw [htarget]; simp) hroute
  have hparent : (target directory w).parent = directory := by
    rw [htarget, Path.parent]
    simp
  have hlast : (target directory w).name = w := by
    rw [htarget, Path.name]
    simp
  rw [hlast] at hname
  rw [h, hparent, hdirectory] at hlocate
  change Except.ok place = d.step l name at hlocate
  have hlength : 2 < name.length :=
    Nat.lt_of_lt_of_le hw.length (Name.length_le_of_ofText? hname)
  refine ⟨name, hname, ?_⟩
  obtain ⟨-, ⟨hself, -⟩ | ⟨habove, -⟩ | ⟨-, -, -, hplace⟩⟩ := Disk.step_eq_ok hlocate.symm
  · rcases hself with rfl | rfl
    · exact absurd hlength (by decide)
    · exact absurd hlength (by decide)
  · subst habove
    exact absurd hlength (by decide)
  · exact hplace

/-- The path of a file can be spelt if that of the directory can. -/
theorem spellable_target (hw : w.IsFileName) (h : Text.Spellable directory.text) :
    Text.Spellable (target directory w).text := by
  rw [Path.spellable_text] at h ⊢
  rw [target_eq hw]
  intro part hpart
  rcases List.mem_append.1 hpart with hpart | hpart
  · exact h part hpart
  · rw [List.mem_singleton.1 hpart]
    exact hw.spellable

/-- The disk refuses a file in a directory for reasons that are reported only. -/
theorem isReported_of_writeFile (hw : w.IsFileName) {d after : Disk}
    (hhome : ∀ name ∈ d.home, 0 ∉ name) {tag : String} (htag : '\x00' ∉ tag.toList)
    {l : Location} (hdirectory : d.locate directory.text = .ok l) {content : Text} {e : DiskError}
    (h : writeFile tag (target directory w) content d = (.error (.disk e), after)) :
    e.refusal.isReported = true := by
  obtain ⟨start, names, hroute, -⟩ := Disk.locate_eq_ok_iff.1 hdirectory
  have hspell := spellable_target hw (Disk.spellable_of_route hroute)
  unfold writeFile at h
  split at h
  · exact Disk.isReported_of_replace hhome htag hspell h
  · exact Disk.isReported_of_replace hhome htag hspell h

end Bundle

/-! ## The output directory -/

namespace Settings

/-- The directory for output that data describe is proper. -/
theorem ofData_proper {writer : Document.Writer} {data : Document.Data} {base : Path}
    (hbase : base.Proper) {settings : Settings}
    (h : ofData writer data (some base) = .ok settings) :
    settings.outputRoot.Proper := by
  unfold ofData at h
  split at h
  · cases h
  · obtain ⟨logging, -, h⟩ := bind_eq_ok_iff.1 h
    obtain ⟨level, -, h⟩ := bind_eq_ok_iff.1 h
    obtain ⟨format, -, h⟩ := bind_eq_ok_iff.1 h
    obtain ⟨root, hroot, h⟩ := bind_eq_ok_iff.1 h
    have hproper : root.Proper := by
      obtain ⟨text, -, hpath⟩ := bind_eq_ok_iff.1 hroot
      obtain rfl := Except.ok.inj hpath
      exact Path.join_proper hbase (Path.ofText_proper text)
    have hsettings : settings.outputRoot = root := by
      dsimp only at h
      split at h
      · split at h
        · obtain ⟨directory, -, h⟩ := bind_eq_ok_iff.1 h
          rw [← Except.ok.inj h]
        · rw [← Except.ok.inj h]
      · rw [← Except.ok.inj h]
    rw [hsettings]
    exact hproper

/-- The directory for output that a file describes is proper. -/
theorem ofFile_proper {reader : Reader} {d : Disk} {path : Path} (hpath : path.Proper)
    {settings : Settings} (h : ofFile reader d path = .ok settings) :
    settings.outputRoot.Proper := by
  obtain ⟨item, -, h⟩ := bind_eq_ok_iff.1 h
  dsimp only at h
  split at h
  · cases h
  · split at h
    · cases h
    · obtain ⟨data, -, h⟩ := bind_eq_ok_iff.1 h
      exact ofData_proper (Path.parent_proper hpath) h

/-- The directory for output of a run is proper. -/
theorem load_proper {reader : Reader} {d : Disk} {path : Option Path}
    (hpath : ∀ p, path = some p → p.Proper) {settings : Settings}
    (h : load reader d path = .ok settings) : settings.outputRoot.Proper := by
  obtain ⟨found, hfound, h⟩ := bind_eq_ok_iff.1 h
  obtain ⟨-, -, h⟩ := bind_eq_ok_iff.1 h
  obtain rfl := Except.ok.inj h
  cases path with
  | some path => exact ofFile_proper (hpath path rfl) hfound
  | none =>
    obtain ⟨item, -, hfound⟩ := bind_eq_ok_iff.1 hfound
    split at hfound
    · exact ofFile_proper (Path.ofText_proper _) hfound
    · obtain rfl := Except.ok.inj hfound
      exact Path.ofText_proper _

end Settings

namespace CommandLine

open Log

/-! ## The bundle of a build -/

/-- The name of the header. -/
def headerName (task : Task) : Text := task.name ++ ".h"

/-- The name of the source. -/
def sourceName (task : Task) : Text := task.name ++ ".c"

/-- A code point of a class is a character of it. -/
theorem exists_of_isIn {p : Char → Bool} {point : CodePoint} (h : point.isIn p = true) :
    ∃ c, point = .char c ∧ p c = true := by
  cases point with
  | char c => exact ⟨c, rfl, h⟩
  | half n => cases h

/-- A name in C is not empty, and its code points are characters from the digits on. -/
theorem code_of_isCName {name : Text} (h : isCName name = true) :
    name ≠ [] ∧ ∀ p ∈ name, ∃ c, p = .char c ∧ 48 ≤ c.toNat := by
  unfold isCName at h
  split at h
  · obtain ⟨hstart, hrest⟩ := Bool.and_eq_true_iff.1 h
    refine ⟨by simp, List.forall_mem_cons.2 ⟨?_, fun p hp => ?_⟩⟩
    · obtain ⟨c, rfl, hc⟩ := exists_of_isIn hstart
      have hcode := Text.code_of_isNameStart hc
      exact ⟨c, rfl, by omega⟩
    · obtain ⟨c, rfl, hc⟩ := exists_of_isIn (List.all_eq_true.1 hrest p hp)
      exact ⟨c, rfl, (Text.code_of_isNamePart hc).1⟩
  · cases h

/-- A name in C with two more characters is the name of a file. -/
theorem isFileName_append {name : Text} (hname : isCName name = true) {suffix : String}
    (hsuffix : suffix.toList.length = 2) (hseparator : '/' ∉ suffix.toList)
    (hnull : '\x00' ∉ suffix.toList) : Text.IsFileName (name ++ Text.ofString suffix) := by
  obtain ⟨hne, hcodes⟩ := code_of_isCName hname
  refine ⟨?_, ?_, ?_⟩
  · intro hmem
    rcases List.mem_append.1 hmem with hmem | hmem
    · obtain ⟨c, heq, hc⟩ := hcodes _ hmem
      obtain rfl : '/' = c := CodePoint.char.inj heq
      exact absurd hc (by decide)
    · obtain ⟨c, hc, heq⟩ := List.mem_map.1 hmem
      obtain rfl : c = '/' := CodePoint.char.inj heq
      exact hseparator hc
  · have hpos := List.length_pos_iff.2 hne
    simp only [Text.ofString, Text.ofChars, List.length_append, List.length_map]
    omega
  · refine Text.spellable_append.2 ⟨fun p hp => ?_, Text.spellable_ofString hnull⟩
    obtain ⟨c, rfl, hc⟩ := hcodes p hp
    refine ⟨rfl, fun heq => ?_⟩
    obtain rfl := CodePoint.char.inj heq
    exact absurd hc (by decide)

/-- The header is a file in a directory. -/
theorem isFileName_header {task : Task} (h : isCName task.name = true) :
    (headerName task).IsFileName :=
  isFileName_append h (by decide) (by decide) (by decide)

/-- The source is a file in a directory. -/
theorem isFileName_source {task : Task} (h : isCName task.name = true) :
    (sourceName task).IsFileName :=
  isFileName_append h (by decide) (by decide) (by decide)

/-- The header and the source have different names. -/
theorem headerName_ne_sourceName {task : Task} {header source : Name}
    (hheader : Name.ofText? (headerName task) = some header)
    (hsource : Name.ofText? (sourceName task) = some source) : header ≠ source := by
  obtain ⟨stem, suffix, hstem, hsuffix, rfl⟩ := Name.ofText?_append_eq_some.1 hheader
  obtain ⟨stem', suffix', hstem', hsuffix', rfl⟩ := Name.ofText?_append_eq_some.1 hsource
  obtain rfl : stem = stem' := Option.some.inj (hstem.symm.trans hstem')
  have hh : Name.ofText? (".h" : Text) = some [0x2E, 0x68] := by decide
  have hc : Name.ofText? (".c" : Text) = some [0x2E, 0x63] := by decide
  obtain rfl := Option.some.inj (hsuffix.symm.trans hh)
  obtain rfl := Option.some.inj (hsuffix'.symm.trans hc)
  simp

/-- The code that belongs to a task: that of the machine in its file, by the templates of the
settings. -/
def Generates (c : Circumstances) (d : Disk) (settings : Settings) (task : Task)
    (code : Code.Generated) : Prop :=
  ∃ machine templates, (Machine.ofFile c.room d task.yamlFile).outcome = .ok machine ∧
    (templatesOf d settings).outcome = .ok templates ∧
    (Code.ofMachine templates task.name machine).outcome = .ok code

/-- The files of a build. -/
def bundleOf (settings : Settings) (task : Task) (code : Code.Generated) : Bundle :=
  ⟨outputDirectory settings task,
    [(headerName task, code.header), (sourceName task, code.source)]⟩

/-- What a build prints that goes through. -/
def announcement (settings : Settings) (task : Task) : Text :=
  if task.dryRun then
    "Would write " ++ headerName task ++ ", " ++ sourceName task ++ " to " ++
      (outputDirectory settings task).text ++ ".\n"
  else "The files have been written to " ++ (outputDirectory settings task).text ++ ".\n"

/-- A build is prepared when its machine is read and passes its check, and the code is generated. -/
theorem prepare_eq_ok_iff {room : Yaml.Room} {d : Disk} {settings : Settings} {task : Task}
    {bundle : Bundle} :
    (prepare room d settings task).outcome = .ok bundle ↔
      ∃ machine templates code, (Machine.ofFile room d task.yamlFile).outcome = .ok machine ∧
        (Check.all machine.signature).outcome = .ok () ∧
        (templatesOf d settings).outcome = .ok templates ∧
        (Code.ofMachine templates task.name machine).outcome = .ok code ∧
        bundle = bundleOf settings task code := by
  unfold prepare parseAndCheck
  simp only [Stage.outcome_bind, Stage.outcome_adapt, Stage.outcome_tell, Stage.outcome_pure,
    Code.outcome_generate_eq_map]
  constructor
  · intro h
    -- Every other step only tells the log of a stage, and always gives a value.
    obtain ⟨machine, hmachine, h⟩ := bind_eq_ok_iff.1 h
    obtain ⟨-, -, hmachine⟩ := bind_eq_ok_iff.1 hmachine
    obtain ⟨read, hread, hmachine⟩ := bind_eq_ok_iff.1 hmachine
    obtain ⟨-, -, hmachine⟩ := bind_eq_ok_iff.1 hmachine
    obtain ⟨⟨⟩, hcheck, hmachine⟩ := bind_eq_ok_iff.1 hmachine
    obtain rfl := Except.ok.inj hmachine
    obtain ⟨-, -, h⟩ := bind_eq_ok_iff.1 h
    obtain ⟨templates, htemplates, h⟩ := bind_eq_ok_iff.1 h
    obtain ⟨code, hcode, h⟩ := bind_eq_ok_iff.1 (mapError_eq_ok_iff.1 h)
    exact ⟨read, templates, code, hread, mapError_eq_ok_iff.1 hcheck, htemplates, hcode,
      (Except.ok.inj h).symm⟩
  · rintro ⟨machine, templates, code, hmachine, hcheck, htemplates, hcode, rfl⟩
    refine bind_eq_ok_iff.2 ⟨machine, ?_, ?_⟩
    · refine bind_eq_ok_iff.2 ⟨(), rfl, bind_eq_ok_iff.2 ⟨machine, hmachine, ?_⟩⟩
      exact bind_eq_ok_iff.2 ⟨(), rfl,
        bind_eq_ok_iff.2 ⟨(), mapError_eq_ok_iff.2 hcheck, rfl⟩⟩
    · refine bind_eq_ok_iff.2 ⟨(), rfl, bind_eq_ok_iff.2 ⟨templates, htemplates, ?_⟩⟩
      exact mapError_eq_ok_iff.2 (bind_eq_ok_iff.2 ⟨code, hcode, rfl⟩)

/-- A build that is prepared has the code that belongs to its task. -/
theorem prepare_eq_ok {c : Circumstances} {d : Disk} {settings : Settings} {task : Task}
    {bundle : Bundle} (h : (prepare c.room d settings task).outcome = .ok bundle) :
    ∃ code, Generates c d settings task code ∧ bundle = bundleOf settings task code := by
  obtain ⟨machine, templates, code, hmachine, -, htemplates, hcode, hbundle⟩ :=
    prepare_eq_ok_iff.1 h
  exact ⟨code, ⟨machine, templates, hmachine, htemplates, hcode⟩, hbundle⟩

/-- What becomes of a build that is prepared: it is written, unless it is dry. -/
theorem value_build (c : Circumstances) (settings : Settings) (task : Task) (d : Disk) :
    (build c settings task d).value =
      match (prepare c.room d settings task).outcome with
      | .error halt => (.error halt, d)
      | .ok bundle =>
        if task.dryRun then
          (.ok ("Would write " ++ Text.join ", " bundle.names ++ " to " ++ bundle.directory.text ++
            ".\n"), d)
        else
          (bundle.write c.missing c.tag d).value.map (Except.map (· ++ "\n")) id := by
  unfold build
  rw [Logged.value_bind, Logged.value_bind]
  cases houtcome : (prepare c.room d settings task).outcome with
  | error halt =>
    have hrun : (prepare c.room d settings task).run.value = .error halt := houtcome
    rw [hrun]
    rfl
  | ok bundle =>
    have hrun : (prepare c.room d settings task).run.value = .ok bundle := houtcome
    rw [hrun]
    dsimp only
    cases task.dryRun with
    | true => rfl
    | false =>
      rw [if_neg Bool.false_ne_true, if_neg Bool.false_ne_true, Logged.value_bind,
        Logged.value_bind]
      rcases (bundle.write c.missing c.tag d).value with ⟨halt | message, after⟩
      · rfl
      · rfl

end CommandLine

end Transducer
