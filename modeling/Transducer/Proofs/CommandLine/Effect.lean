import Transducer.Proofs.CommandLine.Build
import Transducer.Proofs.Code.Rendered
import Transducer.Proofs.Disk.TextFile

/-!
# What a run does to the disk

A run changes the disk only if it is a build that is not dry and gets as far as writing. Then the
changes are the directories that were missing on the way to the output directory, and the header and
the source in it; if the build stops half way, the source is as it was (`Effect`). There are three
exceptions (`run_leaves_directory`). A place on the way to the output directory may be that of the
source itself: it becomes a directory, and the build stops there. A build whose code cannot be
encoded fails only after it made its output directory. And a build that has written both files still
fails if its output does not take the confirmation.
-/

namespace Transducer.CommandLine

open Disk Log Transducer.Bundle
open Outcome (bind_eq_ok_iff eq_ok_of_toOption)

/-! ## Builds -/

/-- The run gets to building a task with some settings. -/
def Asks (c : Circumstances) (d : Disk) (args : List Text) (settings : Settings) (task : Task) :
    Prop :=
  ∃ request loaded, readRequest d args = .ok request ∧ request.command = .build ∧
    Settings.load c.reader d (request.config.map Path.ofText) = .ok loaded ∧
    settings = loaded.withLogging (request.level.map Text.ofString)
      (request.format.map Text.ofString) ∧
    readTask d .build request.args = .ok task

/-- What is left of a run by the outcome of its work. -/
def concluded (c : Circumstances) : Except Halt Text × Disk → Ending
  | (.ok text, disk) => (printed c disk text).value
  | (.error halt, disk) => (halted disk halt).value

/-- A run that gets to building ends like the build. -/
theorem value_run_of_asks {c : Circumstances} {d : Disk} {args : List Text} {settings : Settings}
    {task : Task} (h : Asks c d args settings task) :
    (run c args d).value = concluded c (build c settings task d).value := by
  obtain ⟨request, loaded, hrequest, hcommand, hloaded, rfl, htask⟩ := h
  unfold run
  rw [hrequest]
  dsimp only
  rw [hloaded]
  dsimp only
  rw [hcommand, htask]
  generalize loaded.withLogging _ _ = settings
  change (match (build c settings task d).value with
    | (.ok text, disk) => _
    | (.error halt, disk) => _ : Logged Ending).value = _
  cases (build c settings task d).value with
  | mk outcome disk =>
    cases outcome with
    | ok text => rfl
    | error halt => rfl

/-- A run that stops keeps the disk that it has then. -/
theorem disk_halted (disk : Disk) (halt : Halt) : (halted disk halt).value.disk = disk := by
  cases halt with
  | report r => rfl
  | defect e => rfl

/-- A run prints its last text, unless the output does not take it. -/
theorem value_printed (c : Circumstances) (disk : Disk) (text : Text) :
    (printed c disk text).value =
      if c.prints text then { code := 0, stdout := text, disk } else { code := 1, disk } := by
  unfold printed
  split
  · rfl
  · rfl

/-- A run that prints keeps the disk that it has then. -/
theorem disk_printed (c : Circumstances) (disk : Disk) (text : Text) :
    (printed c disk text).value.disk = disk := by
  rw [value_printed]
  split
  · rfl
  · rfl

/-- A run that ends early keeps its disk. -/
theorem disk_ended (c : Circumstances) (disk : Disk) (early : Early) :
    (ended c disk early).value.disk = disk := by
  cases early with
  | shown text => exact disk_printed c disk text
  | usage command message => rfl
  | wrongOption message => rfl
  | halt h => exact disk_halted disk h

/-- A run that does not get to building keeps its disk. -/
theorem disk_run_of_not_asks {c : Circumstances} {d : Disk} {args : List Text}
    (h : ∀ settings task, ¬ Asks c d args settings task) : (run c args d).value.disk = d := by
  unfold run
  cases hrequest : readRequest d args with
  | error early => exact disk_ended c d early
  | ok request =>
    dsimp only
    cases hloaded : Settings.load c.reader d (request.config.map Path.ofText) with
    | error halt => exact disk_halted d halt
    | ok loaded =>
      dsimp only
      cases htask : readTask d request.command request.args with
      | error early => exact disk_ended c d early
      | ok task =>
        cases hcommand : request.command with
        | build =>
          rw [hcommand] at htask
          exact absurd ⟨request, loaded, hrequest, hcommand, hloaded, rfl, htask⟩ (h _ task)
        | check =>
          change (match ((check c.room task d).run.value, d) with
            | (.ok text, disk) => _
            | (.error halt, disk) => _ : Logged Ending).value.disk = d
          cases (check c.room task d).run.value with
          | ok text => exact disk_printed c d text
          | error halt => exact disk_halted d halt

/-- The output directory of a build is proper. -/
theorem outputDirectory_proper {c : Circumstances} {d : Disk} {args : List Text}
    {settings : Settings} {task : Task} (h : Asks c d args settings task) :
    (outputDirectory settings task).Proper := by
  obtain ⟨request, loaded, -, -, hloaded, rfl, htask⟩ := h
  obtain ⟨given, -, -, -, -, rfl⟩ := readTask_eq_ok_iff.1 htask
  have hroot : loaded.outputRoot.Proper := by
    refine Settings.load_proper (fun p hp => ?_) hloaded
    obtain ⟨path, -, rfl⟩ := Option.map_eq_some_iff.1 hp
    exact Path.ofText_proper _
  unfold outputDirectory
  cases houtput : (taskOf given).output with
  | none =>
    rw [Option.getD_none]
    exact Path.join_proper hroot (Path.ofText_proper _)
  | some path =>
    rw [Option.getD_some]
    obtain ⟨text, -, rfl⟩ := Option.map_eq_some_iff.1 houtput
    exact Path.ofText_proper _

/-- Without the flag for a dry run, a run gets to building the same, which is not dry then. -/
theorem Asks.withoutDryRun {c : Circumstances} {d : Disk} {args : List Text} {settings : Settings}
    {task : Task} (h : Asks c d args settings task) :
    Asks c d (withoutDryRun args) settings { task with dryRun := false } := by
  obtain ⟨request, loaded, hrequest, hcommand, hloaded, hsettings, htask⟩ := h
  exact ⟨_, loaded, readRequest_withoutDryRun hrequest, hcommand, hloaded, hsettings,
    readTask_withoutFlag htask⟩

/-- The name of a build is one in C. -/
theorem Asks.isCName {c : Circumstances} {d : Disk} {args : List Text} {settings : Settings}
    {task : Task} (h : Asks c d args settings task) : isCName task.name = true := by
  obtain ⟨request, loaded, -, -, -, -, htask⟩ := h
  exact isCName_of_readTask htask

/-! ## What a build leaves -/

section Leaves

variable (settings : Settings) (task : Task)

/-- The path of the header. -/
def headerPath : Path := target (outputDirectory settings task) (headerName task)

/-- The path of the source. -/
def sourcePath : Path := target (outputDirectory settings task) (sourceName task)

/-- What a build leaves that goes through: the header and the source are in the output directory,
with the generated code, and all else is as it was or is a directory on the way. -/
structure Built (code : Code.Generated) (d after : Disk) : Prop where
  home : after.home = d.home
  placed : ∃ l header source, after.locate (outputDirectory settings task).text = .ok l ∧
    after.isDirectoryAt l = true ∧
    after.locate (headerPath settings task).text = .ok (l ++ [header]) ∧
    after.locate (sourcePath settings task).text = .ok (l ++ [source])
  header : ∃ bytes, Text.Utf8.encode? code.header = some bytes ∧
    after.read (headerPath settings task).text = .ok bytes
  source : ∃ bytes, Text.Utf8.encode? code.source = some bytes ∧
    after.read (sourcePath settings task).text = .ok bytes
  others : ∀ l, after.locate (headerPath settings task).text ≠ .ok l →
    after.locate (sourcePath settings task).text ≠ .ok l →
    after.get? l = d.get? l ∨ NewOnWay (outputDirectory settings task) d after l

/-- What a build leaves that stops while it writes: new directories on the way and at most the
header. What the path of the source leads to is as it was, unless it is on the way itself. -/
structure Attempted (c : Circumstances) (d after : Disk) : Prop where
  home : after.home = d.home
  places : ∀ l, after.get? l = d.get? l ∨ NewOnWay (outputDirectory settings task) d after l ∨
    after.locate (headerPath settings task).text = .ok l ∧
      ∃ code bytes, Generates c d settings task code ∧
        Text.Utf8.encode? code.header = some bytes ∧ after.get? l = some (.file bytes)
  source : ∀ l, after.locate (sourcePath settings task).text = .ok l →
    after.get? l = d.get? l ∨ NewOnWay (outputDirectory settings task) d after l

end Leaves

variable {c : Circumstances} {settings : Settings} {task : Task} {d after : Disk}

/-- New directories on the way are all that a build leaves that has no output directory. -/
theorem attempted_of_grows (h : d.Grows (outputDirectory settings task) after) :
    Attempted settings task c d after := by
  refine ⟨h.home, fun l => ?_, fun l _ => h.places l⟩
  rcases h.places l with heq | hnew
  · exact .inl heq
  · exact .inr (.inl hnew)

/-- The header and the source have different places. -/
theorem locate_header_ne_source (hp : (outputDirectory settings task).Proper)
    (hname : isCName task.name = true) {l place : Location}
    (hdirectory : after.locate (outputDirectory settings task).text = .ok l)
    (hheader : after.locate (headerPath settings task).text = .ok place) :
    after.locate (sourcePath settings task).text ≠ .ok place := by
  intro hsource
  obtain ⟨header, hbytes, rfl⟩ := locate_target (isFileName_header hname) hp hdirectory hheader
  obtain ⟨source, hbytes', heq⟩ := locate_target (isFileName_source hname) hp hdirectory hsource
  exact headerName_ne_sourceName hbytes hbytes' (List.singleton_inj.1 (List.append_cancel_left heq))

/-- A build that stops at its source leaves the header. -/
theorem attempted_of_stored (hp : (outputDirectory settings task).Proper)
    (hname : isCName task.name = true) {code : Code.Generated}
    (hcode : Generates c d settings task code)
    (h : Stored (outputDirectory settings task) [(headerName task, code.header)] d after) :
    Attempted settings task c d after := by
  obtain ⟨dir, hdirectory, -⟩ := isDirectory_iff.1 h.reached
  obtain ⟨place, hplace, hcontent⟩ := h.content [] (headerName task) code.header [] rfl
  obtain ⟨bytes, hbytes, hread⟩ := hcontent fun entry hentry => (nomatch hentry)
  have hother : ∀ l, l ≠ place → after.get? l = d.get? l ∨
      NewOnWay (outputDirectory settings task) d after l := by
    intro l hl
    refine h.others l fun entry hentry heq => hl ?_
    rw [List.mem_singleton.1 hentry, hplace] at heq
    exact (Except.ok.inj heq).symm
  refine ⟨h.home, fun l => ?_, fun l hl => hother l ?_⟩
  · by_cases hl : l = place
    · obtain ⟨found, hfound, hget⟩ := read_eq_ok_iff.1 hread
      obtain rfl := Except.ok.inj (hfound.symm.trans hplace)
      subst hl
      exact .inr (.inr ⟨hplace, code, bytes, hcode, hbytes, hget⟩)
    · rcases hother l hl with heq | hnew
      · exact .inl heq
      · exact .inr (.inl hnew)
  · rintro rfl
    exact locate_header_ne_source hp hname hdirectory hplace hl

/-- A build that is written goes through. -/
theorem built_of_stored (hp : (outputDirectory settings task).Proper)
    (hname : isCName task.name = true) {code : Code.Generated}
    (h : Stored (outputDirectory settings task) (bundleOf settings task code).files d after) :
    Built settings task code d after := by
  obtain ⟨dir, hdirectory, hdir⟩ := isDirectory_iff.1 h.reached
  obtain ⟨header, hheader, hheaderContent⟩ := h.content [] (headerName task) code.header
    [(sourceName task, code.source)] rfl
  obtain ⟨source, hsource, hsourceContent⟩ := h.content [(headerName task, code.header)]
    (sourceName task) code.source [] rfl
  refine ⟨h.home, ?_, hheaderContent fun entry hentry => ?_, hsourceContent fun entry hentry => ?_,
    fun l hl hl' => h.others l fun entry hentry => ?_⟩
  · obtain ⟨headerBytes, -, rfl⟩ :=
      locate_target (isFileName_header hname) hp hdirectory hheader
    obtain ⟨sourceBytes, -, rfl⟩ :=
      locate_target (isFileName_source hname) hp hdirectory hsource
    exact ⟨dir, headerBytes, sourceBytes, hdirectory, hdir, hheader, hsource⟩
  · rw [List.mem_singleton.1 hentry]
    exact locate_header_ne_source hp hname hdirectory hheader
  · cases hentry
  · rcases List.mem_cons.1 hentry with rfl | hentry
    · exact hl
    · rw [List.mem_singleton.1 hentry]
      exact hl'

/-- A build that stops at one of its files stops at the header or, when that is written, at the
source. -/
theorem split_bundleOf {code : Code.Generated} {earlier later : List (Text × Text)}
    {name content : Text}
    (h : (bundleOf settings task code).files = earlier ++ (name, content) :: later) :
    earlier = [] ∧ name = headerName task ∧ content = code.header ∨
      earlier = [(headerName task, code.header)] ∧ name = sourceName task ∧
        content = code.source := by
  cases earlier with
  | nil =>
    obtain ⟨hentry, -⟩ := List.cons.inj h
    obtain ⟨hn, hc⟩ := Prod.mk.inj hentry
    exact .inl ⟨rfl, hn.symm, hc.symm⟩
  | cons entry earlier =>
    obtain ⟨rfl, hrest⟩ := List.cons.inj h
    cases earlier with
    | nil =>
      obtain ⟨hentry, -⟩ := List.cons.inj hrest
      obtain ⟨hn, hc⟩ := Prod.mk.inj hentry
      exact .inr ⟨rfl, hn.symm, hc.symm⟩
    | cons entry earlier =>
      have hlength := congrArg List.length hrest
      simp at hlength

/-- A build that stops while it writes is reported, unless the path of its directory cannot be made
or it has to write what has no bytes. -/
theorem halt_of_write (hp : (outputDirectory settings task).Proper)
    (hname : isCName task.name = true) (hhome : ∀ name ∈ d.home, 0 ∉ name)
    (htag : '\x00' ∉ c.tag.toList) {code : Code.Generated} {halt : Halt}
    (h : ((bundleOf settings task code).write c.missing c.tag d).value = (.error halt, after)) :
    (∃ path message cause, halt = .report (.write path message cause)) ∨
      (∃ e, d.makeDirectories c.missing (outputDirectory settings task) = (.error e, after) ∧
        e.refusal.isReported = false ∧ halt = .defect (.disk e)) ∨
      halt = .defect .unencodable ∧
        (Text.Utf8.encode? code.header = none ∨ Text.Utf8.encode? code.source = none) := by
  obtain ⟨e, hmade, rfl⟩ |
    ⟨made, earlier, name, content, later, e, hmade, hfiles, hearlier, hfile, rfl⟩ :=
    write_eq_error h
  · unfold DiskError.halt
    split
    · exact .inl ⟨_, _, _, rfl⟩
    · rename_i hreported
      exact .inr (.inl ⟨e, hmade, by simpa using hreported, rfl⟩)
  · obtain ⟨hgrows, hreached⟩ := makeDirectories_grows hp hmade
    obtain ⟨l, hlocate, hdir⟩ := hreached rfl
    have hstored := stored_of_stores hgrows hlocate hdir (writeFiles_stores hearlier)
    have hcases := split_bundleOf hfiles
    -- The directory is there by now, so the path of the file can be spelt.
    cases e with
    | disk e =>
      have hfileName : name.IsFileName := by
        obtain ⟨-, rfl, -⟩ | ⟨-, rfl, -⟩ := hcases
        · exact isFileName_header hname
        · exact isFileName_source hname
      obtain ⟨place, hplace, -⟩ := isDirectory_iff.1 hstored.reached
      have hreported := isReported_of_writeFile hfileName (hstored.home ▸ hhome) htag hplace hfile
      unfold fault DiskError.halt
      dsimp only
      rw [if_pos hreported]
      exact .inl ⟨_, _, _, rfl⟩
    | writer defect =>
      obtain ⟨hnone, rfl⟩ := writeFile_eq_writer hfile
      refine .inr (.inr ⟨rfl, ?_⟩)
      obtain ⟨-, -, rfl⟩ | ⟨-, -, rfl⟩ := hcases
      · exact .inl hnone
      · exact .inr hnone

/-- A build that stops while it writes is reported, unless it has not written anything or has to
write what has no bytes. -/
theorem attempted_of_write (hp : (outputDirectory settings task).Proper)
    (hname : isCName task.name = true) (hhome : ∀ name ∈ d.home, 0 ∉ name)
    (htag : '\x00' ∉ c.tag.toList) {code : Code.Generated}
    (hcode : Generates c d settings task code) {halt : Halt}
    (h : ((bundleOf settings task code).write c.missing c.tag d).value = (.error halt, after)) :
    Attempted settings task c d after ∧
      ((∃ path message cause, halt = .report (.write path message cause)) ∨ after = d ∨
        halt = .defect .unencodable ∧
          (Text.Utf8.encode? code.header = none ∨ Text.Utf8.encode? code.source = none)) := by
  constructor
  · obtain ⟨e, hmade, -⟩ | ⟨made, earlier, name, content, later, e, hmade, hfiles, hearlier, -⟩ :=
      write_eq_error h
    · exact attempted_of_grows (makeDirectories_grows hp hmade).1
    · obtain ⟨hgrows, hreached⟩ := makeDirectories_grows hp hmade
      obtain ⟨l, hlocate, hdir⟩ := hreached rfl
      have hstored := stored_of_stores hgrows hlocate hdir (writeFiles_stores hearlier)
      obtain ⟨rfl, -⟩ | ⟨rfl, -⟩ := split_bundleOf hfiles
      · obtain ⟨-, rfl⟩ := Prod.mk.inj hearlier
        exact attempted_of_grows hgrows
      · exact attempted_of_stored hp hname hcode hstored
  · obtain hreport | ⟨e, hmade, hreported, -⟩ | hnone := halt_of_write hp hname hhome htag h
    · exact .inl hreport
    · exact .inr (.inl (makeDirectories_of_unreported hmade hreported))
    · exact .inr (.inr hnone)

/-! ## Whole runs -/

/-- What a run with some arguments does to a disk. -/
structure Effect (c : Circumstances) (args : List Text) (d : Disk) (ending : Ending) : Prop where
  /-- Nothing changes unless a build is asked for that is not dry. -/
  idle : (∀ settings task, Asks c d args settings task → task.dryRun = true) → ending.disk = d
  /-- Nothing changes if the run fails for another reason than that it could not write, unless the
  generated code has no bytes, or all is written but the output does not take the confirmation. -/
  failed : ending.code ≠ 0 → ending.code ≠ 40 → ending.disk = d ∨
    ∃ settings task code, Asks c d args settings task ∧ task.dryRun = false ∧
      Generates c d settings task code ∧ ending.code = 1 ∧
      ((Text.Utf8.encode? code.header = none ∨ Text.Utf8.encode? code.source = none) ∧
          Attempted settings task c d ending.disk ∨
        c.prints ("The files have been written to " ++ (outputDirectory settings task).text ++
            ".\n") = false ∧
          Built settings task code d ending.disk)
  /-- A build that goes through leaves the generated code. -/
  built : ∀ settings task, Asks c d args settings task → task.dryRun = false → ending.code = 0 →
    ∃ code, Generates c d settings task code ∧ Built settings task code d ending.disk
  /-- A build that could not write leaves at most the header. -/
  stopped : ∀ settings task, Asks c d args settings task → task.dryRun = false →
    ending.code = 40 → Attempted settings task c d ending.disk
  /-- A dry build names the files and the directory that it would write without the flag, in any
  circumstances in which the settings and the machine are read alike. -/
  dry : ∀ settings task, Asks c d args settings task → task.dryRun = true → ending.code = 0 →
    ending.stdout = "Would write " ++ headerName task ++ ", " ++ sourceName task ++ " to " ++
        (outputDirectory settings task).text ++ ".\n" ∧
      ∃ code, Generates c d settings task code ∧ ∀ c', Asks c' d args settings task →
        (Machine.ofFile c'.room d task.yamlFile).outcome =
          (Machine.ofFile c.room d task.yamlFile).outcome →
        Asks c' d (withoutDryRun args) settings { task with dryRun := false } ∧
          (run c' (withoutDryRun args) d).value.disk =
            ((bundleOf settings task code).write c'.missing c'.tag d).value.2

/-- A run that stops does not end like one that goes through. -/
theorem code_halted_ne_zero (disk : Disk) (halt : Halt) : (halted disk halt).value.code ≠ 0 := by
  cases halt with
  | report r =>
    change r.code ≠ 0
    cases r with
    | violation rule message identifiers => cases rule <;> simp [Report.code, Rule.code]
    | _ => simp [Report.code]
  | defect e => exact Nat.one_ne_zero

/-- A build that goes through is written, unless it is dry. -/
theorem build_eq_ok {text : Text} (hp : (outputDirectory settings task).Proper)
    (h : (build c settings task d).value = (.ok text, after)) :
    text = announcement settings task ∧ ∃ code, Generates c d settings task code ∧
      (prepare c.room d settings task).outcome = .ok (bundleOf settings task code) ∧
      if task.dryRun then after = d
      else ∃ message, ((bundleOf settings task code).write c.missing c.tag d).value =
        (.ok message, after) := by
  rw [value_build] at h
  split at h
  · cases h
  · rename_i bundle hbundle
    obtain ⟨code, hcode, rfl⟩ := prepare_eq_ok hbundle
    split at h
    · -- A dry build names its two files and ends.
      rename_i hdry
      obtain ⟨htext, rfl⟩ := Prod.mk.inj h
      have hnames : Text.join ", " (bundleOf settings task code).names =
          headerName task ++ ", " ++ sourceName task := by
        simp [Text.join, bundleOf, Bundle.names, List.intercalate]
      refine ⟨?_, code, hcode, hbundle, ?_⟩
      · rw [announcement, if_pos hdry, ← Except.ok.inj htext, hnames]
        simp only [bundleOf, List.append_assoc]
      · rw [if_pos hdry]
    · rename_i hdry
      rcases hwrite : ((bundleOf settings task code).write c.missing c.tag d).value with
        ⟨halt | message, _⟩
      · rw [hwrite] at h
        cases h
      · rw [hwrite] at h
        obtain ⟨htext, rfl⟩ := Prod.mk.inj h
        obtain ⟨rfl, -⟩ := write_eq_ok hp hwrite
        refine ⟨?_, code, hcode, hbundle, ?_⟩
        · rw [announcement, if_neg hdry, ← Except.ok.inj htext]
          simp only [bundleOf, List.append_assoc]
          rfl
        · rw [if_neg hdry]
          exact ⟨_, hwrite⟩

/-- A build that stops has not written anything or stops while it writes. -/
theorem build_eq_error {halt : Halt}
    (h : (build c settings task d).value = (.error halt, after)) :
    after = d ∨ task.dryRun = false ∧ ∃ code, Generates c d settings task code ∧
      ((bundleOf settings task code).write c.missing c.tag d).value = (.error halt, after) := by
  rw [value_build] at h
  split at h
  · exact .inl (Prod.mk.inj h).2.symm
  · rename_i bundle hbundle
    obtain ⟨code, hcode, rfl⟩ := prepare_eq_ok hbundle
    split at h
    · cases h
    · rename_i hdry
      rcases hwrite : ((bundleOf settings task code).write c.missing c.tag d).value with
        ⟨halt' | message, _⟩
      · rw [hwrite] at h
        obtain ⟨hhalt, rfl⟩ := Prod.mk.inj h
        obtain rfl := Except.error.inj hhalt
        exact .inr ⟨by simpa using hdry, code, hcode, hwrite⟩
      · rw [hwrite] at h
        cases h

/-- A run keeps the directory in which it runs. -/
theorem home_run (c : Circumstances) (args : List Text) (d : Disk) :
    (run c args d).value.disk.home = d.home := by
  by_cases h : ∃ settings task, Asks c d args settings task
  · obtain ⟨settings, task, h⟩ := h
    have hp := outputDirectory_proper h
    rw [value_run_of_asks h]
    cases hbuild : (build c settings task d).value with
    | mk outcome after =>
      cases outcome with
      | ok text =>
        change (printed c after text).value.disk.home = d.home
        rw [disk_printed]
        obtain ⟨-, code, -, -, hend⟩ := build_eq_ok hp hbuild
        split at hend
        · rw [hend]
        · obtain ⟨message, hwrite⟩ := hend
          exact home_write hp hwrite
      | error halt =>
        change (halted after halt).value.disk.home = d.home
        rw [disk_halted]
        obtain rfl | ⟨-, code, -, hwrite⟩ := build_eq_error hbuild
        · rfl
        · exact home_write hp hwrite
  · rw [disk_run_of_not_asks (fun settings task hasks => h ⟨settings, task, hasks⟩)]

/-- The disk after some runs. -/
def afterRuns : List (Circumstances × List Text) → Disk → Disk
  | [], d => d
  | (c, args) :: rest, d => afterRuns rest (run c args d).value.disk

/-- All runs keep the directory in which they run. -/
theorem home_afterRuns (runs : List (Circumstances × List Text)) (d : Disk) :
    (afterRuns runs d).home = d.home := by
  induction runs generalizing d with
  | nil => rfl
  | cons first rest ih => exact (ih _).trans (home_run first.1 first.2 d)

/-- Arguments ask for one thing only. -/
theorem Asks.unique {args : List Text} {settings' : Settings} {task' : Task}
    (h : Asks c d args settings task) (h' : Asks c d args settings' task') :
    settings' = settings ∧ task' = task := by
  obtain ⟨request, loaded, hrequest, -, hloaded, rfl, htask⟩ := h
  obtain ⟨request', loaded', hrequest', -, hloaded', rfl, htask'⟩ := h'
  obtain rfl := Except.ok.inj (hrequest.symm.trans hrequest')
  obtain rfl := Except.ok.inj (hloaded.symm.trans hloaded')
  obtain rfl := Except.ok.inj (htask.symm.trans htask')
  exact ⟨rfl, rfl⟩

/-- A machine that is read alike is prepared alike. -/
theorem prepare_congr {room room' : Yaml.Room} {bundle : Bundle}
    (hmachine : (Machine.ofFile room' d task.yamlFile).outcome =
      (Machine.ofFile room d task.yamlFile).outcome)
    (h : (prepare room d settings task).outcome = .ok bundle) :
    (prepare room' d settings task).outcome = .ok bundle := by
  obtain ⟨machine, templates, code, hread, hrest⟩ := prepare_eq_ok_iff.1 h
  exact prepare_eq_ok_iff.2 ⟨machine, templates, code, hmachine.trans hread, hrest⟩

/-- Without the flag for a dry run, the bundle that was prepared is written. -/
theorem disk_run_withoutDryRun {args : List Text} (h : Asks c d args settings task)
    {bundle : Bundle} (hbundle : (prepare c.room d settings task).outcome = .ok bundle) :
    (run c (withoutDryRun args) d).value.disk = (bundle.write c.missing c.tag d).value.2 := by
  have hprepare : (prepare c.room d settings { task with dryRun := false }).outcome =
      .ok bundle := hbundle
  rw [value_run_of_asks h.withoutDryRun, value_build, hprepare]
  dsimp only
  rw [if_neg Bool.false_ne_true]
  cases (bundle.write c.missing c.tag d).value with
  | mk outcome after =>
    cases outcome with
    | ok message => exact disk_printed c after _
    | error halt => exact disk_halted after halt

/-- A dry build that goes through has its effect. -/
theorem effect_of_dry_build {args : List Text} (h : Asks c d args settings task)
    (hdry : task.dryRun = true) {code : Code.Generated} (hcode : Generates c d settings task code)
    (hprepare : (prepare c.room d settings task).outcome = .ok (bundleOf settings task code)) :
    Effect c args d (printed c d (announcement settings task)).value := by
  have hdisk := disk_printed c d (announcement settings task)
  have hwet : ∀ {settings' task'}, Asks c d args settings' task' → task'.dryRun ≠ false := by
    intro settings' task' h'
    obtain ⟨rfl, rfl⟩ := h.unique h'
    simp [hdry]
  refine ⟨fun _ => hdisk, fun _ _ => .inl hdisk, fun _ _ h' hdry' => absurd hdry' (hwet h'),
    fun _ _ h' hdry' => absurd hdry' (hwet h'), fun settings' task' h' _ hzero => ?_⟩
  obtain ⟨rfl, rfl⟩ := h.unique h'
  refine ⟨?_, code, hcode, fun c' hasks hmachine =>
    ⟨hasks.withoutDryRun, disk_run_withoutDryRun hasks (prepare_congr hmachine hprepare)⟩⟩
  rw [value_printed] at hzero ⊢
  split
  · unfold announcement
    rw [if_pos hdry]
  · rename_i hprints
    rw [if_neg hprints] at hzero
    cases hzero

/-- A build that is written has its effect. -/
theorem effect_of_written_build {args : List Text} (h : Asks c d args settings task)
    (hdry : task.dryRun = false) {code : Code.Generated} (hcode : Generates c d settings task code)
    (hbuilt : Built settings task code d after) :
    Effect c args d (printed c after (announcement settings task)).value := by
  have hdisk := disk_printed c after (announcement settings task)
  have hvalue := value_printed c after (announcement settings task)
  refine ⟨fun hall => ?_, fun hzero _ => .inr ⟨settings, task, code, h, hdry, hcode, ?_⟩,
    fun settings' task' h' _ _ => ?_, fun _ _ _ _ hforty => ?_, fun settings' task' h' hdry' => ?_⟩
  · rw [hall settings task h] at hdry
    cases hdry
  · -- All is written, so that only the confirmation can have failed.
    cases hprints : c.prints (announcement settings task) with
    | true =>
      rw [hvalue, if_pos hprints] at hzero
      exact absurd rfl hzero
    | false =>
      rw [hdisk, hvalue, if_neg (by simp [hprints])]
      refine ⟨rfl, .inr ⟨?_, hbuilt⟩⟩
      unfold announcement at hprints
      rwa [if_neg (by simp [hdry])] at hprints
  · obtain ⟨rfl, rfl⟩ := h.unique h'
    rw [hdisk]
    exact ⟨code, hcode, hbuilt⟩
  · rw [hvalue] at hforty
    split at hforty
    · cases hforty
    · cases hforty
  · obtain ⟨rfl, rfl⟩ := h.unique h'
    rw [hdry] at hdry'
    cases hdry'

/-- A build that goes through has its effect. -/
theorem effect_of_build_ok {args : List Text} (h : Asks c d args settings task) {text : Text}
    (hbuild : (build c settings task d).value = (.ok text, after)) :
    Effect c args d (printed c after text).value := by
  have hp := outputDirectory_proper h
  obtain ⟨rfl, code, hcode, hprepare, hend⟩ := build_eq_ok hp hbuild
  cases hdry : task.dryRun with
  | true =>
    rw [if_pos hdry] at hend
    obtain rfl := hend
    exact effect_of_dry_build h hdry hcode hprepare
  | false =>
    rw [if_neg (by simp [hdry])] at hend
    obtain ⟨message, hwrite⟩ := hend
    exact effect_of_written_build h hdry hcode
      (built_of_stored hp h.isCName (write_eq_ok hp hwrite).2)

/-- A build that stops has its effect. -/
theorem effect_of_build_error {args : List Text} (h : Asks c d args settings task)
    (hhome : ∀ name ∈ d.home, 0 ∉ name) (htag : '\x00' ∉ c.tag.toList) {halt : Halt}
    (hbuild : (build c settings task d).value = (.error halt, after)) :
    Effect c args d (halted after halt).value := by
  have hp := outputDirectory_proper h
  have hdisk := disk_halted after halt
  have hcode_ne := code_halted_ne_zero after halt
  obtain rfl | ⟨hdry, code, hcode, hwrite⟩ := build_eq_error hbuild
  · refine ⟨fun _ => hdisk, fun _ _ => .inl hdisk, fun _ _ _ _ hzero => absurd hzero hcode_ne,
      fun settings' task' _ _ _ => ?_, fun _ _ _ _ hzero => absurd hzero hcode_ne⟩
    rw [hdisk]
    exact attempted_of_grows (.refl _ _)
  · obtain ⟨hattempted, hwhy⟩ := attempted_of_write hp h.isCName hhome htag hcode hwrite
    refine ⟨fun hall => ?_, fun _ hforty => ?_, fun _ _ _ _ hzero => absurd hzero hcode_ne,
      fun settings' task' h' _ _ => ?_, fun _ _ _ _ hzero => absurd hzero hcode_ne⟩
    · rw [hall settings task h] at hdry
      cases hdry
    · obtain ⟨path, message, cause, rfl⟩ | rfl | ⟨rfl, hnone⟩ := hwhy
      · exact absurd rfl hforty
      · exact .inl hdisk
      · exact .inr ⟨settings, task, code, h, hdry, hcode, rfl, .inl ⟨hnone, hattempted⟩⟩
    · obtain ⟨rfl, rfl⟩ := h.unique h'
      rw [hdisk]
      exact hattempted

/-- Of every run after any others, the effect on the disk is known, if neither a name on the way to
where they run nor the tag of the temporary files holds a null character, which no name can. -/
theorem effect_of_runs (earlier : List (Circumstances × List Text)) (c : Circumstances)
    (args : List Text) (d : Disk) (hhome : ∀ name ∈ d.home, 0 ∉ name)
    (htag : '\x00' ∉ c.tag.toList) :
    Effect c args (afterRuns earlier d) (run c args (afterRuns earlier d)).value := by
  have hhome : ∀ name ∈ (afterRuns earlier d).home, 0 ∉ name := by
    rw [home_afterRuns]
    exact hhome
  -- Nothing but the home is known of the disk that the earlier runs have left.
  generalize afterRuns earlier d = d at hhome ⊢
  by_cases h : ∃ settings task, Asks c d args settings task
  · obtain ⟨settings, task, h⟩ := h
    rw [value_run_of_asks h]
    cases hbuild : (build c settings task d).value with
    | mk outcome after =>
      cases outcome with
      | ok text => exact effect_of_build_ok h hbuild
      | error halt => exact effect_of_build_error h hhome htag hbuild
  · have hnot : ∀ settings task, ¬ Asks c d args settings task :=
      fun settings task hasks => h ⟨settings, task, hasks⟩
    have hdisk := disk_run_of_not_asks hnot
    exact ⟨fun _ => hdisk, fun _ _ => .inl hdisk,
      fun settings task hasks => absurd hasks (hnot settings task),
      fun settings task hasks => absurd hasks (hnot settings task),
      fun settings task hasks => absurd hasks (hnot settings task)⟩

/-! ## Runs that fail and leave something -/

/-- A disk with a document of characters below 128 as its only file, in its home. -/
def diskOf (document : List Char) : Disk :=
  ⟨[[0x77]], [([[0x77]], .directory),
    ([[0x77], [0x78]], .file (document.map fun c => UInt8.ofNat c.toNat))]⟩

/-- The arguments for a build of the document into a directory. -/
def argsTo (output : Text) : List Text := ["build", "-y", "x", "-n", "m", "-o", output]

/-- The task in the arguments. -/
def taskTo (output : Text) : Task := ⟨.ofText "x", some (.ofText output), "m", false⟩

/-- A run whose output has bytes for characters only. -/
def anyRun : Circumstances :=
  { correlation := "c", tag := "t", seconds := .nan, prints := Text.Utf8.isEncodable }

/-- What is left of a build of a document into a directory. -/
def endingOf (document : List Char) (output : Text) : Ending :=
  (run anyRun (argsTo output) (diskOf document)).value

/-- The document of a machine that stays where it starts, by what it says of the states. -/
def documentOf (states : List Char) : List Char :=
  "states: ".toList ++ states ++
    "\ninput_alphabet: []\noutput_alphabet: []\noutput_function: []\nstart_state: a\n".toList ++
    "end_states: []\ntransitions:\n- current_state: a\n  read_symbol: []\n  new_state: a\n".toList

/-- The machine of the document, by the name of its only state. -/
def machineOf (state : Text) : Moore := ⟨⟨[state], [], [], "a", []⟩, [⟨"a", [], "a"⟩], []⟩

/-- A document with a state that has an ordinary name. -/
def loneDocument : List Char := documentOf "[a]".toList

/-- A document with a state that has half of a surrogate pair as its name. -/
def halfDocument : List Char := documentOf "[\"\\ud800\"]".toList

/-- Of a build into a directory, after one that stopped there, the effect is known. -/
theorem effect_of_second_build :
    (∀ name ∈ (diskOf loneDocument).home, 0 ∉ name) ∧ '\x00' ∉ anyRun.tag.toList ∧
      Effect anyRun (argsTo "o") (afterRuns [(anyRun, argsTo "m.c/..")] (diskOf loneDocument))
        (run anyRun (argsTo "o")
          (afterRuns [(anyRun, argsTo "m.c/..")] (diskOf loneDocument))).value :=
  ⟨by decide, by decide,
    effect_of_runs [(anyRun, argsTo "m.c/..")] anyRun (argsTo "o") (diskOf loneDocument)
      (by decide) (by decide)⟩

/-- The machine of a document is read from its disk. -/
theorem ofFile_diskOf {document : List Char} {machine : Machine}
    (h : document.all (fun c => c.toNat < 0x80) = true ∧
      document.all Yaml.isDocumentChar = true ∧ Text.unifyBreaks document = document ∧
      ((Yaml.load {} .strict ⟨document, none⟩).toOption.bind fun data =>
        (Machine.ofData data).outcome.toOption) = some machine) :
    (Machine.ofFile {} (diskOf document) (.ofText "x")).outcome = .ok machine := by
  obtain ⟨hascii, hprintable, hbreaks, hmachine⟩ := h
  obtain ⟨data, hload, hdata⟩ := Option.bind_eq_some_iff.1 hmachine
  have hascii : ∀ c ∈ document, c.toNat < 0x80 := by simpa using hascii
  have hread : (diskOf document).readText (.ofText "x") = .ok (String.ofList document) := by
    have hfile : (diskOf document).HoldsText (.ofText "x") document :=
      congrArg Except.ok (Text.Utf8.flatMap_ascii hascii).symm
    rw [hfile.readText, hbreaks]
  have hsource : Yaml.Source.ofText (String.ofList document) = ⟨document, none⟩ := by
    rw [Yaml.Source.ofText, String.toList_ofList]
    exact if_pos hprintable
  unfold Machine.ofFile
  rw [hread]
  dsimp only
  unfold Machine.ofText
  rw [hsource, eq_ok_of_toOption hload]
  dsimp only
  rw [Stage.outcome_adapt, eq_ok_of_toOption hdata]
  rfl

/-- The code of a machine that passes its check is prepared by the embedded templates. -/
theorem prepare_moore {document : List Char} {task : Task} {m : Moore}
    (hfile : task.yamlFile = .ofText "x")
    (hmachine : (Machine.ofFile {} (diskOf document) (.ofText "x")).outcome = .ok (.moore m))
    (hcheck : (Check.all m.toSignature).outcome = .ok ()) :
    (prepare anyRun.room (diskOf document) {} task).outcome =
      .ok (bundleOf {} task (Code.embeddedCode task.name m)) := by
  rw [← hfile] at hmachine
  exact prepare_eq_ok_iff.2 ⟨_, _, _, hmachine, hcheck, rfl, Code.ofMoore_embedded _ m, rfl⟩

/-- A build of a machine that passes its check gets to writing. -/
theorem endingOf_moore {document : List Char} {output : Text} {m : Moore}
    (hasks : Asks anyRun (diskOf document) (argsTo output) {} (taskTo output))
    (hmachine : (Machine.ofFile {} (diskOf document) (.ofText "x")).outcome = .ok (.moore m))
    (hcheck : (Check.all m.toSignature).outcome = .ok ()) :
    endingOf document output =
      concluded anyRun (((bundleOf {} (taskTo output) (Code.embeddedCode "m" m)).write
        anyRun.missing anyRun.tag (diskOf document)).value.map (Except.map (· ++ "\n")) id) := by
  have hwet : (taskTo output).dryRun = false := rfl
  rw [endingOf, value_run_of_asks hasks, value_build, prepare_moore rfl hmachine hcheck]
  dsimp only
  rw [hwet, if_neg Bool.false_ne_true]
  rfl

/-- The machines of both documents are read from their disks. -/
theorem ofFile_documentOf :
    (Machine.ofFile {} (diskOf loneDocument) (.ofText "x")).outcome =
        .ok (.moore (machineOf "a")) ∧
      (Machine.ofFile {} (diskOf halfDocument) (.ofText "x")).outcome =
        .ok (.moore (machineOf [.half 0])) := by
  -- The characters of the texts are listed first, which is faster than decoding them each time.
  have hchars (states : List Char) : documentOf states = _ ++ states ++ _ ++ _ :=
    congrArg₂ (· ++ ·) (congrArg₂ (· ++ ·) (congrArg (· ++ states) String.toList_ofList)
      String.toList_ofList) String.toList_ofList
  have hlone : loneDocument = _ := hchars _
  have hhalf : halfDocument = _ := hchars _
  rw [hlone, hhalf]
  exact ⟨ofFile_diskOf (by decide +kernel), ofFile_diskOf (by decide +kernel)⟩

/-- There are no settings on the disk of a document. -/
theorem load_diskOf (document : List Char) : Settings.load {} (diskOf document) none = .ok {} := rfl

/-- The arguments ask for a build. -/
theorem asks_argsTo (document : List Char) (output : Text)
    (hrequest : (readRequest (diskOf document) (argsTo output)).toOption =
      some ⟨none, none, none, .build, ["-y", "x", "-n", "m", "-o", output]⟩)
    (htask : (readTask (diskOf document) .build ["-y", "x", "-n", "m", "-o", output]).toOption =
      some (taskTo output)) :
    Asks anyRun (diskOf document) (argsTo output) {} (taskTo output) :=
  ⟨_, {}, eq_ok_of_toOption hrequest, rfl, load_diskOf document, rfl, eq_ok_of_toOption htask⟩

/-- What is left of the build of a machine whose code has no bytes. -/
theorem endingOf_halfDocument :
    (endingOf halfDocument "o").code = 1 ∧
      (endingOf halfDocument "o").disk.get? [[0x77], [0x6F]] = some .directory := by
  have hasks := asks_argsTo halfDocument "o" (by decide +kernel) (by decide +kernel)
  rw [endingOf_moore hasks ofFile_documentOf.2 (eq_ok_of_toOption (by decide +kernel))]
  exact ⟨by decide +kernel, by decide +kernel⟩

/-- Three builds that fail and leave something: one by way of the place of its source, where it
makes a directory and stops at it, one whose code has no bytes, and one that has written both files
into a directory whose name the output does not take. -/
theorem run_leaves_directory :
    ((endingOf loneDocument "m.c/..").code = 40 ∧
      (diskOf loneDocument).get? [[0x77], [0x6D, 0x2E, 0x63]] = none ∧
      (endingOf loneDocument "m.c/..").disk.locate (sourcePath {} (taskTo "m.c/..")).text =
        .ok [[0x77], [0x6D, 0x2E, 0x63]] ∧
      (endingOf loneDocument "m.c/..").disk.get? [[0x77], [0x6D, 0x2E, 0x63]] = some .directory) ∧
    ((endingOf halfDocument "o").code = 1 ∧ (diskOf halfDocument).get? [[0x77], [0x6F]] = none ∧
      (endingOf halfDocument "o").disk.get? [[0x77], [0x6F]] = some .directory) ∧
    (endingOf loneDocument [.half 0x480]).code = 1 ∧
      (diskOf loneDocument).get? [[0x77], [0x80]] = none ∧
      ((endingOf loneDocument [.half 0x480]).disk.get?
        [[0x77], [0x80], [0x6D, 0x2E, 0x68]]).isSome ∧
      ((endingOf loneDocument [.half 0x480]).disk.get?
        [[0x77], [0x80], [0x6D, 0x2E, 0x63]]).isSome := by
  have hlone := asks_argsTo loneDocument "m.c/.." (by decide +kernel) (by decide +kernel)
  have hbyte := asks_argsTo loneDocument [.half 0x480] (by decide +kernel) (by decide +kernel)
  rw [endingOf_moore hlone ofFile_documentOf.1 (eq_ok_of_toOption (by decide +kernel)),
    endingOf_moore hbyte ofFile_documentOf.1 (eq_ok_of_toOption (by decide +kernel))]
  exact ⟨⟨by decide +kernel, rfl, eq_ok_of_toOption (by decide +kernel), by decide +kernel⟩,
    ⟨endingOf_halfDocument.1, rfl, endingOf_halfDocument.2⟩,
    by decide +kernel, rfl, by decide +kernel, by decide +kernel⟩

end Transducer.CommandLine
