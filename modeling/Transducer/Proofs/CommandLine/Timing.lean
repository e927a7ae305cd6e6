import Transducer.Proofs.Code.Warning
import Transducer.Proofs.CommandLine.Phases
import Transducer.Proofs.Log.Timing

/-!
# The timing of a build

All that a run tells the log after it is configured are calls. A build sets the stage of writing
before it tells how long it took, so that its timing is always shown as that of writing
(`run_timing`).
-/

namespace Transducer

open Log

namespace Machine

/-- Reading a machine from data tells the log events. -/
theorem isEvent_of_ofData (data : Document.Data) :
    ∀ entry ∈ (ofData data).told, entry.IsEvent := by
  unfold ofData
  split
  · exact Stage.forall_told_bind (by simp [Entry.IsEvent]) (by simp)
  · exact Stage.forall_told_bind (by simp [tellParsed, Entry.IsEvent]) (by simp)
  · exact Stage.forall_told_bind (by simp [tellParsed, Entry.IsEvent]) (by simp)
  · exact Stage.forall_told_bind (by simp [Entry.IsEvent]) (by simp)

/-- Reading a machine from a file tells the log events. -/
theorem isEvent_of_ofFile (room : Yaml.Room) (d : Disk) (path : Path) :
    ∀ entry ∈ (ofFile room d path).told, entry.IsEvent := by
  unfold ofFile
  cases d.readText path with
  | ok text =>
    dsimp only
    unfold ofText
    rcases Yaml.load room .strict (.ofText text) with (reason | fault | failure) | data
    · exact Stage.forall_told_bind (by simp [Entry.IsEvent]) (by simp)
    · simp
    · simp
    · dsimp only
      rw [Stage.told_adapt]
      exact isEvent_of_ofData data
  | error e =>
    dsimp only
    cases e.halt (.parse ("Failed to read " ++ path.text) e.message) with
    | defect defect => simp
    | report r => exact Stage.forall_told_bind (by simp [Entry.IsEvent]) (by simp)

end Machine

/-- Checking a machine tells the log events. -/
theorem Check.isEvent_of_all (s : Signature) : ∀ entry ∈ (all s).told, entry.IsEvent := by
  have hrule (r : Rule) : ∀ entry ∈ (rule r s).told, entry.IsEvent := by
    unfold rule
    cases violation? s r with
    | none => simp [Entry.IsEvent]
    | some v => exact Stage.forall_told_bind (by simp [Entry.IsEvent]) (by simp)
  have hrules (rules : List Rule) : ∀ entry ∈ (inOrder s rules).told, entry.IsEvent := by
    induction rules with
    | nil => simp [inOrder]
    | cons r rest ih => exact Stage.forall_told_bind (hrule r) fun _ => ih
  exact Stage.forall_told_bind (by simp [Entry.IsEvent]) fun _ =>
    Stage.forall_told_bind (hrules rules) fun _ => by simp [Entry.IsEvent]

/-- Reading templates tells the log events. -/
theorem Templates.isEvent_of_ofDirectory (d : Disk) (directory : Path) :
    ∀ entry ∈ (ofDirectory d directory).told, entry.IsEvent := by
  have hread (path : Path) : ∀ entry ∈ (readOne d path).told, entry.IsEvent := by
    unfold readOne
    cases d.readText path with
    | ok text => simp
    | error e =>
      dsimp only
      cases e.halt (.template path.text ("could not be read (" ++ e.message ++ ")")) with
      | defect defect => simp
      | report r => exact Stage.forall_told_bind (by simp [Entry.IsEvent]) (by simp)
  exact Stage.forall_told_bind (hread _) fun _ => Stage.forall_told_bind (hread _) fun _ =>
    Stage.forall_told_bind (by simp [Entry.IsEvent]) (by simp)

/-- Generating code tells the log events. -/
theorem Code.isEvent_of_generate (templates : Templates) (name : Text) (machine : Machine)
    (bundle : Bundle) :
    ∀ entry ∈ (generate templates name machine bundle).told, entry.IsEvent := by
  rw [told_generate]
  cases machine with
  | moore m =>
    obtain ⟨events, htold, -⟩ := told_ofMoore templates name m
    rw [ofMachine, htold]
    intro entry hentry
    obtain ⟨e, -, rfl⟩ := List.mem_map.1 hentry
    exact ⟨e, rfl⟩
  | mealy m => exact Stage.forall_told_bind (by simp [Entry.IsEvent]) (by simp)

namespace Bundle

/-- A refused operation is told as an event, if at all. -/
theorem isEvent_of_refused (name path message : Text) (e : DiskError) :
    ∀ entry ∈ (refused name path message e).entries, entry.IsEvent := by
  unfold refused
  dsimp only
  cases e.halt (.write path message (some e.message)) with
  | defect defect => simp [pure]
  | report r => simp [event, Log.tell, pure, bind, Entry.IsEvent]

/-- Writing files tells the log events. -/
theorem isEvent_of_writeFiles (tag : String) (directory : Path) (files : List (Text × Text))
    (d : Disk) : ∀ entry ∈ (writeFiles tag directory files d).entries, entry.IsEvent := by
  induction files generalizing d with
  | nil => simp [writeFiles, pure]
  | cons file rest ih =>
    obtain ⟨name, content⟩ := file
    rw [writeFiles]
    rcases writeFile tag (target directory name) content d with ⟨(e | defect) | ⟨⟩, after⟩
    · rw [Logged.entries_bind]
      simpa [pure] using isEvent_of_refused _ _ _ _
    · simp [pure]
    · rw [Logged.entries_bind, List.forall_mem_append]
      exact ⟨by simp [event, Log.tell, Entry.IsEvent], ih after⟩

/-- Writing a bundle tells the log events. -/
theorem isEvent_of_write (b : Bundle) (room : Nat) (tag : String) (d : Disk) :
    ∀ entry ∈ (b.write room tag d).entries, entry.IsEvent := by
  unfold write
  dsimp only
  rcases d.makeDirectories room b.directory with ⟨e | ⟨⟩, after⟩
  · rw [Logged.entries_bind]
    simpa [pure] using isEvent_of_refused _ _ _ _
  · rw [Logged.entries_bind, List.forall_mem_append]
    refine ⟨isEvent_of_writeFiles _ _ _ _, ?_⟩
    rcases (writeFiles tag b.directory b.files after).value with ⟨halt | ⟨⟩, written⟩
    · simp [pure]
    · simp [event, Log.tell, pure, bind, Entry.IsEvent]

end Bundle

namespace CommandLine

variable {c : Circumstances} {d : Disk} {settings : Settings} {task : Task}

/-- Reading and checking a machine does not change how the log is written. -/
theorem isCall_of_parseAndCheck (room : Yaml.Room) (d : Disk) (path : Path) :
    ∀ entry ∈ (parseAndCheck room d path).told, entry.IsCall := by
  refine Stage.forall_told_bind (Call.stage "parse").isCall fun _ => Stage.forall_told_bind
    (fun entry h => (Machine.isEvent_of_ofFile _ _ _ entry h).isCall) fun machine =>
    Stage.forall_told_bind (Call.stage "validate").isCall fun _ =>
    Stage.forall_told_bind ?_ (by simp)
  rw [Stage.told_adapt]
  exact fun entry h => (Check.isEvent_of_all _ entry h).isCall

/-- Preparing a build does not change how the log is written. -/
theorem isCall_of_prepare (room : Yaml.Room) :
    ∀ entry ∈ (prepare room d settings task).told, entry.IsCall := by
  have htemplates : ∀ entry ∈ (templatesOf d settings).told, entry.IsCall := by
    unfold templatesOf
    cases settings.templatesDir with
    | none => simp
    | some directory =>
      exact fun entry h => (Templates.isEvent_of_ofDirectory _ _ entry h).isCall
  refine Stage.forall_told_bind (isCall_of_parseAndCheck room d task.yamlFile) fun machine =>
    Stage.forall_told_bind (Call.stage "generate").isCall fun _ =>
    Stage.forall_told_bind htemplates fun templates => ?_
  rw [Stage.told_adapt]
  exact fun entry h => (Code.isEvent_of_generate _ _ _ _ entry h).isCall

/-- What the log is told of a build that starts. -/
def startedEvent (task : Task) : Event :=
  ⟨.info, loggerName, "build_started",
    [("yaml_file", .text task.yamlFile.text), ("name", .text task.name),
      ("dry_run", .bool task.dryRun)]⟩

/-- A build that writes its files tells the log how long it took, as its last word and in the
stage of writing. -/
theorem exists_calls_of_build (hp : (outputDirectory settings task).Proper)
    (hdry : task.dryRun = false) {text : Text} {after : Disk}
    (h : (build c settings task d).value = (.ok text, after)) :
    ∃ calls : List Call, (build c settings task d).entries =
        (calls ++ [Call.log (.timing "build" c.seconds)]).map Call.entry ∧
      ∀ before, lastSet Call.stage? before calls = "write" := by
  obtain ⟨-, code, -, hprepare, hwrite⟩ := build_eq_ok hp h
  rw [hdry, if_neg Bool.false_ne_true] at hwrite
  obtain ⟨message, hwrite⟩ := hwrite
  generalize bundleOf settings task code = bundle at hprepare hwrite
  have hcalls : ∀ entry ∈ (prepare c.room d settings task).told, entry.IsCall :=
    isCall_of_prepare c.room
  obtain ⟨prepared, hprepared⟩ := exists_calls hcalls
  have hevents := bundle.isEvent_of_write c.missing c.tag d
  obtain ⟨written, hwritten⟩ := exists_calls fun entry hentry => (hevents entry hentry).isCall
  have hentries : (build c settings task d).entries = .event (startedEvent task) ::
      ((prepare c.room d settings task).told ++ .stage "write" ::
        ((bundle.write c.missing c.tag d).entries ++ [.event (.timing "build" c.seconds)])) := by
    have hrun : (prepare c.room d settings task).run.value = .ok bundle := hprepare
    unfold build
    rw [Logged.entries_bind, Logged.entries_bind, hrun]
    dsimp only
    rw [if_neg (ne_true_of_eq_false hdry), Logged.entries_bind, Logged.entries_bind, hwrite]
    rfl
  -- The stage of writing is the last that is set, as writing itself tells the log events only.
  refine ⟨.log (startedEvent task) :: (prepared ++ .stage "write" :: written), ?_, ?_⟩
  · rw [hentries, ← hprepared, ← hwritten]
    simp [Call.entry]
  · intro before
    have hwrites : ∀ call ∈ written, call.entry.IsEvent := fun call hcall =>
      hevents _ (hwritten ▸ List.mem_map_of_mem hcall)
    have hsplit : Call.stage "write" :: written = [Call.stage "write"] ++ written := rfl
    rw [← List.cons_append, lastSet_append, hsplit, lastSet_append, lastSet_of_isEvent hwrites]
    rfl

/-- A run that gets to a build which succeeds tells the log what the build does. -/
theorem entries_run_of_asks {args : List Text} (h : Asks c d args settings task)
    {text : Text} {after : Disk} (hbuild : (build c settings task d).value = (.ok text, after))
    (hprints : c.prints text = true) :
    (run c args d).entries = .configure settings.level settings.format ::
      .identify c.correlation :: (build c settings task d).entries := by
  obtain ⟨request, loaded, hrequest, hcommand, hloaded, rfl, htask⟩ := h
  unfold run
  rw [hrequest]
  dsimp only
  rw [hloaded]
  dsimp only
  rw [hcommand, htask]
  generalize loaded.withLogging _ _ = settings at hbuild ⊢
  have hperform : perform c settings .build task d = build c settings task d := rfl
  have hprinted : (printed c after text).entries = [] := by
    rw [printed, if_pos hprints]
    rfl
  rw [Logged.entries_bind, Logged.entries_bind]
  dsimp only
  rw [Logged.entries_bind, hperform, hbuild]
  dsimp only
  rw [hprinted, List.append_nil]
  rfl

/-- The log of a run that builds and writes its files ends with the time of the build, if its level
lets news through. The timing is shown as one of the stage of writing. -/
theorem run_timing (s : Setup) {args : List Text} (h : Asks c d args settings task)
    (hdry : task.dryRun = false) (hcode : (run c args d).value.code = 0)
    (hlevel : (Level.ofName settings.level).severity ≤ Level.info.severity) :
    ∃ lines line, s.lines (run c args d).entries = lines ++ [line] ∧
      TellsTiming "write" "build" c.seconds line ∧
      line.field? "stage" = some (.text "write") := by
  obtain ⟨text, after, hbuild, hprints⟩ : ∃ text after,
      (build c settings task d).value = (.ok text, after) ∧ c.prints text = true := by
    rw [value_run_of_asks h] at hcode
    rcases hvalue : (build c settings task d).value with ⟨halt | text, after⟩
    · rw [hvalue] at hcode
      exact absurd hcode (code_halted_ne_zero after halt)
    · refine ⟨text, after, rfl, ?_⟩
      rw [hvalue, concluded, value_printed] at hcode
      split at hcode
      · assumption
      · cases hcode
  obtain ⟨calls, hentries, hwrite⟩ := exists_calls_of_build (outputDirectory_proper h) hdry hbuild
  rw [entries_run_of_asks h hbuild hprints, hentries]
  simp only [Setup.lines, after_configure]
  -- Of the log that is configured, only its threshold counts.
  generalize hconfigured : Setup.after _ (.identify _) = configured
  have hthreshold : configured.threshold = Level.ofName settings.level := by
    rw [← hconfigured, Setup.after]
  obtain ⟨line, hlines, htells⟩ := lines_concat_timing configured (hthreshold ▸ hlevel) calls
    "build" c.seconds
  rw [hwrite] at htells
  exact ⟨_, line, hlines, htells, by simpa using htells.stageField⟩

end CommandLine

end Transducer
