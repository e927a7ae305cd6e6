import Transducer.Proofs.CommandLine.ExitCode
import Transducer.Proofs.CommandLine.Timing

/-!
# Settings that can be used

Settings are checked when they are loaded, and other parts of the program use them later. What was
checked is what is used: the templates that accepted settings name are read, unless one of them is
no UTF-8 text (`Templates.reads_of_valid`), and accepted settings stay accepted with the flags for
the log (`relogs_of_valid`). A run configures the log by nothing else (`configure_mem_run_iff`), so
that its level is always one that the log knows (`loaded_settings_usable`).
-/

namespace Transducer.CommandLine

open Log
open Outcome (eq_ok_of_toOption)

/-! ## Flags for the log -/

/-- A flag is accepted: it is not given, or it passes the check of an option with some choices. -/
def Accepted (choices : List String) (flag : Option Text) : Prop :=
  ∀ text ∈ flag, ∃ label, checkChoice label choices text = .ok ()

/-- A value as a flag leaves it: the choice that the flag names in any case, or what it was. -/
inductive Overrides (choices : List String) : Option Text → Text → Text → Prop where
  | kept (value : Text) : Overrides choices none value value
  | set {text : Text} {choice : String} (value : Text) (hchoice : choice ∈ choices)
    (hcase : text.map foldCase = Text.ofString choice) :
    Overrides choices (some text) value choice

/-- The settings with the flags for the log. -/
def relogged (settings : Settings) (level format : Option Text) : Settings :=
  settings.withLogging ((level.bind (choice? levelChoices)).map Text.ofString)
    ((format.bind (choice? formatChoices)).map Text.ofString)

/-- Settings that flags changed: they can be used, and only what the flags are about is new. -/
structure Relogs (d : Disk) (settings : Settings) (level format : Option Text)
    (changed : Settings) : Prop where
  accepted : changed.validate d = .ok ()
  outputRoot : changed.outputRoot = settings.outputRoot
  templatesDir : changed.templatesDir = settings.templatesDir
  level : Overrides levelChoices level settings.level changed.level
  format : Overrides formatChoices format settings.format changed.format

/-- A flag leads from one value to one other. -/
theorem Overrides.unique {choices : List String} {flag : Option Text} {value new new' : Text}
    (h : Overrides choices flag value new) (h' : Overrides choices flag value new') :
    new = new' := by
  cases h with
  | kept => cases h'; rfl
  | set _ _ hcase =>
    cases h' with
    | set _ _ hcase' => exact hcase.symm.trans hcase'

/-- A value has a property that it had before and that all choices have. -/
theorem Overrides.preserves {choices : List String} {flag : Option Text} {value new : Text}
    (h : Overrides choices flag value new) {P : Text → Prop} (hvalue : P value)
    (hchoices : ∀ choice ∈ choices, P (Text.ofString choice)) : P new := by
  cases h with
  | kept => exact hvalue
  | set _ hchoice _ => exact hchoices _ hchoice

/-- A choice that a text names is one of the choices, in any case. -/
theorem choice?_eq_some {choices : List String} {text : Text} {choice : String}
    (h : choice? choices text = some choice) :
    choice ∈ choices ∧ text.map foldCase = Text.ofString choice := by
  refine ⟨List.mem_of_find?_eq_some h, ?_⟩
  have hfound := List.find?_some h
  rw [decide_eq_true_eq] at hfound
  exact hfound.symm

/-- An accepted flag overrides a value, as no choice is empty. -/
theorem overrides_of_accepted {choices : List String}
    (hempty : ∀ choice ∈ choices, (Text.ofString choice).isEmpty = false) {flag : Option Text}
    (h : Accepted choices flag) (value : Text) :
    Overrides choices flag value
      (Settings.choose ((flag.bind (choice? choices)).map Text.ofString) value) := by
  cases flag with
  | none => exact .kept value
  | some text =>
    obtain ⟨label, hcheck⟩ := h text rfl
    unfold checkChoice at hcheck
    split at hcheck
    · rename_i hsome
      obtain ⟨choice, hchoice⟩ := Option.isSome_iff_exists.1 hsome
      obtain ⟨hmem, hcase⟩ := choice?_eq_some hchoice
      -- An empty choice would count as none.
      have hchosen : Settings.choose (some (Text.ofString choice)) value = Text.ofString choice :=
        if_neg (ne_true_of_eq_false (hempty choice hmem))
      rw [Option.bind_some, hchoice, Option.map_some, hchosen]
      exact .set value hmem hcase
    · cases hcheck

/-- A level that is chosen overrides the one of the settings. -/
theorem overrides_level {level : Option Text} (h : Accepted levelChoices level)
    (settings : Settings) (format : Option Text) :
    Overrides levelChoices level settings.level (relogged settings level format).level :=
  overrides_of_accepted (by decide) h settings.level

/-- A format that is chosen overrides the one of the settings. -/
theorem overrides_format {format : Option Text} (h : Accepted formatChoices format)
    (settings : Settings) (level : Option Text) :
    Overrides formatChoices format settings.format (relogged settings level format).format :=
  overrides_of_accepted (by decide) h settings.format

/-- A level is known to the log if it was before, as all choices are. -/
theorem Overrides.level_known {flag : Option Text} {value new : Text}
    (h : Overrides levelChoices flag value new) (hvalue : (Level.ofName? value).isSome = true) :
    (Level.ofName? new).isSome = true :=
  h.preserves (P := fun level => (Level.ofName? level).isSome = true) hvalue (by decide)

/-- A format is known to the log if it was before, as all choices are. -/
theorem Overrides.format_known {flag : Option Text} {value new : Text}
    (h : Overrides formatChoices flag value new) (hvalue : value ∈ Settings.formats) :
    new ∈ Settings.formats :=
  h.preserves (P := fun format => format ∈ Settings.formats) hvalue (by decide)

/-- Accepted settings are accepted again with the flags for the log. -/
theorem relogs_of_valid {d : Disk} {settings : Settings} (h : settings.Valid d)
    {level format : Option Text} (hlevel : Accepted levelChoices level)
    (hformat : Accepted formatChoices format) :
    Relogs d settings level format (relogged settings level format) where
  accepted := Settings.validate_eq_ok_iff.2 {
    level := (overrides_level hlevel settings format).level_known h.level
    format := (overrides_format hformat settings level).format_known h.format
    templates := h.templates }
  outputRoot := rfl
  templatesDir := rfl
  level := overrides_level hlevel settings format
  format := overrides_format hformat settings level

/-! ## What a run tells the log -/

section Runs

variable {c : Circumstances} {d : Disk} {args : List Text} {request : Request}

/-- The options before the command hold what is asked for; the flags for the log are accepted. -/
theorem exists_given_of_readRequest (h : readRequest d args = .ok request) :
    ∃ given, Reads programSpecs false args given ∧
      Accepted levelChoices (given.value? .logLevel) ∧
      Accepted formatChoices (given.value? .logFormat) ∧
      request.config = given.value? .config ∧
      request.level = (given.value? .logLevel).bind (choice? levelChoices) ∧
      request.format = (given.value? .logFormat).bind (choice? formatChoices) := by
  obtain ⟨given, name, command, rest, -, hreads, -, hchecks, -, -, rfl⟩ :=
    readRequest_eq_ok_iff.1 h
  rw [forall_mem_order_iff given (by simp [programSpecs])] at hchecks
  refine ⟨given, hreads, ?_, ?_, rfl, rfl, rfl⟩
  · intro text htext
    have hcheck := hchecks ⟨.logLevel, none, "--log-level", true⟩ (by simp [programSpecs])
    unfold checkProgramOption at hcheck
    rw [Option.mem_def.1 htext] at hcheck
    exact ⟨_, hcheck⟩
  · intro text htext
    have hcheck := hchecks ⟨.logFormat, none, "--log-format", true⟩ (by simp [programSpecs])
    unfold checkProgramOption at hcheck
    rw [Option.mem_def.1 htext] at hcheck
    exact ⟨_, hcheck⟩

/-- A run that stops does not change how the log is written. -/
theorem isCall_of_halted (d : Disk) (halt : Halt) :
    ∀ entry ∈ (halted d halt).entries, entry.IsCall := by
  cases halt with
  | report r => simp [halted, pure]
  | defect e =>
    unfold halted
    rw [Logged.entries_bind, List.forall_mem_append]
    exact ⟨Call.isCall (.log _), by simp [pure]⟩

/-- A run that prints does not change how the log is written. -/
theorem isCall_of_printed (c : Circumstances) (d : Disk) (text : Text) :
    ∀ entry ∈ (printed c d text).entries, entry.IsCall := by
  unfold printed
  split
  · simp [pure]
  · exact isCall_of_halted d _

/-- A run that ends before its work does not change how the log is written. -/
theorem isCall_of_ended (c : Circumstances) (d : Disk) (early : Early) :
    ∀ entry ∈ (ended c d early).entries, entry.IsCall := by
  cases early with
  | shown text => exact isCall_of_printed c d text
  | usage command message => simp [ended, pure]
  | wrongOption message => simp [ended, pure]
  | halt h => exact isCall_of_halted d h

/-- A build does not change how the log is written. -/
theorem isCall_of_build (c : Circumstances) (settings : Settings) (task : Task) (d : Disk) :
    ∀ entry ∈ (build c settings task d).entries, entry.IsCall := by
  unfold build
  rw [Logged.entries_bind, List.forall_mem_append, Logged.entries_bind, List.forall_mem_append]
  refine ⟨Call.isCall (.log _), isCall_of_prepare c.room, ?_⟩
  cases (prepare c.room d settings task).run.value with
  | error halt => simp [pure]
  | ok bundle =>
    dsimp only
    split
    · simp [pure]
    -- What is left is the writing of a build that is not dry.
    rw [Logged.entries_bind, List.forall_mem_append, Logged.entries_bind, List.forall_mem_append]
    refine ⟨Call.isCall (.stage "write"),
      fun entry h => (bundle.isEvent_of_write c.missing c.tag d entry h).isCall, ?_⟩
    rcases (bundle.write c.missing c.tag d).value with ⟨halt | message, after⟩
    · simp [pure]
    · rw [Logged.entries_bind, List.forall_mem_append]
      exact ⟨Call.isCall (.log _), by simp [pure]⟩

/-- A check does not change how the log is written. -/
theorem isCall_of_check (room : Yaml.Room) (task : Task) (d : Disk) :
    ∀ entry ∈ (check room task d).told, entry.IsCall :=
  Stage.forall_told_bind (Call.isCall (.log _)) fun _ =>
    Stage.forall_told_bind (isCall_of_parseAndCheck room d task.yamlFile) fun _ => by simp

/-- A command does not change how the log is written. -/
theorem isCall_of_perform (c : Circumstances) (settings : Settings) (command : Command)
    (task : Task) (d : Disk) :
    ∀ entry ∈ (perform c settings command task d).entries, entry.IsCall := by
  cases command with
  | build => exact isCall_of_build c settings task d
  | check =>
    unfold perform
    dsimp only
    rw [Logged.entries_bind, List.forall_mem_append]
    exact ⟨isCall_of_check c.room task d, by simp [pure]⟩

/-- A run without settings never configures the log. -/
theorem isCall_of_run (h : ∀ request, readRequest d args = .ok request →
      ∀ settings, settingsOf c d request ≠ .ok settings) :
    ∀ entry ∈ (run c args d).entries, entry.IsCall := by
  unfold run
  cases hrequest : readRequest d args with
  | error early => exact isCall_of_ended c d early
  | ok request =>
    have hnone := h request hrequest
    unfold settingsOf at hnone
    dsimp only
    cases hload : Settings.load c.reader d (request.config.map Path.ofText) with
    | error halt => exact isCall_of_halted d halt
    | ok loaded =>
      rw [hload] at hnone
      exact absurd rfl (hnone _)

/-- A run with settings configures the log by them at its start, and never again. -/
theorem entries_run_of_settings {settings : Settings}
    (hrequest : readRequest d args = .ok request) (h : settingsOf c d request = .ok settings) :
    ∃ entries, (∀ entry ∈ entries, entry.IsCall) ∧
      (run c args d).entries = .configure settings.level settings.format :: entries := by
  obtain ⟨loaded, hload, hsettings⟩ := exists_of_settingsOf h
  unfold run
  rw [hrequest]
  dsimp only
  rw [hload]
  dsimp only
  rw [← hsettings, Logged.entries_bind, Logged.entries_bind]
  refine ⟨_, List.forall_mem_append.2 ⟨Call.isCall (.identify c.correlation), ?_⟩, rfl⟩
  cases readTask d request.command request.args with
  | error early => exact isCall_of_ended c d early
  | ok task =>
    dsimp only
    rw [Logged.entries_bind, List.forall_mem_append]
    refine ⟨isCall_of_perform c settings request.command task d, ?_⟩
    rcases (perform c settings request.command task d).value with ⟨halt | text, after⟩
    · exact isCall_of_halted after halt
    · exact isCall_of_printed c after text

/-- A run configures the log by its settings, if it gets to know them. -/
theorem configure_mem_run_iff {level format : Text} :
    .configure level format ∈ (run c args d).entries ↔
      ∃ request settings, readRequest d args = .ok request ∧
        settingsOf c d request = .ok settings ∧ settings.level = level ∧
        settings.format = format := by
  have hcall : ¬ (Entry.configure level format).IsCall := by
    rintro ⟨call, hentry⟩
    cases call <;> cases hentry
  constructor
  · intro hmem
    by_cases h : ∃ request settings, readRequest d args = .ok request ∧
        settingsOf c d request = .ok settings
    · obtain ⟨request, settings, hrequest, hsettings⟩ := h
      obtain ⟨entries, hentries, hrun⟩ := entries_run_of_settings (c := c) hrequest hsettings
      rw [hrun] at hmem
      rcases List.mem_cons.1 hmem with heq | hmem
      · obtain ⟨rfl, rfl⟩ := Entry.configure.inj heq
        exact ⟨request, settings, hrequest, hsettings, rfl, rfl⟩
      · exact absurd (hentries _ hmem) hcall
    · refine absurd (isCall_of_run ?_ _ hmem) hcall
      exact fun request hrequest settings hsettings => h ⟨request, settings, hrequest, hsettings⟩
  · rintro ⟨request, settings, hrequest, hsettings, rfl, rfl⟩
    obtain ⟨entries, -, hrun⟩ := entries_run_of_settings (c := c) hrequest hsettings
    rw [hrun]
    exact List.mem_cons_self

/-- The way in which a run is to write its log: arguments and settings are in order, and the flags
before the command override what the settings say. -/
def Configures (c : Circumstances) (d : Disk) (args : List Text) (level format : Text) : Prop :=
  ∃ request given loaded, readRequest d args = .ok request ∧ Reads programSpecs false args given ∧
    Settings.load c.reader d ((given.value? .config).map Path.ofText) = .ok loaded ∧
    Overrides levelChoices (given.value? .logLevel) loaded.level level ∧
    Overrides formatChoices (given.value? .logFormat) loaded.format format

/-- The settings of a run are those of its file with its flags. -/
theorem configures_iff {level format : Text} :
    Configures c d args level format ↔
      ∃ request settings, readRequest d args = .ok request ∧
        settingsOf c d request = .ok settings ∧ settings.level = level ∧
        settings.format = format := by
  constructor
  · rintro ⟨request, given, loaded, hrequest, hreads, hload, hlevel, hformat⟩
    obtain ⟨given', hreads', haccepted, haccepted', hconfig, hlevel', hformat'⟩ :=
      exists_given_of_readRequest hrequest
    -- Arguments are read in one way only.
    obtain rfl : given = given' := Except.ok.inj <|
      (readArgs_eq_ok_iff.2 hreads).symm.trans (readArgs_eq_ok_iff.2 hreads')
    refine ⟨request, relogged loaded (given.value? .logLevel) (given.value? .logFormat), hrequest,
      ?_, ?_, ?_⟩
    · rw [settingsOf, hconfig, hload, hlevel', hformat']
      rfl
    · exact (overrides_level haccepted loaded _).unique hlevel
    · exact (overrides_format haccepted' loaded _).unique hformat
  · rintro ⟨request, settings, hrequest, hsettings, rfl, rfl⟩
    obtain ⟨given, hreads, hlevel, hformat, hconfig, hlevel', hformat'⟩ :=
      exists_given_of_readRequest hrequest
    obtain ⟨loaded, hload, rfl⟩ := exists_of_settingsOf hsettings
    rw [hconfig] at hload
    rw [hlevel', hformat']
    exact ⟨request, given, loaded, hrequest, hreads, hload, overrides_level hlevel loaded _,
      overrides_format hformat loaded _⟩

/-- A run is to write its log at a level and in a format that the log knows. -/
theorem Configures.known {level format : Text} (h : Configures c d args level format) :
    (∃ threshold, Level.ofName? level = some threshold) ∧ format ∈ Settings.formats := by
  obtain ⟨request, given, loaded, -, -, hload, hlevel, hformat⟩ := h
  have hvalid := Settings.load_valid hload
  exact ⟨Option.isSome_iff_exists.1 (hlevel.level_known hvalid.level),
    hformat.format_known hvalid.format⟩

end Runs

/-- Settings that are loaded can be used. The templates they name are read, unless one of them is no
UTF-8 text, and the first such is reported. With flags for the log that are accepted, they are
accepted again and only the log is new. A run configures the log by settings and flags in this way
and in no other, so its level and its format are always known ones. -/
theorem loaded_settings_usable (d : Disk) :
    (∀ reader path settings, Settings.load reader d path = .ok settings →
      (∀ directory, settings.templatesDir = some directory →
        Templates.Reads d directory (Templates.ofDirectory d directory).outcome) ∧
      ∀ level format, Accepted levelChoices level → Accepted formatChoices format →
        Relogs d settings level format (relogged settings level format)) ∧
    ∀ c args level format,
      (.configure level format ∈ (run c args d).entries ↔ Configures c d args level format) ∧
      (.configure level format ∈ (run c args d).entries →
        (∃ threshold, Level.ofName? level = some threshold) ∧ format ∈ Settings.formats) := by
  refine ⟨fun reader path settings hload => ?_, fun c args level format => ?_⟩
  · have hvalid := Settings.load_valid hload
    exact ⟨fun directory hdirectory => Templates.reads_of_valid hvalid hdirectory,
      fun level format hlevel hformat => relogs_of_valid hvalid hlevel hformat⟩
  · have hconfigures : .configure level format ∈ (run c args d).entries ↔
        Configures c d args level format := configure_mem_run_iff.trans configures_iff.symm
    exact ⟨hconfigures, fun hmem => (hconfigures.1 hmem).known⟩

/-- The bytes of a text with characters below 128. -/
def bytesOf (text : String) : List UInt8 := text.toList.map fun c => UInt8.ofNat c.toNat

/-- A disk with settings that name templates, the second of which is no UTF-8 text. -/
def brokenTemplates : Disk :=
  (((diskWith loneDocument (bytesOf "logging:\n  format: json\ntemplates_dir: t\n")).put
    [[0x77], bytesOf "t"] .directory).put
    [[0x77], bytesOf "t", bytesOf Templates.headerFile] (.file (bytesOf "h\r\n"))).put
    [[0x77], bytesOf "t", bytesOf Templates.sourceFile] (.file [0xFF])

/-- The settings on the disk. -/
def brokenSettings : Settings := { format := "json", templatesDir := some (.ofText "t") }

/-- The arguments for a check with a level for the log. -/
def debugArgs : List Text := "--log-level" :: "Debug" :: checkArgs

/-- Settings whose second template is no text are loaded, the template is reported, and a run with a
flag configures the log by the flag and the settings. -/
theorem loaded_settings_usable_broken :
    Settings.load {} brokenTemplates none = .ok brokenSettings ∧
      Templates.Reads brokenTemplates (.ofText "t")
        (Templates.ofDirectory brokenTemplates (.ofText "t")).outcome ∧
      Accepted levelChoices (some "Debug") ∧ Accepted formatChoices none ∧
      Relogs brokenTemplates brokenSettings (some "Debug") none
        (relogged brokenSettings (some "Debug") none) ∧
      .configure "debug" "json" ∈ (run anyRun debugArgs brokenTemplates).entries ∧
      ∃ threshold, Level.ofName? "debug" = some threshold := by
  have hload : Settings.load {} brokenTemplates none = .ok brokenSettings :=
    eq_ok_of_toOption (by decide +kernel)
  have hlevel : Accepted levelChoices (some "Debug") := by
    rintro text ⟨⟩
    exact ⟨"", eq_ok_of_toOption (by decide +kernel)⟩
  have hformat : Accepted formatChoices none := by
    rintro text ⟨⟩
  have hrequest : readRequest brokenTemplates debugArgs =
      .ok { checkRequest with level := some "debug" } := eq_ok_of_toOption (by decide +kernel)
  have hsettings : settingsOf anyRun brokenTemplates { checkRequest with level := some "debug" } =
      .ok { brokenSettings with level := "debug" } := by
    have hload' : Settings.load anyRun.reader brokenTemplates
        (checkRequest.config.map Path.ofText) = .ok brokenSettings := hload
    rw [settingsOf, hload']
    exact eq_ok_of_toOption (by decide)
  have hmem : .configure "debug" "json" ∈ (run anyRun debugArgs brokenTemplates).entries :=
    configure_mem_run_iff.2 ⟨_, _, hrequest, hsettings, rfl, rfl⟩
  obtain ⟨husable, hruns⟩ := loaded_settings_usable brokenTemplates
  obtain ⟨htemplates, hrelogs⟩ := husable {} none brokenSettings hload
  exact ⟨hload, htemplates _ rfl, hlevel, hformat, hrelogs _ _ hlevel hformat, hmem,
    ((hruns anyRun debugArgs "debug" "json").2 hmem).1⟩

end Transducer.CommandLine
