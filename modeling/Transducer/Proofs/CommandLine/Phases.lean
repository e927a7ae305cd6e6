import Transducer.Proofs.CommandLine.Effect

/-!
# The phases of a run

The work of a run is a row of phases, each of which may fail. Every phase is looked at on its own
(`Phase.failure?`): it takes what the phases before it deliver, and does not ask whether a phase
that delivers nothing to it would fail. A run ends with the first of its phases that fails
(`run_endsWith`). Only the files of a build change the disk, and what a run prints comes last.
-/

namespace Transducer

/-- The exit code of a run that stops. -/
def Halt.code : Halt → Nat
  | .report r => r.code
  | .defect _ => 1

/-- What the user is told by a run that stops. -/
def Halt.notice : Halt → Text
  | .report r => "Error: " ++ r.text ++ "\n"
  | .defect _ => []

namespace CommandLine

open Log
open Outcome (error?)

/-- A phase of a run. -/
inductive Phase where
  /-- The settings are found and checked. -/
  | settings
  /-- The file with the machine is read and parsed. -/
  | machine
  /-- The machine is checked. -/
  | rules
  /-- The templates are read. -/
  | templates
  /-- The code is generated. -/
  | code
  /-- The files are written. -/
  | files
  /-- The output takes what is printed. -/
  | output
  deriving DecidableEq, Repr

/-- The phases that both commands start with. -/
def commonPhases : List Phase := [.settings, .machine, .rules]

/-- The phases that only a build goes through, with its output. -/
def buildPhases : List Phase := [.templates, .code, .files, .output]

/-- The phases of a command after those that both have in common. -/
def ownPhases : Command → List Phase
  | .check => [.output]
  | .build => buildPhases

/-- The phases of a command, in their order. -/
def phases (command : Command) : List Phase := commonPhases ++ ownPhases command

/-- The arguments are in order, and this is what they ask for. -/
structure Accepts (d : Disk) (args : List Text) (request : Request) (task : Task) : Prop where
  readsRequest : readRequest d args = .ok request
  readsTask : readTask d request.command request.args = .ok task

/-- The settings that a request leads to. -/
def settingsOf (c : Circumstances) (d : Disk) (request : Request) : Except Halt Settings :=
  (Settings.load c.reader d (request.config.map Path.ofText)).map fun loaded =>
    loaded.withLogging (request.level.map Text.ofString) (request.format.map Text.ofString)

/-- A request leads to settings that were loaded, and changes how they log. -/
theorem exists_of_settingsOf {c : Circumstances} {d : Disk} {request : Request}
    {settings : Settings} (h : settingsOf c d request = .ok settings) :
    ∃ loaded, Settings.load c.reader d (request.config.map Path.ofText) = .ok loaded ∧
      settings = loaded.withLogging (request.level.map Text.ofString)
        (request.format.map Text.ofString) := by
  unfold settingsOf at h
  cases hload : Settings.load c.reader d (request.config.map Path.ofText) with
  | error halt =>
    rw [hload] at h
    cases h
  | ok loaded =>
    rw [hload] at h
    exact ⟨loaded, rfl, (Except.ok.inj h).symm⟩

/-- What a check prints about a machine that passes. -/
def verdict (path : Path) (kind : String) (states transitions : Nat) : Text :=
  path.text ++ s!" is a valid {kind} machine " ++
    s!"({states} states, {transitions} transitions).\n"

/-- What a check prints about a machine, by its parts. -/
def verdictOn (path : Path) (machine : Machine) : Text :=
  verdict path machine.kind machine.signature.states.length machine.transitionCount

section Failures

variable (c : Circumstances) (d : Disk) (request : Request) (task : Task)

/-- What a run prints when its work is done. -/
def conclusion? : Option Text :=
  match request.command with
  | .check => (Machine.ofFile c.room d task.yamlFile).outcome.toOption.map (verdictOn task.yamlFile)
  | .build => (settingsOf c d request).toOption.map (announcement · task)

/-- How a phase fails, if it does. -/
def Phase.failure? : Phase → Option Halt
  | .settings => error? (settingsOf c d request)
  | .machine => error? (Machine.ofFile c.room d task.yamlFile).outcome
  | .rules => do
    let machine ← (Machine.ofFile c.room d task.yamlFile).outcome.toOption
    (error? (Check.all machine.signature).outcome).map Halt.report
  | .templates => do
    let settings ← (settingsOf c d request).toOption
    error? (templatesOf d settings).outcome
  | .code => do
    let settings ← (settingsOf c d request).toOption
    let machine ← (Machine.ofFile c.room d task.yamlFile).outcome.toOption
    let templates ← (templatesOf d settings).outcome.toOption
    (error? (Code.ofMachine templates task.name machine).outcome).map Halt.report
  | .files => do
    let settings ← (settingsOf c d request).toOption
    let machine ← (Machine.ofFile c.room d task.yamlFile).outcome.toOption
    let templates ← (templatesOf d settings).outcome.toOption
    let code ← (Code.ofMachine templates task.name machine).outcome.toOption
    if task.dryRun then none
    else error? ((bundleOf settings task code).write c.missing c.tag d).value.1
  | .output => do
    let text ← conclusion? c d request task
    if c.prints text then none else some (.defect .unprintable)

/-- The first of some phases that fails, and how. -/
def firstOf : List Phase → Option (Phase × Halt)
  | [] => none
  | phase :: rest =>
    match phase.failure? c d request task with
    | some halt => some (phase, halt)
    | none => firstOf rest

/-- The first phase of a run that fails, and how. -/
def firstFailure : Option (Phase × Halt) := firstOf c d request task (phases request.command)

end Failures

variable {c : Circumstances} {d : Disk} {args : List Text} {request : Request} {task : Task}
  {settings : Settings}

/-- A phase that fails is the first one, if those before it do not fail. -/
theorem firstOf_of_failure {phase : Phase} {rest : List Phase} {halt : Halt}
    (h : phase.failure? c d request task = some halt) :
    firstOf c d request task (phase :: rest) = some (phase, halt) := by
  rw [firstOf, h]

/-- A phase that does not fail is passed over. -/
theorem firstOf_of_pass {phase : Phase} {rest : List Phase}
    (h : phase.failure? c d request task = none) :
    firstOf c d request task (phase :: rest) = firstOf c d request task rest := by
  rw [firstOf, h]

/-- The first phase that fails is one of the phases, and fails so. -/
theorem mem_of_firstOf {l : List Phase} {phase : Phase} {halt : Halt}
    (h : firstOf c d request task l = some (phase, halt)) :
    phase ∈ l ∧ phase.failure? c d request task = some halt := by
  induction l with
  | nil => cases h
  | cons first rest ih =>
    cases hfirst : first.failure? c d request task with
    | some halt' =>
      rw [firstOf_of_failure hfirst] at h
      obtain ⟨rfl, rfl⟩ := Prod.mk.inj (Option.some.inj h)
      exact ⟨List.mem_cons_self, hfirst⟩
    | none =>
      rw [firstOf_of_pass hfirst] at h
      exact ⟨List.mem_cons_of_mem _ (ih h).1, (ih h).2⟩

/-- The first phase of two rows that fails is that of the first row, if it has one. -/
theorem firstOf_append (l l' : List Phase) :
    firstOf c d request task (l ++ l') =
      (firstOf c d request task l).or (firstOf c d request task l') := by
  induction l with
  | nil => rfl
  | cons first rest ih =>
    rw [List.cons_append]
    cases hfirst : first.failure? c d request task with
    | some halt => rw [firstOf_of_failure hfirst, firstOf_of_failure hfirst, Option.some_or]
    | none => rw [firstOf_of_pass hfirst, firstOf_of_pass hfirst, ih]

/-- No phase of a row is the first that fails if none fails. -/
theorem firstOf_eq_none_iff {l : List Phase} :
    firstOf c d request task l = none ↔ ∀ phase ∈ l, phase.failure? c d request task = none := by
  induction l with
  | nil => exact ⟨fun _ phase hphase => (nomatch hphase), fun _ => rfl⟩
  | cons first rest ih =>
    rw [List.forall_mem_cons, ← ih]
    cases hfirst : first.failure? c d request task with
    | some halt => simp [firstOf_of_failure hfirst]
    | none => simp [firstOf_of_pass hfirst]

/-- A row of phases that fail in the same way has the same first one. -/
theorem firstOf_congr {c' : Circumstances} {request' : Request} {task' : Task} {l : List Phase}
    (h : ∀ phase ∈ l, phase.failure? c' d request' task' = phase.failure? c d request task) :
    firstOf c' d request' task' l = firstOf c d request task l := by
  induction l with
  | nil => rfl
  | cons first rest ih =>
    obtain ⟨hfirst, hrest⟩ := List.forall_mem_cons.1 h
    rw [firstOf, firstOf, hfirst, ih hrest]

/-! ## The end of a run -/

/-- What is left of a run on a disk, by the first phase that fails. Up to the files of a build, the
disk is as it was. -/
inductive EndsWith (d : Disk) : Option (Phase × Halt) → Ending → Prop where
  | done (text : Text) (after : Disk) : EndsWith d none { code := 0, stdout := text, disk := after }
  | failed {phase : Phase} (halt : Halt) (after : Disk)
    (hdisk : phase ≠ .files → phase ≠ .output → after = d) :
    EndsWith d (some (phase, halt)) { code := halt.code, stderr := halt.notice, disk := after }

/-- What a run that stops leaves behind, by its parts. -/
theorem value_halted (d : Disk) (halt : Halt) :
    (halted d halt).value = { code := halt.code, stderr := halt.notice, disk := d } := by
  cases halt with
  | report r => rfl
  | defect e => rfl

/-- A run that stops does not succeed. -/
theorem code_ne_zero (halt : Halt) : halt.code ≠ 0 := by
  have h := code_halted_ne_zero ⟨[], []⟩ halt
  rw [value_halted] at h
  exact h

/-- A run that stops before it writes ends with the phase that fails. -/
theorem endsWith_halted {phase : Phase} {halt : Halt} (rest : List Phase)
    (h : phase.failure? c d request task = some halt) :
    EndsWith d (firstOf c d request task (phase :: rest)) (halted d halt).value := by
  rw [firstOf_of_failure h, value_halted]
  exact .failed halt d fun _ _ => rfl

/-- How the output of a run fails whose conclusion is known. -/
theorem firstOf_output {text : Text} (h : conclusion? c d request task = some text) :
    firstOf c d request task [.output] =
      if c.prints text then none else some (.output, .defect .unprintable) := by
  have hfailure : Phase.failure? c d request task .output =
      if c.prints text then none else some (.defect .unprintable) := by
    simp only [Phase.failure?, h, Option.bind_eq_bind, Option.bind_some]
  split
  · rename_i hprints
    exact firstOf_of_pass (hfailure.trans (if_pos hprints))
  · rename_i hprints
    exact firstOf_of_failure (hfailure.trans (if_neg hprints))

/-- A run whose work is done ends with its output, which may fail. -/
theorem endsWith_printed {text : Text} (h : conclusion? c d request task = some text)
    (after : Disk) :
    EndsWith d (firstOf c d request task [.output]) (printed c after text).value := by
  rw [firstOf_output h, value_printed]
  split
  · exact .done text after
  · exact .failed (.defect .unprintable) after fun _ hphase => absurd rfl hphase

/-- A build that is done prints its announcement. -/
theorem conclusion?_build (hcommand : request.command = .build)
    (hsettings : settingsOf c d request = .ok settings) :
    conclusion? c d request task = some (announcement settings task) := by
  simp [conclusion?, hcommand, hsettings, Except.toOption]

/-- A run with arguments in order ends like its command, if it has settings. -/
theorem value_run_of_accepts (h : Accepts d args request task) (c : Circumstances) :
    (run c args d).value =
      match settingsOf c d request with
      | .error halt => (halted d halt).value
      | .ok settings => concluded c (perform c settings request.command task d).value := by
  unfold run settingsOf
  rw [h.readsRequest]
  dsimp only
  cases Settings.load c.reader d (request.config.map Path.ofText) with
  | error halt => rfl
  | ok loaded =>
    dsimp only [Except.map]
    rw [h.readsTask]
    generalize loaded.withLogging _ _ = settings
    rw [Logged.value_bind, Logged.value_bind]
    dsimp only
    rw [Logged.value_bind]
    rcases (perform c settings request.command task d).value with ⟨halt | text, after⟩
    · rfl
    · rfl

/-- The outcome of reading and checking a machine. -/
theorem outcome_parseAndCheck (room : Yaml.Room) (d : Disk) (path : Path) :
    (parseAndCheck room d path).outcome =
      (Machine.ofFile room d path).outcome.bind fun machine =>
        ((Check.all machine.signature).outcome.mapError Halt.report).map fun _ => machine := by
  unfold parseAndCheck
  simp only [Stage.outcome_bind, Stage.outcome_adapt, Stage.outcome_tell, Stage.outcome_pure]
  rfl

/-- The outcome of everything of a build but the writing. -/
theorem outcome_prepare (room : Yaml.Room) (d : Disk) (settings : Settings) (task : Task) :
    (prepare room d settings task).outcome =
      (parseAndCheck room d task.yamlFile).outcome.bind fun machine =>
        (templatesOf d settings).outcome.bind fun templates =>
          ((Code.ofMachine templates task.name machine).outcome.mapError Halt.report).map
            (bundleOf settings task) := by
  have hgenerate (templates : Templates) (machine : Machine) :
      (Code.generate templates task.name machine ⟨outputDirectory settings task, []⟩).outcome =
        (Code.ofMachine templates task.name machine).outcome.map (bundleOf settings task) :=
    Code.outcome_generate_eq_map ..
  unfold prepare
  simp only [Stage.outcome_bind, Stage.outcome_adapt, Stage.outcome_tell, hgenerate]
  refine congrArg _ (funext fun machine => ?_)
  change (templatesOf d settings).outcome.bind _ = _
  refine congrArg _ (funext fun templates => ?_)
  cases (Code.ofMachine templates task.name machine).outcome with
  | error r => rfl
  | ok code => rfl

/-- A check is about its machine only, and keeps the disk. -/
theorem value_perform_check (c : Circumstances) (settings : Settings) (task : Task) (d : Disk) :
    (perform c settings .check task d).value =
      ((parseAndCheck c.room d task.yamlFile).outcome.map (verdictOn task.yamlFile), d) := by
  have hcheck : (check c.room task d).outcome =
      (parseAndCheck c.room d task.yamlFile).outcome.map (verdictOn task.yamlFile) := by
    unfold check
    simp only [Stage.outcome_bind, Stage.outcome_event, Stage.outcome_pure]
    rfl
  rw [← hcheck]
  rfl

/-- A command stops if its machine cannot be read or does not pass its check. -/
theorem value_perform_of_error {halt : Halt}
    (h : (parseAndCheck c.room d task.yamlFile).outcome = .error halt) (command : Command) :
    (perform c settings command task d).value = (.error halt, d) := by
  cases command with
  | build =>
    change (build c settings task d).value = _
    rw [value_build, outcome_prepare, h]
    rfl
  | check =>
    rw [value_perform_check, h]
    rfl

/-- A build with code ends with its files or with its output. -/
theorem endsWith_files {machine : Machine} {templates : Templates} {code : Code.Generated}
    (hcommand : request.command = .build) (hp : (outputDirectory settings task).Proper)
    (hsettings : settingsOf c d request = .ok settings)
    (hmachine : (Machine.ofFile c.room d task.yamlFile).outcome = .ok machine)
    (htemplates : (templatesOf d settings).outcome = .ok templates)
    (hcode : (Code.ofMachine templates task.name machine).outcome = .ok code)
    (hprepare : (prepare c.room d settings task).outcome = .ok (bundleOf settings task code)) :
    EndsWith d (firstOf c d request task [.files, .output])
      (concluded c (build c settings task d).value) := by
  have hfiles : Phase.failure? c d request task .files = if task.dryRun then none else
      error? ((bundleOf settings task code).write c.missing c.tag d).value.1 := by
    simp [Phase.failure?, hsettings, hmachine, htemplates, hcode, Except.toOption]
  rcases hbuild : (build c settings task d).value with ⟨halt | text, after⟩
  · -- Only a build that is not dry can fail here, and only at its files.
    rw [value_build, hprepare] at hbuild
    dsimp only at hbuild
    cases hdry : task.dryRun with
    | true =>
      rw [if_pos hdry] at hbuild
      cases hbuild
    | false =>
      rw [hdry, if_neg Bool.false_ne_true] at hbuild hfiles
      rcases hwrite : ((bundleOf settings task code).write c.missing c.tag d).value with
        ⟨halt' | message, after'⟩
      · rw [hwrite] at hbuild hfiles
        obtain ⟨hhalt, rfl⟩ := Prod.mk.inj hbuild
        obtain rfl := Except.error.inj hhalt
        rw [firstOf_of_failure hfiles]
        dsimp only [concluded]
        rw [value_halted]
        exact .failed halt' _ fun hphase => absurd rfl hphase
      · rw [hwrite] at hbuild
        cases hbuild
  · obtain ⟨rfl, code', -, hprepare', hend⟩ := build_eq_ok hp hbuild
    have hpass : Phase.failure? c d request task .files = none := by
      rw [hfiles]
      split
      · rfl
      · rename_i hdry
        rw [if_neg hdry, ← Except.ok.inj (hprepare.symm.trans hprepare')] at hend
        obtain ⟨message, hwrite⟩ := hend
        rw [hwrite]
        rfl
    rw [firstOf_of_pass hpass]
    exact endsWith_printed (conclusion?_build hcommand hsettings) after

/-- A build with settings and a machine that passes its check ends with the first of the other
phases that fails. -/
theorem endsWith_build {machine : Machine} (hcommand : request.command = .build)
    (hp : (outputDirectory settings task).Proper)
    (hsettings : settingsOf c d request = .ok settings)
    (hmachine : (Machine.ofFile c.room d task.yamlFile).outcome = .ok machine)
    (hparse : (parseAndCheck c.room d task.yamlFile).outcome = .ok machine) :
    EndsWith d (firstOf c d request task buildPhases)
      (concluded c (build c settings task d).value) := by
  have hprepare := outcome_prepare c.room d settings task
  rw [hparse] at hprepare
  dsimp only [Except.bind] at hprepare
  have hbuild (halt : Halt) (h : (prepare c.room d settings task).outcome = .error halt) :
      concluded c (build c settings task d).value = (halted d halt).value := by
    rw [value_build, h]
    rfl
  unfold buildPhases
  -- Each phase is looked at once the one before it has delivered what it needs.
  cases htemplates : (templatesOf d settings).outcome with
  | error halt =>
    have hfails : Phase.failure? c d request task .templates = some halt := by
      simp [Phase.failure?, hsettings, htemplates, Except.toOption]
    rw [htemplates] at hprepare
    rw [hbuild halt hprepare]
    exact endsWith_halted _ hfails
  | ok templates =>
    have hpass : Phase.failure? c d request task .templates = none := by
      simp [Phase.failure?, hsettings, htemplates, Except.toOption, error?]
    rw [firstOf_of_pass hpass]
    rw [htemplates] at hprepare
    dsimp only at hprepare
    cases hcode : (Code.ofMachine templates task.name machine).outcome with
    | error r =>
      have hfails : Phase.failure? c d request task .code = some (.report r) := by
        simp [Phase.failure?, hsettings, hmachine, htemplates, hcode, Except.toOption]
      rw [hcode] at hprepare
      rw [hbuild (.report r) hprepare]
      exact endsWith_halted _ hfails
    | ok code =>
      have hpass : Phase.failure? c d request task .code = none := by
        simp [Phase.failure?, hsettings, hmachine, htemplates, hcode, Except.toOption, error?]
      rw [hcode] at hprepare
      rw [firstOf_of_pass hpass]
      exact endsWith_files hcommand hp hsettings hmachine htemplates hcode hprepare

/-- Arguments in order ask for a build, if that is their command and there are settings. -/
theorem Accepts.asks (h : Accepts d args request task) (hcommand : request.command = .build)
    (hsettings : settingsOf c d request = .ok settings) : Asks c d args settings task := by
  obtain ⟨loaded, hload, rfl⟩ := exists_of_settingsOf hsettings
  have htask := h.readsTask
  rw [hcommand] at htask
  exact ⟨request, loaded, h.readsRequest, hcommand, hload, rfl, htask⟩

/-- A command with settings and a machine that passes its check ends with the first of its own
phases that fails. -/
theorem endsWith_command (h : Accepts d args request task)
    (hsettings : settingsOf c d request = .ok settings) {machine : Machine}
    (hmachine : (Machine.ofFile c.room d task.yamlFile).outcome = .ok machine)
    (hparse : (parseAndCheck c.room d task.yamlFile).outcome = .ok machine) :
    EndsWith d (firstOf c d request task (ownPhases request.command))
      (concluded c (perform c settings request.command task d).value) := by
  cases hcommand : request.command with
  | build =>
    have hp := outputDirectory_proper (h.asks hcommand hsettings)
    exact endsWith_build hcommand hp hsettings hmachine hparse
  | check =>
    rw [value_perform_check, hparse]
    exact endsWith_printed (by simp [conclusion?, hcommand, hmachine, Except.toOption]) d

/-- A command with settings ends with the first of the other phases that fails. -/
theorem endsWith_perform (h : Accepts d args request task)
    (hsettings : settingsOf c d request = .ok settings) :
    EndsWith d (firstOf c d request task (.machine :: .rules :: ownPhases request.command))
      (concluded c (perform c settings request.command task d).value) := by
  -- What both commands do next fails if the machine is not read, and then if it breaks a rule.
  have hparse := outcome_parseAndCheck c.room d task.yamlFile
  cases hmachine : (Machine.ofFile c.room d task.yamlFile).outcome with
  | error halt =>
    rw [hmachine] at hparse
    have hfails : Phase.failure? c d request task .machine = some halt := by
      simp [Phase.failure?, hmachine]
    rw [value_perform_of_error hparse]
    exact endsWith_halted _ hfails
  | ok machine =>
    have hpass : Phase.failure? c d request task .machine = none := by
      simp [Phase.failure?, hmachine, error?]
    rw [firstOf_of_pass hpass]
    rw [hmachine] at hparse
    dsimp only [Except.bind] at hparse
    cases hcheck : (Check.all machine.signature).outcome with
    | error r =>
      rw [hcheck] at hparse
      have hfails : Phase.failure? c d request task .rules = some (.report r) := by
        simp [Phase.failure?, hmachine, hcheck, Except.toOption]
      rw [value_perform_of_error hparse]
      exact endsWith_halted _ hfails
    | ok u =>
      rw [hcheck] at hparse
      have hpass : Phase.failure? c d request task .rules = none := by
        simp [Phase.failure?, hmachine, hcheck, Except.toOption, error?]
      rw [firstOf_of_pass hpass]
      exact endsWith_command h hsettings hmachine hparse

/-- A run with arguments in order ends with the first of its phases that fails. -/
theorem run_endsWith (h : Accepts d args request task) (c : Circumstances) :
    EndsWith d (firstFailure c d request task) (run c args d).value := by
  rw [value_run_of_accepts h, firstFailure, phases, commonPhases]
  cases hsettings : settingsOf c d request with
  | error halt =>
    have hfails : Phase.failure? c d request task .settings = some halt := by
      simp [Phase.failure?, hsettings]
    exact endsWith_halted _ hfails
  | ok settings =>
    have hpass : Phase.failure? c d request task .settings = none := by
      simp [Phase.failure?, hsettings, error?]
    rw [List.cons_append, firstOf_of_pass hpass]
    exact endsWith_perform h hsettings

/-- The exit code of a run is that of the first phase that fails. -/
theorem EndsWith.code_eq {first : Option (Phase × Halt)} {ending : Ending}
    (h : EndsWith d first ending) : ending.code = first.elim 0 fun failure => failure.2.code := by
  cases h with
  | done text after => rfl
  | failed halt after hdisk => rfl

/-- A run succeeds if no phase fails. -/
theorem EndsWith.code_eq_zero_iff {first : Option (Phase × Halt)} {ending : Ending}
    (h : EndsWith d first ending) : ending.code = 0 ↔ first = none := by
  rw [h.code_eq]
  cases first with
  | none => exact ⟨fun _ => rfl, fun _ => rfl⟩
  | some failure =>
    exact ⟨fun hcode => absurd hcode (code_ne_zero failure.2), fun hnone => (nomatch hnone)⟩

/-- A run that fails before it writes has nothing but its notice to leave. -/
theorem EndsWith.eq_of_failure {phase : Phase} {halt : Halt} {ending : Ending}
    (h : EndsWith d (some (phase, halt)) ending) (hfiles : phase ≠ .files)
    (houtput : phase ≠ .output) :
    ending = { code := halt.code, stderr := halt.notice, disk := d } := by
  cases h with
  | failed halt after hdisk => rw [hdisk hfiles houtput]

end CommandLine

end Transducer
