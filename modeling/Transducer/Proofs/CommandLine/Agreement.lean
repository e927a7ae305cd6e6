import Transducer.Proofs.CommandLine.Templates

/-!
# Checks and builds agree

A check goes through the first phases of a build from the same file with the same settings. So a
build fails in the same way if the check does, and after a check that passes it is known how the
build can still fail (`build_agrees_with_check`). What is printed comes after the phases that both
have in common: the output may refuse it to one of the runs only (`build_escapes`).
-/

namespace Transducer.CommandLine

open Log
open Outcome (error? error?_eq_none_iff eq_ok_of_toOption)

variable {c c' : Circumstances} {d : Disk} {args args' : List Text} {request request' : Request}
  {task task' : Task} {settings : Settings}

/-! ## The phases of a check -/

/-- Two runs read alike what a request and a task name: the settings and the machine. They do so if
they have the same reader and the same room; but the order in which a set is written may differ from
run to run, and with it a path in the settings. -/
structure ReadAlike (c c' : Circumstances) (d : Disk) (request : Request) (task : Task) :
    Prop where
  settings : Settings.load c'.reader d (request.config.map Path.ofText) =
    Settings.load c.reader d (request.config.map Path.ofText)
  machine : (Machine.ofFile c'.room d task.yamlFile).outcome =
    (Machine.ofFile c.room d task.yamlFile).outcome

/-- Runs with the same settings and the same file fail in the same way up to the check. -/
theorem failure?_congr (hconfig : request'.config = request.config)
    (hfile : task'.yamlFile = task.yamlFile)
    (halike : ReadAlike c c' d request' task') :
    ∀ phase ∈ commonPhases,
      phase.failure? c' d request' task' = phase.failure? c d request task := by
  have herror {ε α β : Type} (x : Except ε α) (f : α → β) : error? (x.map f) = error? x := by
    cases x with
    | error e => rfl
    | ok a => rfl
  intro phase hphase
  simp only [commonPhases, List.mem_cons, List.not_mem_nil, or_false] at hphase
  rcases hphase with rfl | rfl | rfl
  · simp only [Phase.failure?, settingsOf, halike.settings, ← hconfig, herror]
  · simp only [Phase.failure?, halike.machine, ← hfile]
  · simp only [Phase.failure?, halike.machine, ← hfile]

/-- After the common phases there are settings and a machine that passes. -/
theorem exists_of_firstOf_common (h : firstOf c d request task commonPhases = none) :
    ∃ settings machine, settingsOf c d request = .ok settings ∧
      (Machine.ofFile c.room d task.yamlFile).outcome = .ok machine ∧
      (Check.all machine.signature).outcome = .ok () := by
  have hpass := firstOf_eq_none_iff.1 h
  obtain ⟨settings, hsettings⟩ := error?_eq_none_iff.1 (hpass .settings (by decide))
  obtain ⟨machine, hmachine⟩ := error?_eq_none_iff.1 (hpass .machine (by decide))
  have hrules := hpass .rules (by decide)
  simp only [Phase.failure?, hmachine, Except.toOption, Option.bind_eq_bind, Option.bind_some,
    Option.map_eq_none_iff] at hrules
  obtain ⟨⟨⟩, hcheck⟩ := error?_eq_none_iff.1 hrules
  exact ⟨settings, machine, hsettings, hmachine, hcheck⟩

/-- A common phase comes before the files and the output. -/
theorem ne_of_firstOf_common {phase : Phase} {halt : Halt}
    (h : firstOf c d request task commonPhases = some (phase, halt)) :
    phase ≠ .files ∧ phase ≠ .output := by
  have hmem := (mem_of_firstOf h).1
  constructor
  · rintro rfl
    exact absurd hmem (by decide)
  · rintro rfl
    exact absurd hmem (by decide)

/-- The text says that a file holds a machine of a kind that passes its check. -/
def Reports (path : Path) (kind : String) (text : Text) : Prop :=
  ∃ states transitions, text = verdict path kind states transitions

/-- A check whose machine passes prints of which kind it is, unless the output does not take it. -/
theorem value_check {machine : Machine} (h : Accepts d args request task)
    (hcommand : request.command = .check) (hsettings : settingsOf c d request = .ok settings)
    (hmachine : (Machine.ofFile c.room d task.yamlFile).outcome = .ok machine)
    (hrules : (Check.all machine.signature).outcome = .ok ()) :
    (run c args d).value = (printed c d (verdictOn task.yamlFile machine)).value := by
  rw [value_run_of_accepts h, hsettings, hcommand]
  dsimp only
  rw [value_perform_check, outcome_parseAndCheck, hmachine]
  dsimp only [Except.bind]
  rw [hrules]
  rfl

/-- A text tells machines of the two kinds apart. -/
theorem not_reports_both {path : Path} {text : Text} (hmoore : Reports path "moore" text) :
    ¬ Reports path "mealy" text := by
  rintro ⟨states, transitions, hmealy⟩
  obtain ⟨states', transitions', rfl⟩ := hmoore
  unfold verdict at hmealy
  rw [List.append_assoc, List.append_assoc] at hmealy
  have hrest := List.append_cancel_left hmealy
  have hstart := congrArg (List.take 14) hrest
  rw [List.take_append_of_le_length (by decide), List.take_append_of_le_length (by decide)]
    at hstart
  exact absurd hstart (by decide)

/-! ## The other phases of a build -/

/-- Templates that cannot be read end a build; otherwise they are there. -/
theorem firstOf_templates (hsettings : settingsOf c d request = .ok settings) (rest : List Phase) :
    (Unreadable d settings ∧ ∃ halt,
      firstOf c d request task (.templates :: rest) = some (.templates, halt) ∧ halt.code = 31) ∨
    ¬ Unreadable d settings ∧ ∃ templates, (templatesOf d settings).outcome = .ok templates ∧
      (¬ templates.Known ↔ HasUnknownToken d settings) ∧
      firstOf c d request task (.templates :: rest) = firstOf c d request task rest := by
  obtain ⟨hnone, title, message, herror⟩ | ⟨hsome, templates, hok, hknown⟩ :=
    templatesOf_verdict hsettings
  · refine .inl ⟨hnone, .report (.template title message), firstOf_of_failure ?_, rfl⟩
    simp [Phase.failure?, hsettings, herror, Except.toOption]
  · refine .inr ⟨hsome, templates, hok, hknown, firstOf_of_pass ?_⟩
    simp [Phase.failure?, hsettings, hok, Except.toOption, error?]

/-- No code is generated for a Mealy machine. -/
theorem firstOf_code_mealy {m : Mealy} {templates : Templates}
    (hsettings : settingsOf c d request = .ok settings)
    (hmachine : (Machine.ofFile c.room d task.yamlFile).outcome = .ok (.mealy m))
    (htemplates : (templatesOf d settings).outcome = .ok templates) (rest : List Phase) :
    ∃ halt, firstOf c d request task (.code :: rest) = some (.code, halt) ∧ halt.code = 30 := by
  have hcode : ∃ r : Report, r.code = 30 ∧
      (Code.ofMachine templates task.name (.mealy m)).outcome = .error r := ⟨_, rfl, rfl⟩
  obtain ⟨r, hr, hcode⟩ := hcode
  refine ⟨.report r, firstOf_of_failure ?_, hr⟩
  simp [Phase.failure?, hsettings, hmachine, htemplates, hcode, Except.toOption]

/-- A dry build of a Moore machine gets from its templates to its output, unless a token has no
value. -/
theorem firstOf_code_moore {m : Moore} {templates : Templates}
    (hsettings : settingsOf c d request = .ok settings)
    (hmachine : (Machine.ofFile c.room d task.yamlFile).outcome = .ok (.moore m))
    (htemplates : (templatesOf d settings).outcome = .ok templates) (hdry : task.dryRun = true) :
    (templates.Known ∧ firstOf c d request task [.code, .files, .output] =
      firstOf c d request task [.output]) ∨
      ¬ templates.Known ∧ ∃ halt,
        firstOf c d request task [.code, .files, .output] = some (.code, halt) ∧
          halt.code = 31 := by
  obtain ⟨hknown, code, hok⟩ | ⟨hnot, title, message, tokens, herror⟩ :=
    Code.ofMoore_verdict templates task.name m
  · have hcode : (Code.ofMachine templates task.name (.moore m)).outcome = .ok code := hok
    have hpass : Phase.failure? c d request task .code = none := by
      simp [Phase.failure?, hsettings, hmachine, htemplates, hcode, Except.toOption, error?]
    have hfiles : Phase.failure? c d request task .files = none := by
      simp [Phase.failure?, hsettings, hmachine, hdry, Except.toOption]
    exact .inl ⟨hknown, (firstOf_of_pass hpass).trans (firstOf_of_pass hfiles)⟩
  · have hcode : (Code.ofMachine templates task.name (.moore m)).outcome =
        .error (.template title message tokens) := herror
    refine .inr ⟨hnot, .report (.template title message tokens), firstOf_of_failure ?_, rfl⟩
    simp [Phase.failure?, hsettings, hmachine, htemplates, hcode, Except.toOption]

/-- A build of a Mealy machine that passes its check fails, at its templates or at its code. -/
theorem code_of_mealy {m : Mealy} {built : Ending}
    (hsettings : settingsOf c d request = .ok settings)
    (hmachine : (Machine.ofFile c.room d task.yamlFile).outcome = .ok (.mealy m))
    (h : EndsWith d (firstOf c d request task buildPhases) built) :
    (built.code = 30 ∨ built.code = 31) ∧ (built.code = 31 ↔ Unreadable d settings) := by
  have hcode := h.code_eq
  unfold buildPhases at hcode
  obtain ⟨hnone, halt, hfirst, hhalt⟩ | ⟨hsome, templates, htemplates, -, hrest⟩ :=
    firstOf_templates hsettings [.code, .files, .output]
  · have hbuilt : built.code = 31 := by rw [hcode, hfirst, Option.elim_some, hhalt]
    exact ⟨.inr hbuilt, fun _ => hnone, fun _ => hbuilt⟩
  · obtain ⟨halt, hfirst, hhalt⟩ :=
      firstOf_code_mealy hsettings hmachine htemplates [.files, .output]
    have hbuilt : built.code = 30 := by rw [hcode, hrest, hfirst, Option.elim_some, hhalt]
    exact ⟨.inl hbuilt, fun h31 => absurd (hbuilt.symm.trans h31) (by decide), fun hnone =>
      absurd hnone hsome⟩

/-- How a dry build of a Moore machine ends that passes its check: it fails at its templates, or at
its output. -/
structure DryCode (c : Circumstances) (d : Disk) (settings : Settings) (task : Task) (code : Nat) :
    Prop where
  cases : code = 0 ∨ code = 31 ∨ code = 1
  templates : code = 31 ↔ Unreadable d settings ∨ HasUnknownToken d settings
  output : code = 1 ↔ ¬ (Unreadable d settings ∨ HasUnknownToken d settings) ∧
    c.prints ("Would write " ++ headerName task ++ ", " ++ sourceName task ++ " to " ++
      (outputDirectory settings task).text ++ ".\n") = false

/-- Bad templates end a dry build. -/
theorem dryCode_of_bad (h : Unreadable d settings ∨ HasUnknownToken d settings) {code : Nat}
    (hcode : code = 31) : DryCode c d settings task code := by
  subst hcode
  exact ⟨.inr (.inl rfl), ⟨fun _ => h, fun _ => rfl⟩, ⟨fun hone => (by cases hone),
    fun hgood => absurd h hgood.1⟩⟩

/-- A dry build of a Moore machine that passes its check fails at its templates or at its output. -/
theorem dryCode_of_moore {m : Moore} {built : Ending} (hcommand : request.command = .build)
    (hsettings : settingsOf c d request = .ok settings)
    (hmachine : (Machine.ofFile c.room d task.yamlFile).outcome = .ok (.moore m))
    (hdry : task.dryRun = true) (h : EndsWith d (firstOf c d request task buildPhases) built) :
    DryCode c d settings task built.code := by
  have hcode := h.code_eq
  unfold buildPhases at hcode
  obtain ⟨hnone, halt, hfirst, hhalt⟩ | ⟨hsome, templates, htemplates, htokens, hrest⟩ :=
    firstOf_templates hsettings [.code, .files, .output]
  · exact dryCode_of_bad (.inl hnone) (by rw [hcode, hfirst, Option.elim_some, hhalt])
  · obtain ⟨hknown, hfirst⟩ | ⟨hunknown, halt, hfirst, hhalt⟩ :=
      firstOf_code_moore hsettings hmachine htemplates hdry
    · -- With good templates, what is left is the output.
      have hgood : ¬ (Unreadable d settings ∨ HasUnknownToken d settings) := by
        rintro (hnone | htoken)
        · exact hsome hnone
        · exact htokens.2 htoken hknown
      rw [hrest, hfirst, firstOf_output (conclusion?_build hcommand hsettings), announcement,
        if_pos hdry] at hcode
      split at hcode
      · rename_i hprints
        rw [hcode]
        exact ⟨.inl rfl, ⟨fun hbad => (by cases hbad), fun hbad => absurd hbad hgood⟩,
          ⟨fun hone => (by cases hone),
            fun hfalse => absurd (hprints.symm.trans hfalse.2) (by decide)⟩⟩
      · rename_i hprints
        rw [hcode]
        exact ⟨.inr (.inr rfl), ⟨fun hbad => (by cases hbad), fun hbad => absurd hbad hgood⟩,
          ⟨fun _ => ⟨hgood, by simpa using hprints⟩, fun _ => rfl⟩⟩
    · exact dryCode_of_bad (.inr (htokens.1 hunknown))
        (by rw [hcode, hrest, hfirst, Option.elim_some, hhalt])

/-! ## Agreement -/

/-- A build fails in the same way as the check of its file and changes nothing; unless the machine
passes the check, but the output does not take that. -/
def FailsLike (c : Circumstances) (d : Disk) (task : Task) (checked built : Ending) : Prop :=
  built.code = checked.code ∧ built.stderr = checked.stderr ∧ built.disk = d ∨
    checked.code = 1 ∧ ∃ machine, (Machine.ofFile c.room d task.yamlFile).outcome = .ok machine ∧
      (Check.all machine.signature).outcome = .ok () ∧
      c.prints (verdictOn task.yamlFile machine) = false

/-- A check that passes names the kind of the machine, and the kind decides how a build in some
circumstances can fail. -/
structure FollowsVerdict (c : Circumstances) (d : Disk) (settings : Settings) (task : Task)
    (checked built : Ending) : Prop where
  kind : Reports task.yamlFile "mealy" checked.stdout ∨ Reports task.yamlFile "moore" checked.stdout
  mealy : Reports task.yamlFile "mealy" checked.stdout →
    (built.code = 30 ∨ built.code = 31) ∧ (built.code = 31 ↔ Unreadable d settings)
  moore : Reports task.yamlFile "moore" checked.stdout → task.dryRun = true →
    DryCode c d settings task built.code

/-- How a build ends in some circumstances, by how the check of the same file ended in others. -/
structure Agrees (c c' : Circumstances) (d : Disk) (request : Request) (task : Task)
    (checked built : Ending) : Prop where
  failed : ReadAlike c c' d request task → checked.code ≠ 0 → FailsLike c d task checked built
  passed : ReadAlike c c' d request task → checked.code = 0 →
    ∃ settings, settingsOf c' d request = .ok settings ∧
      FollowsVerdict c' d settings task checked built
  /-- The exit code is that of the first phase that fails. -/
  first : built.code = (firstFailure c' d request task).elim 0 fun failure => failure.2.code

section Agreement

variable (hcheck : Accepts d args request task) (hbuild : Accepts d args' request' task')
  (hcommand : request.command = .check) (hcommand' : request'.command = .build)
  (hconfig : request'.config = request.config) (hfile : task'.yamlFile = task.yamlFile)
  (halike : ReadAlike c c' d request' task')

include hbuild hcommand' hconfig hfile halike

/-- A build ends with the first of the common phases that fails in the check, or after them. -/
theorem endsWith_of_alike :
    EndsWith d ((firstOf c d request task commonPhases).or
      (firstOf c' d request' task' buildPhases)) (run c' args' d).value := by
  have hbuilt := run_endsWith hbuild c'
  rwa [firstFailure, hcommand', phases, firstOf_append,
    firstOf_congr (failure?_congr hconfig hfile halike)] at hbuilt

include hcheck hcommand

/-- A build fails like the check if that fails before its output. -/
theorem failed_of_alike (hcode : (run c args d).value.code ≠ 0) :
    FailsLike c d task' (run c args d).value (run c' args' d).value := by
  have hchecked := run_endsWith hcheck c
  have hbuilt := endsWith_of_alike hbuild hcommand' hconfig hfile halike
  rw [firstFailure, hcommand, phases, firstOf_append] at hchecked
  cases hcommon : firstOf c d request task commonPhases with
  | some failure =>
    obtain ⟨phase, halt⟩ := failure
    obtain ⟨hfiles, houtput⟩ := ne_of_firstOf_common hcommon
    rw [hcommon, Option.some_or] at hchecked hbuilt
    rw [hchecked.eq_of_failure hfiles houtput, hbuilt.eq_of_failure hfiles houtput]
    exact .inl ⟨rfl, rfl, rfl⟩
  | none =>
    obtain ⟨_, machine, hread, hmachine, hrules⟩ := exists_of_firstOf_common hcommon
    have hvalue := value_check hcheck hcommand hread hmachine hrules
    rw [value_printed] at hvalue
    split at hvalue
    · exact absurd (congrArg Ending.code hvalue) hcode
    · rename_i hprints
      rw [← hfile] at hmachine hprints
      exact .inr ⟨congrArg Ending.code hvalue, machine, hmachine, hrules, by simpa using hprints⟩

/-- After a check that passes, the kind that it names decides how the build can fail. -/
theorem passed_of_alike (hcode : (run c args d).value.code = 0) :
    ∃ settings, settingsOf c' d request' = .ok settings ∧
      FollowsVerdict c' d settings task' (run c args d).value (run c' args' d).value := by
  have hchecked := run_endsWith hcheck c
  have hbuilt := endsWith_of_alike hbuild hcommand' hconfig hfile halike
  have hnone := hchecked.code_eq_zero_iff.1 hcode
  rw [firstFailure, hcommand, phases, firstOf_append, Option.or_eq_none_iff] at hnone
  rw [hnone.1, Option.none_or] at hbuilt
  obtain ⟨_, machine, hread, hmachine, hrules⟩ := exists_of_firstOf_common hnone.1
  have hreports : Reports task'.yamlFile machine.kind (run c args d).value.stdout := by
    rw [hfile]
    have hvalue := value_check hcheck hcommand hread hmachine hrules
    rw [value_printed] at hvalue
    split at hvalue
    · rw [hvalue]
      exact ⟨_, _, rfl⟩
    · rw [hvalue] at hcode
      cases hcode
  -- The settings of the two runs may differ in how they log, but the machine is the same.
  have hsame := firstOf_congr (failure?_congr hconfig hfile halike)
  obtain ⟨settings, machine', hsettings, hmachine', -⟩ :=
    exists_of_firstOf_common (hsame.trans hnone.1)
  obtain rfl : machine' = machine := by
    rw [← hfile, ← halike.machine, hmachine'] at hmachine
    exact Except.ok.inj hmachine
  refine ⟨settings, hsettings, ?_⟩
  cases machine' with
  | mealy m =>
    exact ⟨.inl hreports, fun _ => code_of_mealy hsettings hmachine' hbuilt,
      fun hmoore => absurd hreports (not_reports_both hmoore)⟩
  | moore m =>
    exact ⟨.inr hreports, fun hmealy => absurd hmealy (not_reports_both hreports),
      fun _ hdry => dryCode_of_moore hcommand' hsettings hmachine' hdry hbuilt⟩

end Agreement

/-- A build agrees with the check of the same file with the same settings. -/
theorem build_agrees_with_check (hcheck : Accepts d args request task)
    (hbuild : Accepts d args' request' task') (hcommand : request.command = .check)
    (hcommand' : request'.command = .build) (hconfig : request'.config = request.config)
    (hfile : task'.yamlFile = task.yamlFile) (c c' : Circumstances) :
    Agrees c c' d request' task' (run c args d).value (run c' args' d).value where
  failed := failed_of_alike hcheck hbuild hcommand hcommand' hconfig hfile
  passed := passed_of_alike hcheck hbuild hcommand hcommand' hconfig hfile
  first := (run_endsWith hbuild c').code_eq

/-- The arguments for a check of a document. -/
def checkArgs : List Text := ["check", "-y", "x"]

/-- What the arguments for a check ask for. -/
def checkRequest : Request := ⟨none, none, none, .check, ["-y", "x"]⟩

/-- The task in the arguments for a check. -/
def checkTask : Task := ⟨.ofText "x", none, "", false⟩

/-- The arguments for a dry build of a document into a directory. -/
def dryArgs (output : Text) : List Text :=
  ["build", "-y", "x", "-n", "m", "--dry-run", "-o", output]

/-- What the arguments for a dry build ask for. -/
def dryRequest (output : Text) : Request :=
  ⟨none, none, none, .build, ["-y", "x", "-n", "m", "--dry-run", "-o", output]⟩

/-- The task in the arguments for a dry build. -/
def dryTask (output : Text) : Task := ⟨.ofText "x", some (.ofText output), "m", true⟩

/-- The arguments for a check are in order for both documents. -/
theorem accepts_checkArgs : Accepts (diskOf loneDocument) checkArgs checkRequest checkTask ∧
    Accepts (diskOf halfDocument) checkArgs checkRequest checkTask :=
  ⟨⟨eq_ok_of_toOption (by decide +kernel), eq_ok_of_toOption (by decide +kernel)⟩,
    ⟨eq_ok_of_toOption (by decide +kernel), eq_ok_of_toOption (by decide +kernel)⟩⟩

/-- A dry build of a document agrees with its check. -/
theorem dry_build_agrees :
    Accepts (diskOf loneDocument) checkArgs checkRequest checkTask ∧
      Accepts (diskOf loneDocument) (dryArgs "o") (dryRequest "o") (dryTask "o") ∧
      ReadAlike anyRun anyRun (diskOf loneDocument) (dryRequest "o") (dryTask "o") ∧
      Agrees anyRun anyRun (diskOf loneDocument) (dryRequest "o") (dryTask "o")
        (run anyRun checkArgs (diskOf loneDocument)).value
        (run anyRun (dryArgs "o") (diskOf loneDocument)).value := by
  have hbuild : Accepts (diskOf loneDocument) (dryArgs "o") (dryRequest "o") (dryTask "o") :=
    ⟨eq_ok_of_toOption (by decide +kernel), eq_ok_of_toOption (by decide +kernel)⟩
  exact ⟨accepts_checkArgs.1, hbuild, ⟨rfl, rfl⟩,
    build_agrees_with_check accepts_checkArgs.1 hbuild rfl rfl rfl rfl anyRun anyRun⟩

/-- Two builds that fail with a defect though the check passes: one at its files, as its code has no
bytes, and a dry one at its output, which does not take the name of the output directory. -/
theorem build_escapes :
    ((run anyRun checkArgs (diskOf halfDocument)).value.code = 0 ∧
      (endingOf halfDocument "o").code = 1) ∧
    (run anyRun checkArgs (diskOf loneDocument)).value.code = 0 ∧
      (run anyRun (dryArgs [.half 0x480]) (diskOf loneDocument)).value.code = 1 := by
  have hsettings (document : List Char) :
      settingsOf anyRun (diskOf document) checkRequest = .ok {} :=
    congrArg _ (load_diskOf document)
  have hlone : (Check.all (machineOf "a").toSignature).outcome = .ok () :=
    eq_ok_of_toOption (by decide +kernel)
  have hdry : Asks anyRun (diskOf loneDocument) (dryArgs [.half 0x480]) {}
      (dryTask [.half 0x480]) :=
    ⟨dryRequest [.half 0x480], {}, eq_ok_of_toOption (by decide +kernel), rfl, load_diskOf _, rfl,
      eq_ok_of_toOption (by decide +kernel)⟩
  refine ⟨⟨?_, endingOf_halfDocument.1⟩, ?_, ?_⟩
  · rw [value_check accepts_checkArgs.2 rfl (hsettings _) ofFile_documentOf.2
      (eq_ok_of_toOption (by decide +kernel))]
    decide +kernel
  · rw [value_check accepts_checkArgs.1 rfl (hsettings _) ofFile_documentOf.1 hlone]
    decide +kernel
  · rw [value_run_of_asks hdry, value_build, prepare_moore rfl ofFile_documentOf.1 hlone]
    decide +kernel

end Transducer.CommandLine
