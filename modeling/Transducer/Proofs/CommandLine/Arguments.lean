import Transducer.CommandLine.Run
import Transducer.Proofs.Outcome

/-!
# Arguments and their flags

What arguments say is given by rules, one for each kind of argument (`Reads`), and the reader finds
what the rules allow (`readArgs_eq_ok_iff`). Only the arguments up to the command matter to the
program (`readRequest_append`), and the flag for a dry run matters to its own option only: without
it, the same task is read with this option off (`readTask_withoutFlag`).
-/

namespace Transducer.CommandLine

open Outcome (bind_eq_ok_iff forM_eq_ok_iff)

variable {κ : Type}

/-- What arguments say. -/
inductive Reads (specs : List (Spec κ)) (anywhere : Bool) : List Text → Given κ → Prop where
  | nil : Reads specs anywhere [] {}
  /-- Two dashes end the options. -/
  | dashes (rest : List Text) : Reads specs anywhere (endMark :: rest) { rest := rest }
  /-- An argument with options that are complete. -/
  | option {arg : Text} {rest : List Text} {options : List (κ × Text)} {given : Given κ}
    (hdashes : arg ≠ endMark) (hoption : isOption arg = true)
    (harg : readOption specs arg = .ok ⟨options, none⟩) (hrest : Reads specs anywhere rest given) :
    Reads specs anywhere (arg :: rest) { given with options := options ++ given.options }
  /-- An argument whose last option has its value in the next one. -/
  | valued {arg name value : Text} {rest : List Text} {options : List (κ × Text)} {key : κ}
    {given : Given κ} (hdashes : arg ≠ endMark) (hoption : isOption arg = true)
    (harg : readOption specs arg = .ok ⟨options, some (key, name)⟩)
    (hrest : Reads specs anywhere rest given) :
    Reads specs anywhere (arg :: value :: rest)
      { given with options := options ++ (key, value) :: given.options }
  /-- An argument that is no option, among options. -/
  | word {arg : Text} {rest : List Text} {given : Given κ} (hdashes : arg ≠ endMark)
    (hoption : isOption arg = false) (hanywhere : anywhere = true)
    (hrest : Reads specs anywhere rest given) :
    Reads specs anywhere (arg :: rest) { given with rest := arg :: given.rest }
  /-- An argument that is no option, where it ends the options. -/
  | last {arg : Text} {rest : List Text} (hdashes : arg ≠ endMark)
    (hoption : isOption arg = false) (hanywhere : anywhere = false) :
    Reads specs anywhere (arg :: rest) { rest := arg :: rest }

/-- What the reader finds is what the arguments say. -/
theorem reads_of_readArgs {specs : List (Spec κ)} {anywhere : Bool} {args : List Text}
    {given : Given κ} (h : readArgs specs anywhere args = .ok given) :
    Reads specs anywhere args given := by
  fun_induction readArgs specs anywhere args generalizing given with
  | case1 =>
    obtain rfl := Except.ok.inj h
    exact .nil
  | case2 rest =>
    obtain rfl := Except.ok.inj h
    exact .dashes rest
  | case3 arg rest hdashes hoption ih ihValue =>
    obtain ⟨⟨options, pending⟩, harg, h⟩ := bind_eq_ok_iff.1 h
    cases pending with
    | none =>
      obtain ⟨later, hlater, h⟩ := bind_eq_ok_iff.1 h
      obtain rfl := Except.ok.inj h
      exact .option hdashes hoption harg (ih hlater)
    | some called =>
      obtain ⟨key, name⟩ := called
      cases rest with
      | nil => cases h
      | cons value rest =>
        obtain ⟨later, hlater, h⟩ := bind_eq_ok_iff.1 h
        obtain rfl := Except.ok.inj h
        exact .valued hdashes hoption harg (ihValue hlater)
  | case4 arg rest hdashes hoption hanywhere ih =>
    obtain ⟨later, hlater, h⟩ := bind_eq_ok_iff.1 h
    obtain rfl := Except.ok.inj h
    exact .word hdashes (by simpa using hoption) hanywhere (ih hlater)
  | case5 arg rest hdashes hoption hanywhere =>
    obtain rfl := Except.ok.inj h
    exact .last hdashes (by simpa using hoption) (by simpa using hanywhere)

/-- The reader finds what the arguments say. -/
theorem readArgs_eq_ok_iff {specs : List (Spec κ)} {anywhere : Bool} {args : List Text}
    {given : Given κ} :
    readArgs specs anywhere args = .ok given ↔ Reads specs anywhere args given := by
  refine ⟨reads_of_readArgs, fun h => ?_⟩
  induction h with
  | nil => rfl
  | dashes rest => rw [readArgs, if_pos rfl]
  | option hdashes hoption harg _ ih =>
    rw [readArgs, if_neg hdashes, if_pos hoption]
    exact bind_eq_ok_iff.2 ⟨_, harg, bind_eq_ok_iff.2 ⟨_, ih, rfl⟩⟩
  | valued hdashes hoption harg _ ih =>
    rw [readArgs, if_neg hdashes, if_pos hoption]
    exact bind_eq_ok_iff.2 ⟨_, harg, bind_eq_ok_iff.2 ⟨_, ih, rfl⟩⟩
  | word hdashes hoption hanywhere _ ih =>
    rw [readArgs, if_neg hdashes, if_neg (by simp [hoption]), if_pos hanywhere]
    exact bind_eq_ok_iff.2 ⟨_, ih, rfl⟩
  | last hdashes hoption hanywhere =>
    rw [readArgs, if_neg hdashes, if_neg (by simp [hoption]), if_neg (by simp [hanywhere])]

/-- Arguments are read for the program or a command if they can be read at all. -/
theorem readGiven_eq_ok_iff {command : Option Command} {specs : List (Spec κ)} {anywhere : Bool}
    {args : List Text} {given : Given κ} :
    readGiven command specs anywhere args = .ok given ↔ Reads specs anywhere args given := by
  rw [← readArgs_eq_ok_iff]
  unfold readGiven
  split
  · rename_i found hfound
    rw [hfound]
    exact ⟨fun h => congrArg _ (Except.ok.inj h), fun h => congrArg _ (Except.ok.inj h)⟩
  · rename_i e he
    rw [he]
    exact ⟨fun h => (nomatch h), fun h => (nomatch h)⟩

/-! ## Up to the command -/

/-- Options end before the first argument that is none, and what follows it is not looked at. -/
theorem Reads.append {specs : List (Spec κ)} {args : List Text} {given : Given κ}
    {name : Text} {rest : List Text} (h : Reads specs false args given)
    (hrest : given.rest = name :: rest) :
    ∃ front, args = front ++ name :: rest ∧ ∀ rest',
      Reads specs false (front ++ name :: rest') { given with rest := name :: rest' } := by
  induction h with
  | nil => cases hrest
  | dashes args =>
    obtain rfl : args = name :: rest := hrest
    exact ⟨[endMark], rfl, fun rest' => .dashes _⟩
  | @option arg _ _ _ hdashes hoption harg _ ih =>
    obtain ⟨front, rfl, hfront⟩ := ih hrest
    exact ⟨arg :: front, rfl, fun rest' => .option hdashes hoption harg (hfront rest')⟩
  | @valued arg _ value _ _ _ _ hdashes hoption harg _ ih =>
    obtain ⟨front, rfl, hfront⟩ := ih hrest
    exact ⟨arg :: value :: front, rfl, fun rest' => .valued hdashes hoption harg (hfront rest')⟩
  | word _ _ hanywhere => cases hanywhere
  | last hdashes hoption hanywhere =>
    obtain ⟨rfl, rfl⟩ := List.cons.inj hrest
    exact ⟨[], rfl, fun rest' => .last hdashes hoption hanywhere⟩

/-- Whether an option ends the program at once. -/
def isEager (spec : Spec ProgramOption) : Bool := spec.key == .version || spec.key == .help

/-- What is asked of the program is in the options before its command. -/
theorem readRequest_eq_ok_iff {d : Disk} {args : List Text} {request : Request} :
    readRequest d args = .ok request ↔
      ∃ given name command rest, args ≠ [] ∧ Reads programSpecs false args given ∧
        ((given.order programSpecs).find? fun spec => given.has spec.key && isEager spec) = none ∧
        (∀ spec ∈ given.order programSpecs, checkProgramOption d given spec = .ok ()) ∧
        given.rest = name :: rest ∧ resolveCommand name = .ok command ∧
        request = {
          config := given.value? .config
          level := (given.value? .logLevel).bind (choice? levelChoices)
          format := (given.value? .logFormat).bind (choice? formatChoices)
          command
          args := rest } := by
  unfold readRequest
  dsimp only
  by_cases hargs : args.isEmpty = true
  · rw [if_pos hargs]
    refine ⟨fun h => (nomatch h), ?_⟩
    rintro ⟨given, name, command, rest, hne, -⟩
    exact absurd (List.isEmpty_iff.1 hargs) hne
  · have hne : args ≠ [] := fun h => hargs (List.isEmpty_iff.2 h)
    rw [if_neg hargs, bind_eq_ok_iff]
    constructor
    · rintro ⟨given, hgiven, h⟩
      split at h
      · cases h
      · cases h
      · rename_i hfind
        obtain ⟨⟨⟩, hcheck, h⟩ := bind_eq_ok_iff.1 h
        split at h
        · cases h
        · rename_i name rest hrest
          obtain ⟨command, hcommand, h⟩ := bind_eq_ok_iff.1 h
          exact ⟨given, name, command, rest, hne, readGiven_eq_ok_iff.1 hgiven, hfind,
            forM_eq_ok_iff.1 hcheck, hrest, hcommand, (Except.ok.inj h).symm⟩
    · rintro ⟨given, name, command, rest, -, hgiven, hfind, hcheck, hrest, hcommand, rfl⟩
      refine ⟨given, readGiven_eq_ok_iff.2 hgiven, ?_⟩
      unfold isEager at hfind
      rw [hfind]
      refine bind_eq_ok_iff.2 ⟨(), forM_eq_ok_iff.2 hcheck, ?_⟩
      rw [hrest]
      exact bind_eq_ok_iff.2 ⟨command, hcommand, rfl⟩

/-- What follows the command is passed on as it is. -/
theorem readRequest_append {d : Disk} {args : List Text} {request : Request}
    (h : readRequest d args = .ok request) :
    ∃ front, args = front ++ request.args ∧
      ∀ rest, readRequest d (front ++ rest) = .ok { request with args := rest } := by
  obtain ⟨given, name, command, rest, -, hgiven, hfind, hcheck, hrest, hcommand, rfl⟩ :=
    readRequest_eq_ok_iff.1 h
  obtain ⟨front, rfl, hfront⟩ := hgiven.append hrest
  refine ⟨front ++ [name], by simp, fun rest' => readRequest_eq_ok_iff.2 ?_⟩
  rw [List.append_assoc, List.singleton_append]
  exact ⟨{ given with rest := name :: rest' }, name, command, rest', by simp, hfront rest', hfind,
    hcheck, rfl, hcommand, rfl⟩

/-! ## Tasks -/

/-- Every option is looked at, whether it was given or not. -/
theorem forall_mem_order_iff [BEq κ] [LawfulBEq κ] (given : Given κ) {specs : List (Spec κ)}
    (hspecs : ∀ spec ∈ specs, (specs.find? fun s => s.key == spec.key) = some spec)
    {P : Spec κ → Prop} :
    (∀ spec ∈ given.order specs, P spec) ↔ ∀ spec ∈ specs, P spec := by
  unfold Given.order
  constructor
  · intro h spec hspec
    refine h spec (List.mem_append.2 ?_)
    by_cases hkey : spec.key ∈ (given.options.map Prod.fst).eraseDups
    · exact .inl (List.mem_filterMap.2 ⟨spec.key, hkey, hspecs spec hspec⟩)
    · exact .inr (List.mem_filter.2 ⟨hspec, by simpa using hkey⟩)
  · intro h spec hspec
    rcases List.mem_append.1 hspec with hspec | hspec
    · obtain ⟨key, -, hfind⟩ := List.mem_filterMap.1 hspec
      exact h spec (List.mem_of_find?_eq_some hfind)
    · exact h spec (List.mem_filter.1 hspec).1

/-- The options of a command have different keys. -/
theorem find?_commandSpecs (command : Command) :
    ∀ spec ∈ commandSpecs command,
      ((commandSpecs command).find? fun s => s.key == spec.key) = some spec := by
  cases command with
  | build => simp [commandSpecs]
  | check => simp [commandSpecs]

/-- The task that options give. -/
def taskOf (given : Given CommandOption) : Task where
  yamlFile := .ofText ((given.value? .yamlFile).getD [])
  output := (given.value? .output).map Path.ofText
  name := (given.value? .name).getD []
  dryRun := given.has .dryRun

/-- A task is read from options that pass their checks, with nothing left over. -/
theorem readTask_eq_ok_iff {d : Disk} {command : Command} {args : List Text} {task : Task} :
    readTask d command args = .ok task ↔
      ∃ given, Reads (commandSpecs command) true args given ∧ given.has .help = false ∧
        (∀ spec ∈ commandSpecs command, checkCommandOption command d given spec = .ok ()) ∧
        given.rest = [] ∧ task = taskOf given := by
  have hrest : ∀ rest, checkRest command rest = .ok () ↔ rest = [] := by
    intro rest
    match rest with
    | [] => simp [checkRest]
    | [arg] => simp [checkRest]
    | arg :: next :: rest => simp [checkRest]
  have hchecks : ∀ given : Given CommandOption,
      (given.order (commandSpecs command)).forM (checkCommandOption command d given) = .ok () ↔
        ∀ spec ∈ commandSpecs command, checkCommandOption command d given spec = .ok () :=
    fun given => forM_eq_ok_iff.trans (forall_mem_order_iff given (find?_commandSpecs command))
  unfold readTask
  dsimp only
  rw [bind_eq_ok_iff]
  constructor
  · rintro ⟨given, hgiven, h⟩
    split at h
    · cases h
    · rename_i hhelp
      obtain ⟨⟨⟩, hcheck, h⟩ := bind_eq_ok_iff.1 h
      obtain ⟨⟨⟩, hnone, h⟩ := bind_eq_ok_iff.1 h
      exact ⟨given, readGiven_eq_ok_iff.1 hgiven, by simpa using hhelp, (hchecks given).1 hcheck,
        (hrest _).1 hnone, (Except.ok.inj h).symm⟩
  · rintro ⟨given, hgiven, hhelp, hcheck, hnone, rfl⟩
    refine ⟨given, readGiven_eq_ok_iff.2 hgiven, ?_⟩
    rw [if_neg (by simp [hhelp])]
    exact bind_eq_ok_iff.2 ⟨(), (hchecks given).2 hcheck,
      bind_eq_ok_iff.2 ⟨(), (hrest _).2 hnone, rfl⟩⟩

/-- The name in a task for a build is one in C. -/
theorem isCName_of_readTask {d : Disk} {args : List Text} {task : Task}
    (h : readTask d .build args = .ok task) : isCName task.name = true := by
  obtain ⟨given, -, -, hcheck, -, rfl⟩ := readTask_eq_ok_iff.1 h
  have hname := hcheck ⟨.name, some 'n', "--name", true⟩ (by simp [commandSpecs])
  unfold checkCommandOption at hname
  dsimp only at hname
  change isCName ((given.value? .name).getD []) = true
  cases hvalue : given.value? .name with
  | none =>
    rw [hvalue] at hname
    cases hname
  | some name =>
    rw [hvalue] at hname
    change (if isCName name = true then .ok () else .error _) = Except.ok () at hname
    split at hname
    · assumption
    · cases hname

/-! ## The flag for a dry run -/

/-- The flag for a dry run. -/
def dryRunFlag : Text := "--dry-run"

/-- Whether the next argument is the value of an option in an argument of a build. -/
def takesNext (arg : Text) : Bool :=
  match readOption (commandSpecs .build) arg with
  | .ok reading => isOption arg && reading.open?.isSome
  | .error _ => false

/-- The arguments of a build without the flag for a dry run, where it is no value of an option. -/
def withoutFlag : List Text → List Text
  | [] => []
  | arg :: rest =>
    if arg = endMark then arg :: rest
    else if arg = dryRunFlag then withoutFlag rest
    else if takesNext arg then
      match rest with
      | [] => [arg]
      | value :: rest => arg :: value :: withoutFlag rest
    else arg :: withoutFlag rest

/-- Arguments are passed one by one, an option together with its value. -/
theorem withoutFlag_cons (arg : Text) (rest : List Text) :
    withoutFlag (arg :: rest) =
      if arg = endMark then arg :: rest
      else if arg = dryRunFlag then withoutFlag rest
      else if takesNext arg then
        match rest with
        | [] => [arg]
        | value :: rest => arg :: value :: withoutFlag rest
      else arg :: withoutFlag rest := by
  -- The recursion looks two arguments ahead.
  cases rest with
  | nil => rfl
  | cons value rest => rfl

/-- The flag gives its option, and nothing else. -/
theorem readOption_dryRunFlag :
    readOption (commandSpecs .build) dryRunFlag = .ok ⟨[(.dryRun, [])], none⟩ := rfl

/-- Letters after one dash do not give the option for a dry run. -/
theorem key_ne_of_readShort {letters : Text} {reading : Reading CommandOption}
    (h : readShort (commandSpecs .build) letters = .ok reading) :
    (∀ option ∈ reading.options, option.1 ≠ .dryRun) ∧
      ∀ called, reading.open? = some called → called.1 ≠ .dryRun := by
  induction letters generalizing reading with
  | nil =>
    obtain rfl := Except.ok.inj h
    exact ⟨fun option hoption => (nomatch hoption), fun called hcalled => (nomatch hcalled)⟩
  | cons c letters ih =>
    rw [readShort] at h
    split at h
    · cases h
    · rename_i spec hfind
      have hkey : spec.key ≠ .dryRun := by
        have hmem := List.mem_of_find?_eq_some hfind
        have hshort := List.find?_some hfind
        simp only [commandSpecs, List.mem_cons, List.not_mem_nil, or_false] at hmem
        rcases hmem with rfl | rfl | rfl | rfl | rfl
        · simp
        · simp
        · simp
        · simp at hshort
        · simp
      split at h
      · split at h
        · obtain rfl := Except.ok.inj h
          refine ⟨fun option hoption => (nomatch hoption), fun called hcalled => ?_⟩
          rw [← Option.some.inj hcalled]
          exact hkey
        · obtain rfl := Except.ok.inj h
          refine ⟨fun option hoption => ?_, fun called hcalled => (nomatch hcalled)⟩
          rw [List.mem_singleton.1 hoption]
          exact hkey
      · obtain ⟨later, hlater, h⟩ := bind_eq_ok_iff.1 h
        obtain rfl := Except.ok.inj h
        obtain ⟨hoptions, hopen⟩ := ih hlater
        exact ⟨List.forall_mem_cons.2 ⟨hkey, hoptions⟩, hopen⟩

/-- No other argument gives the option for a dry run. -/
theorem key_ne_of_readOption {arg : Text} {reading : Reading CommandOption}
    (h : readOption (commandSpecs .build) arg = .ok reading) (harg : arg ≠ dryRunFlag) :
    (∀ option ∈ reading.options, option.1 ≠ .dryRun) ∧
      ∀ called, reading.open? = some called → called.1 ≠ .dryRun := by
  unfold readOption at h
  dsimp only at h
  split at h
  · rename_i spec hfind
    have hmem := List.mem_of_find?_eq_some hfind
    have hlong : Text.ofString spec.long = (splitValue arg).1 := by
      simpa using List.find?_some hfind
    have hflag : spec.key = .dryRun →
        spec.takesValue = false ∧ Text.ofString spec.long = dryRunFlag := by
      simp only [commandSpecs, List.mem_cons, List.not_mem_nil, or_false] at hmem
      rcases hmem with rfl | rfl | rfl | rfl | rfl <;> simp [dryRunFlag]
    split at h
    · rename_i htakes _
      obtain rfl := Except.ok.inj h
      refine ⟨fun option hoption hkey => ?_, fun called hcalled => (nomatch hcalled)⟩
      rw [List.mem_singleton.1 hoption] at hkey
      rw [(hflag hkey).1] at htakes
      cases htakes
    · rename_i htakes _
      obtain rfl := Except.ok.inj h
      refine ⟨fun option hoption => (nomatch hoption), fun called hcalled hkey => ?_⟩
      rw [← Option.some.inj hcalled] at hkey
      rw [(hflag hkey).1] at htakes
      cases htakes
    · cases h
    · rename_i hvalue
      obtain rfl := Except.ok.inj h
      refine ⟨fun option hoption hkey => harg ?_, fun called hcalled => (nomatch hcalled)⟩
      rw [List.mem_singleton.1 hoption] at hkey
      -- Without an equals sign, the name in the argument is all of it.
      have hname : (splitValue arg).1 = arg := by
        unfold splitValue at hvalue ⊢
        split at hvalue
        · cases hvalue
        · rfl
      rw [← (hflag hkey).2, hlong, hname]
  · split at h
    · cases h
    · exact key_ne_of_readShort h

/-- What arguments say apart from the option for a dry run. -/
def wet (given : Given CommandOption) : Given CommandOption :=
  { given with options := given.options.filter fun option => option.1 ≠ .dryRun }

/-- All other options have the same values. -/
theorem value?_wet_of_ne (given : Given CommandOption) {key : CommandOption} (h : key ≠ .dryRun) :
    (wet given).value? key = given.value? key := by
  unfold wet Given.value?
  dsimp only
  rw [← List.filter_reverse, List.find?_filter]
  congr 2
  funext option
  by_cases hoption : option.1 = key
  · simp [hoption, h]
  · simp [hoption]

/-- The option for a dry run is not given. -/
theorem value?_wet_dryRun (given : Given CommandOption) : (wet given).value? .dryRun = none := by
  unfold wet Given.value?
  dsimp only
  rw [← List.filter_reverse, List.find?_filter, Option.map_eq_none_iff, List.find?_eq_none]
  simp

/-- Without the flag, all other options and arguments are the same. -/
theorem Reads.withoutFlag {args : List Text} {given : Given CommandOption}
    (h : Reads (commandSpecs .build) true args given) :
    Reads (commandSpecs .build) true (withoutFlag args) (wet given) := by
  unfold wet
  have hkeep : ∀ {options : List (CommandOption × Text)},
      (∀ option ∈ options, option.1 ≠ .dryRun) →
        (options.filter fun option => option.1 ≠ .dryRun) = options := by
    intro options hoptions
    exact List.filter_eq_self.2 fun option hoption => by simpa using hoptions option hoption
  induction h with
  | nil => exact .nil
  | dashes rest =>
    rw [withoutFlag_cons, if_pos rfl]
    exact .dashes rest
  | @option arg rest options given hdashes hoption harg _ ih =>
    rw [withoutFlag_cons, if_neg hdashes]
    -- The argument is the flag, with the option for a dry run only, or does not give this option.
    by_cases hflag : arg = dryRunFlag
    · subst hflag
      rw [readOption_dryRunFlag] at harg
      obtain ⟨rfl, -⟩ := Reading.mk.inj (Except.ok.inj harg)
      rw [if_pos rfl]
      exact ih
    · have hnext : takesNext arg = false := by simp [takesNext, harg]
      rw [if_neg hflag, if_neg (by simp [hnext])]
      simp only [List.filter_append, hkeep (key_ne_of_readOption harg hflag).1]
      exact .option hdashes hoption harg ih
  | @valued arg name value rest options key given hdashes hoption harg _ ih =>
    have hflag : arg ≠ dryRunFlag := by
      rintro rfl
      rw [readOption_dryRunFlag] at harg
      cases harg
    have hnext : takesNext arg = true := by simp [takesNext, harg, hoption]
    obtain ⟨hoptions, hopen⟩ := key_ne_of_readOption harg hflag
    rw [withoutFlag_cons, if_neg hdashes, if_neg hflag, if_pos hnext]
    simp only [List.filter_append, hkeep hoptions]
    rw [List.filter_cons_of_pos (by simpa using hopen (key, name) rfl)]
    exact .valued hdashes hoption harg ih
  | @word arg rest given hdashes hoption hanywhere _ ih =>
    have hflag : arg ≠ dryRunFlag := by
      rintro rfl
      cases hoption
    have hnext : takesNext arg = false := by
      unfold takesNext
      split
      · simp [hoption]
      · rfl
    rw [withoutFlag_cons, if_neg hdashes, if_neg hflag, if_neg (by simp [hnext])]
    exact .word hdashes hoption hanywhere ih
  | last _ _ hanywhere => cases hanywhere

/-- Without the flag, the same task is read as one that is not dry. -/
theorem readTask_withoutFlag {d : Disk} {args : List Text} {task : Task}
    (h : readTask d .build args = .ok task) :
    readTask d .build (withoutFlag args) = .ok { task with dryRun := false } := by
  obtain ⟨given, hgiven, hhelp, hcheck, hrest, rfl⟩ := readTask_eq_ok_iff.1 h
  refine readTask_eq_ok_iff.2 ⟨wet given, hgiven.withoutFlag, ?_, ?_, hrest, ?_⟩
  · unfold Given.has at hhelp ⊢
    rw [value?_wet_of_ne given (by decide), hhelp]
  · intro spec hspec
    have hspec' := hcheck spec hspec
    unfold checkCommandOption at hspec' ⊢
    by_cases hkey : spec.key = .dryRun
    · rw [hkey, value?_wet_dryRun]
    · rw [value?_wet_of_ne given hkey]
      exact hspec'
  · unfold taskOf Given.has
    rw [value?_wet_of_ne given (by decide), value?_wet_of_ne given (by decide),
      value?_wet_of_ne given (by decide), value?_wet_dryRun]
    rfl

/-- The arguments of the program, those of a build without the flag for a dry run. -/
def withoutDryRun (args : List Text) : List Text :=
  match readArgs programSpecs false args with
  | .ok { rest := _ :: rest, .. } =>
    args.take (args.length - rest.length) ++ withoutFlag rest
  | _ => args

/-- Without the flag, the same is asked of the program before its command. -/
theorem readRequest_withoutDryRun {d : Disk} {args : List Text} {request : Request}
    (h : readRequest d args = .ok request) :
    readRequest d (withoutDryRun args) =
      .ok { request with args := withoutFlag request.args } := by
  -- The flag belongs to the command: what is cut off and put back is behind its name.
  obtain ⟨front, rfl, hfront⟩ := readRequest_append h
  obtain ⟨given, name, command, rest, -, hgiven, -, -, hrest, -, rfl⟩ :=
    readRequest_eq_ok_iff.1 h
  dsimp only at hgiven hfront ⊢
  obtain ⟨options, rest'⟩ := given
  obtain rfl : rest' = name :: rest := hrest
  unfold withoutDryRun
  rw [readArgs_eq_ok_iff.2 hgiven]
  dsimp only
  rw [List.length_append, Nat.add_sub_cancel, List.take_left]
  exact hfront _

end Transducer.CommandLine
