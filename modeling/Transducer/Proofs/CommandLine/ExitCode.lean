import Transducer.Proofs.CommandLine.Agreement
import Transducer.Proofs.Machine.Rules
import Transducer.Proofs.Machine.Verdict

/-!
# Exit codes

Every report of a phase has one of the codes of that phase. What no report covers ends a run with
the code 1; `Escapes` lists what that can be. A run ends with 0, with a code of the first phase that
fails, or with 1 for one of the listed reasons (`code_of_run`).
-/

namespace Transducer

open Document Log
open Outcome (bind_eq_error_iff map_eq_error_iff error?_eq_some_iff eq_ok_of_toOption)

/-- A report has one of some codes, and a defect has a cause. -/
def Halt.Accounted (codes : List Nat) (cause : Defect → Prop) : Halt → Prop
  | .report r => r.code ∈ codes
  | .defect e => cause e

/-- A step that throws a report has its code. -/
theorem Halt.accounted_of_report {α : Type} {codes : List Nat} {cause : Defect → Prop} {r : Report}
    {halt : Halt} (h : (.error (.report r) : Except Halt α) = .error halt)
    (hcode : r.code ∈ codes) : halt.Accounted codes cause := by
  obtain rfl := Except.error.inj h
  exact hcode

/-- A cause may have another one behind it. -/
theorem Halt.Accounted.mono {codes : List Nat} {cause deeper : Defect → Prop} {halt : Halt}
    (h : halt.Accounted codes cause) (himp : ∀ e, cause e → deeper e) :
    halt.Accounted codes deeper := by
  cases halt with
  | report r => exact h
  | defect e => exact himp e h

/-- The defect that a document which cannot be loaded amounts to, unless there is a report. -/
def Yaml.Failure.defect? : Yaml.Failure → Option Defect
  | .fault f => some (.document f)
  | .encoding f => some (.encoding f)
  | .malformed _ => none

/-! ## Settings -/

namespace Settings

/-- The values that settings are made of. -/
inductive Takes (data : Data) : Data → Prop where
  | own {entries : List (Scalar × Data)} {key : String} {value : Data}
    (hentries : data.entries? = some entries) (hkey : key ∈ ["output_root", "templates_dir"])
    (hvalue : lookup? key entries = some value) : Takes data value
  | logging {entries inner : List (Scalar × Data)} {logging value : Data} {key : String}
    (hentries : data.entries? = some entries) (hlogging : lookup? "logging" entries = some logging)
    (hinner : logging.entries? = some inner) (hkey : key ∈ ["level", "format"])
    (hvalue : lookup? key inner = some value) : Takes data value

/-- What no report covers when a file with settings is read. -/
inductive FileEscapes (reader : Reader) (d : Disk) (file : Path) : Defect → Prop where
  /-- The path of the file has too long a name. -/
  | path (h : d.stat file.text = .error .nameTooLong) :
    FileEscapes reader d file (.disk ⟨.nameTooLong, file.text, none⟩)
  /-- The document is no UTF-8 text, has a fault in a scalar, or goes on further than the reader
  follows it. -/
  | document {bytes : List UInt8} {failure : Yaml.Failure} {e : Defect}
    (hread : d.read file.text = .ok bytes)
    (hload : Yaml.load reader.room .standard (.ofBytes bytes) = .error failure)
    (he : failure.defect? = some e) : FileEscapes reader d file e
  /-- A value has no text, or goes on further than the writer follows it. -/
  | value {bytes : List UInt8} {data value : Data} {why : Unwritable}
    (hread : d.read file.text = .ok bytes)
    (hload : Yaml.load reader.room .standard (.ofBytes bytes) = .ok data)
    (hvalue : Takes data value) (hwritten : value.written reader.writer = .error why) :
    FileEscapes reader d file (.unwritable why)

/-- The paths that are looked up for the templates of a directory. -/
def templatePaths (directory : Path) : List Path :=
  [directory, directory.join (.ofText Templates.headerFile),
    directory.join (.ofText Templates.sourceFile)]

/-- What no report covers when settings are loaded. -/
inductive Escapes (reader : Reader) (d : Disk) (config : Option Path) : Defect → Prop where
  | file {e : Defect} (h : FileEscapes reader d (config.getD (.ofText defaultFile)) e) :
    Escapes reader d config e
  /-- The path of the templates has too long a name. -/
  | templates {found : Settings} {directory path : Path} (hfound : find reader d config = .ok found)
    (hdirectory : found.templatesDir = some directory)
    (hpath : path ∈ templatePaths directory) (h : d.stat path.text = .error .nameTooLong) :
    Escapes reader d config (.disk ⟨.nameTooLong, path.text, none⟩)

/-- A look-up fails only if a name is too long. -/
theorem lookAt_eq_error {d : Disk} {path : Path} {halt : Halt} (h : lookAt d path = .error halt) :
    d.stat path.text = .error .nameTooLong ∧
      halt = .defect (.disk ⟨.nameTooLong, path.text, none⟩) := by
  unfold lookAt Disk.find? at h
  split at h
  · cases h
  · rename_i e hfind
    obtain rfl := Except.error.inj h
    split at hfind
    · cases hfind
    · rename_i hstat
      exact ⟨hstat, by rw [Except.error.inj hfind]⟩
    · cases hfind

variable {reader : Reader} {writer : Writer}

/-- A value without a text is a defect. -/
theorem written_eq_error {value : Data} {halt : Halt} (h : written writer value = .error halt) :
    ∃ why, value.written writer = .error why ∧ halt = .defect (.unwritable why) := by
  unfold written at h
  cases hwritten : value.written writer with
  | error why =>
    rw [hwritten] at h
    exact ⟨why, rfl, (Except.error.inj h).symm⟩
  | ok text =>
    rw [hwritten] at h
    cases h

/-- A value that is not given has a text. -/
theorem written_getD {given : Option Data} {text : Text} {halt : Halt}
    (h : written writer (given.getD (Value.text text)) = .error halt) :
    ∃ value why, given = some value ∧ value.written writer = .error why ∧
      halt = .defect (.unwritable why) := by
  cases given with
  | none => cases h
  | some value =>
    obtain ⟨why, hwritten, rfl⟩ := written_eq_error h
    exact ⟨value, why, rfl, hwritten, rfl⟩

/-- A path is refused if its text is. -/
theorem pathOf_eq_error {base : Option Path} {data : Data} {halt : Halt}
    (h : pathOf writer base data = .error halt) : written writer data = .error halt := by
  rcases bind_eq_error_iff.1 h with h | ⟨text, -, h⟩
  · exact h
  · cases h

/-- The settings of the log are refused by a report about them. -/
theorem loggingEntries_eq_error {entries : List (Scalar × Data)} {halt : Halt}
    (h : loggingEntries entries = .error halt) :
    ∃ field message, halt = .report (.settings field message) := by
  unfold loggingEntries at h
  split at h
  · cases h
  · split at h
    · split at h
      · cases h
      · exact ⟨_, _, (Except.error.inj h).symm⟩
    · cases h

/-- The settings of the log are those under their key. -/
theorem exists_of_loggingEntries {entries inner : List (Scalar × Data)} {key : String}
    {value : Data} (h : loggingEntries entries = .ok inner)
    (hvalue : lookup? key inner = some value) :
    ∃ logging, lookup? "logging" entries = some logging ∧ logging.entries? = some inner := by
  unfold loggingEntries at h
  split at h
  · obtain rfl := Except.ok.inj h
    cases hvalue
  · rename_i logging hlogging
    split at h
    · split at h
      · rename_i inner' hinner
        obtain rfl := Except.ok.inj h
        exact ⟨logging, hlogging, hinner⟩
      · cases h
    · obtain rfl := Except.ok.inj h
      cases hvalue

/-- Settings are refused by a report about them, or because a value in them has no text. -/
theorem ofData_eq_error {data : Data} {base : Option Path} {halt : Halt}
    (h : ofData writer data base = .error halt) :
    halt.Accounted [2] fun e =>
      ∃ value why, Takes data value ∧ value.written writer = .error why ∧ e = .unwritable why := by
  unfold ofData at h
  split at h
  · exact Halt.accounted_of_report h (List.mem_singleton.2 rfl)
  · rename_i entries hentries
    -- The values are taken one after the other, and each can be the one without a text.
    rcases bind_eq_error_iff.1 h with h | ⟨inner, hlogging, h⟩
    · obtain ⟨field, message, rfl⟩ := loggingEntries_eq_error h
      exact List.mem_singleton.2 rfl
    rcases bind_eq_error_iff.1 h with h | ⟨level, -, h⟩
    · obtain ⟨value, why, hvalue, hwritten, rfl⟩ := written_getD h
      obtain ⟨logging, hkey, hinner⟩ := exists_of_loggingEntries hlogging hvalue
      exact ⟨value, why, .logging hentries hkey hinner (by simp) hvalue, hwritten, rfl⟩
    rcases bind_eq_error_iff.1 h with h | ⟨format, -, h⟩
    · obtain ⟨value, why, hvalue, hwritten, rfl⟩ := written_getD h
      obtain ⟨logging, hkey, hinner⟩ := exists_of_loggingEntries hlogging hvalue
      exact ⟨value, why, .logging hentries hkey hinner (by simp) hvalue, hwritten, rfl⟩
    rcases bind_eq_error_iff.1 h with h | ⟨root, -, h⟩
    · obtain ⟨value, why, hvalue, hwritten, rfl⟩ := written_getD (pathOf_eq_error h)
      exact ⟨value, why, .own hentries (by simp) hvalue, hwritten, rfl⟩
    dsimp only at h
    split at h
    · rename_i directory hvalue
      split at h
      · rcases bind_eq_error_iff.1 h with h | ⟨templates, -, h⟩
        · obtain ⟨why, hwritten, rfl⟩ := written_eq_error (pathOf_eq_error (map_eq_error_iff.1 h))
          exact ⟨directory, why, .own hentries (by simp) hvalue, hwritten, rfl⟩
        · cases h
      · cases h
    · cases h

/-- A document with settings cannot be loaded by a report about it, or because it has a defect. -/
theorem dataOf_eq_error {room : Yaml.Room} {source : Yaml.Source} {halt : Halt}
    (h : dataOf room source = .error halt) :
    halt.Accounted [2] fun e =>
      ∃ failure, Yaml.load room .standard source = .error failure ∧ failure.defect? = some e := by
  unfold dataOf at h
  split at h
  · cases h
  · rename_i hload
    obtain rfl := Except.error.inj h
    exact ⟨_, hload, rfl⟩
  · rename_i hload
    obtain rfl := Except.error.inj h
    exact ⟨_, hload, rfl⟩
  · exact Halt.accounted_of_report h (List.mem_singleton.2 rfl)

/-- The data of a document are as loaded, or empty. -/
theorem dataOf_eq_ok {room : Yaml.Room} {source : Yaml.Source} {data : Data}
    (h : dataOf room source = .ok data) :
    Yaml.load room .standard source = .ok data ∨ ∀ value, ¬ Takes data value := by
  unfold dataOf at h
  split at h
  · rename_i loaded hload
    split at h
    · exact .inl (by rw [hload, Except.ok.inj h])
    · refine .inr fun value hvalue => ?_
      obtain rfl := Except.ok.inj h
      cases hvalue with
      | own hentries hkey hvalue =>
        obtain rfl := Option.some.inj hentries
        cases hvalue
      | logging hentries hlogging hinner hkey hvalue =>
        obtain rfl := Option.some.inj hentries
        cases hlogging
  · cases h
  · cases h
  · cases h

/-- A file with settings is refused by a report about it, or for one of the listed reasons. -/
theorem ofFile_eq_error {d : Disk} {file : Path} {halt : Halt}
    (h : ofFile reader d file = .error halt) :
    halt.Accounted [2] (FileEscapes reader d file) := by
  rcases bind_eq_error_iff.1 h with h | ⟨found, hfound, h⟩
  · obtain ⟨hstat, rfl⟩ := lookAt_eq_error h
    exact .path hstat
  dsimp only at h
  split at h
  · exact Halt.accounted_of_report h (List.mem_singleton.2 rfl)
  rename_i hsome
  -- The look-up has found something, so it cannot be read only if it is a directory.
  obtain ⟨item, rfl⟩ : ∃ item, found = some item := by
    simpa [Option.ne_none_iff_exists'] using hsome
  have hstat := lookAt_eq_some hfound
  cases item with
  | directory =>
    have hread : d.read file.text = .error ⟨.isDirectory, file.text, none⟩ := by
      rw [Disk.read, hstat]
    rw [hread] at h
    exact Halt.accounted_of_report h (List.mem_singleton.2 rfl)
  | file bytes =>
    have hread : d.read file.text = .ok bytes := by rw [Disk.read, hstat]
    rw [hread] at h
    rcases bind_eq_error_iff.1 h with h | ⟨data, hdata, h⟩
    · refine (dataOf_eq_error h).mono fun e he => ?_
      obtain ⟨failure, hload, hdefect⟩ := he
      exact .document hread hload hdefect
    · refine (ofData_eq_error h).mono fun e he => ?_
      obtain ⟨value, why, hvalue, hwritten, rfl⟩ := he
      rcases dataOf_eq_ok hdata with hload | hnone
      · exact .value hread hload hvalue hwritten
      · exact absurd hvalue (hnone value)

/-- A template that has to be there is refused by a report about it, or because its path has too
long a name. -/
theorem requireTemplate_eq_error {d : Disk} {directory : Path} {file : String} {halt : Halt}
    (h : requireTemplate d directory file = .error halt) :
    halt.Accounted [2] fun e =>
      d.stat (directory.join (.ofText file)).text = .error .nameTooLong ∧
        e = .disk ⟨.nameTooLong, (directory.join (.ofText file)).text, none⟩ := by
  rcases bind_eq_error_iff.1 h with h | ⟨found, -, h⟩
  · obtain ⟨hstat, rfl⟩ := lookAt_eq_error h
    exact ⟨hstat, rfl⟩
  · split at h
    · cases h
    · exact Halt.accounted_of_report h (List.mem_singleton.2 rfl)

/-- Settings that cannot be used are refused by a report about them, or because a path of the
templates has too long a name. -/
theorem validate_eq_error {s : Settings} {d : Disk} {halt : Halt} (h : s.validate d = .error halt) :
    halt.Accounted [2] fun e => ∃ directory, s.templatesDir = some directory ∧
      ∃ path ∈ templatePaths directory, d.stat path.text = .error .nameTooLong ∧
        e = .disk ⟨.nameTooLong, path.text, none⟩ := by
  unfold validate at h
  dsimp only at h
  split at h
  · exact Halt.accounted_of_report h (List.mem_singleton.2 rfl)
  split at h
  · exact Halt.accounted_of_report h (List.mem_singleton.2 rfl)
  split at h
  · cases h
  rename_i directory hdirectory
  -- What is left are look-ups, of which the first that is refused ends the check.
  rcases bind_eq_error_iff.1 h with h | ⟨found, -, h⟩
  · obtain ⟨hstat, rfl⟩ := lookAt_eq_error h
    exact ⟨directory, hdirectory, directory, by simp [templatePaths], hstat, rfl⟩
  split at h
  · rcases bind_eq_error_iff.1 h with h | ⟨⟨⟩, -, h⟩
    · refine (requireTemplate_eq_error h).mono fun e he => ?_
      exact ⟨directory, hdirectory, _, by simp [templatePaths], he⟩
    · refine (requireTemplate_eq_error h).mono fun e he => ?_
      exact ⟨directory, hdirectory, _, by simp [templatePaths], he⟩
  · exact Halt.accounted_of_report h (List.mem_singleton.2 rfl)

/-- Settings are not found by a report about them, or for one of the listed reasons. -/
theorem find_eq_error {d : Disk} {config : Option Path} {halt : Halt}
    (h : find reader d config = .error halt) :
    halt.Accounted [2] (FileEscapes reader d (config.getD (.ofText defaultFile))) := by
  cases config with
  | some file => exact ofFile_eq_error h
  | none =>
    rcases bind_eq_error_iff.1 h with h | ⟨found, -, h⟩
    · obtain ⟨hstat, rfl⟩ := lookAt_eq_error h
      exact .path hstat
    · split at h
      · exact ofFile_eq_error h
      · cases h

/-- Settings are refused by a report about them, or for one of the listed reasons. -/
theorem load_eq_error {d : Disk} {config : Option Path} {halt : Halt}
    (h : load reader d config = .error halt) : halt.Accounted [2] (Escapes reader d config) := by
  rcases bind_eq_error_iff.1 h with h | ⟨found, hfound, h⟩
  · exact (find_eq_error h).mono fun e he => .file he
  rcases bind_eq_error_iff.1 h with h | ⟨⟨⟩, -, h⟩
  · refine (validate_eq_error h).mono fun e he => ?_
    obtain ⟨directory, hdirectory, path, hpath, hstat, rfl⟩ := he
    exact .templates hfound hdirectory hpath hstat
  · cases h

end Settings

/-! ## Machines and code -/

/-- What no report covers when a machine is read: its document has a fault, or goes on further than
there is room to follow it. -/
def Machine.Escapes (room : Yaml.Room) (d : Disk) (file : Path) (e : Defect) : Prop :=
  ∃ text failure, d.readText file = .ok text ∧
    Yaml.load room .strict (.ofText text) = .error failure ∧ failure.defect? = some e

/-- If a file whose path can be spelt is not read, there is a report. -/
theorem halt_of_readText {d : Disk} {file : Path} (hfile : Text.Spellable file.text) {e : ReadError}
    (h : d.readText file = .error e) (r : Report) : e.halt r = .report r := by
  unfold Disk.readText at h
  split at h
  · rename_i refused hrefused
    obtain rfl := Except.error.inj h
    have hreported : refused.refusal.isReported = true := by
      unfold Disk.read at hrefused
      split at hrefused
      · cases hrefused
      · obtain rfl := Except.error.inj hrefused
        rfl
      · rename_i refusal hstat
        obtain rfl := Except.error.inj hrefused
        exact Disk.isReported_of_stat hfile hstat
    exact if_pos hreported
  · split at h
    · obtain rfl := Except.error.inj h
      rfl
    · cases h

/-- Data that describe no machine are refused by a report about them. -/
theorem Machine.ofData_eq_error {data : Data} {r : Report} (h : (ofData data).outcome = .error r) :
    r.code = 10 := by
  rw [outcome_ofData] at h
  split at h
  · obtain rfl := Except.error.inj h
    rfl
  · cases h
  · cases h
  · obtain rfl := Except.error.inj h
    rfl

/-- A text describes no machine by a report about it, or because its document has a fault. -/
theorem Machine.ofText_eq_error {room : Yaml.Room} {text : String} {halt : Halt}
    (h : (ofText room text).outcome = .error halt) :
    halt.Accounted [10] fun e =>
      ∃ failure, Yaml.load room .strict (.ofText text) = .error failure ∧
        failure.defect? = some e := by
  unfold ofText at h
  cases hload : Yaml.load room .strict (.ofText text) with
  | ok data =>
    rw [hload] at h
    dsimp only at h
    rw [Stage.outcome_adapt] at h
    cases hdata : (ofData data).outcome with
    | error r =>
      rw [hdata] at h
      obtain rfl := Except.error.inj h
      exact List.mem_singleton.2 (ofData_eq_error hdata)
    | ok machine =>
      rw [hdata] at h
      cases h
  | error failure =>
    rw [hload] at h
    -- Only a document that is not well formed is reported.
    cases failure with
    | fault f =>
      obtain rfl := Except.error.inj h
      exact ⟨_, rfl, rfl⟩
    | encoding f =>
      obtain rfl := Except.error.inj h
      exact ⟨_, rfl, rfl⟩
    | malformed reason => exact Halt.accounted_of_report h (List.mem_singleton.2 rfl)

/-- A machine is not read by a report about it, or because its document has a fault. -/
theorem Machine.ofFile_eq_error {room : Yaml.Room} {d : Disk} {file : Path}
    (hfile : Text.Spellable file.text) {halt : Halt}
    (h : (ofFile room d file).outcome = .error halt) :
    halt.Accounted [10] (Machine.Escapes room d file) := by
  unfold ofFile at h
  cases hread : d.readText file with
  | error e =>
    rw [hread] at h
    dsimp only at h
    rw [halt_of_readText hfile hread] at h
    exact Halt.accounted_of_report h (List.mem_singleton.2 rfl)
  | ok text =>
    rw [hread] at h
    refine (ofText_eq_error h).mono fun e he => ?_
    obtain ⟨failure, hload, hdefect⟩ := he
    exact ⟨text, failure, hread, hload, hdefect⟩

/-- Rules in a row fail with the code of one of them. -/
theorem Check.inOrder_eq_error {s : Signature} {rules : List Rule} {r : Report}
    (h : (inOrder s rules).outcome = .error r) : ∃ rule ∈ rules, r.code = rule.code := by
  induction rules with
  | nil => cases h
  | cons rule rest ih =>
    rw [inOrder, Stage.outcome_bind] at h
    cases hviolation : violation? s rule with
    | some v =>
      rw [(rule_of_some hviolation).1] at h
      obtain rfl := Except.error.inj h
      exact ⟨rule, List.mem_cons_self, rfl⟩
    | none =>
      rw [(rule_of_none hviolation).1] at h
      obtain ⟨broken, hmem, hcode⟩ := ih h
      exact ⟨broken, List.mem_cons_of_mem _ hmem, hcode⟩

/-- Code is not generated for a Mealy machine, or for want of a value. -/
theorem Code.ofMachine_eq_error {templates : Templates} {name : Text} {machine : Machine}
    {r : Report} (h : (ofMachine templates name machine).outcome = .error r) :
    r.code ∈ [30, 31] := by
  cases machine with
  | mealy m =>
    obtain rfl := Except.error.inj h
    decide
  | moore m =>
    obtain ⟨-, code, hok⟩ | ⟨-, title, message, tokens, herror⟩ := ofMoore_verdict templates name m
    · cases hok.symm.trans h
    · obtain rfl := Except.error.inj (herror.symm.trans h)
      exact List.mem_cons_of_mem _ List.mem_cons_self

namespace CommandLine

/-! ## Phases -/

/-- The exit codes of the reports of a phase. -/
def Phase.codes : Phase → List Nat
  | .settings => [2]
  | .machine => [10]
  | .rules => [20, 21, 22]
  | .templates => [31]
  | .code => [30, 31]
  | .files => [40]
  | .output => []

/-- What no report covers in a phase. -/
inductive Escapes (c : Circumstances) (d : Disk) (request : Request) (task : Task) :
    Phase → Defect → Prop where
  | settings {e : Defect}
    (h : Settings.Escapes c.reader d (request.config.map Path.ofText) e) :
    Escapes c d request task .settings e
  | machine {e : Defect} (h : Machine.Escapes c.room d task.yamlFile e) :
    Escapes c d request task .machine e
  /-- The path of the output directory has no spelling, or is too deep to be made. -/
  | directory {settings : Settings} {e : DiskError} {after : Disk}
    (hsettings : settingsOf c d request = .ok settings)
    (hmake : d.makeDirectories c.missing (outputDirectory settings task) = (.error e, after))
    (he : e.refusal.isReported = false) : Escapes c d request task .files (.disk e)
  /-- The code has no bytes. -/
  | content {settings : Settings} {code : Code.Generated}
    (hsettings : settingsOf c d request = .ok settings) (hcode : Generates c d settings task code)
    (hnone : Text.Utf8.encode? code.header = none ∨ Text.Utf8.encode? code.source = none) :
    Escapes c d request task .files .unencodable
  /-- The output does not take what is printed. -/
  | output {text : Text} (htext : conclusion? c d request task = some text)
    (hprints : c.prints text = false) : Escapes c d request task .output .unprintable

variable {c : Circumstances} {d : Disk} {args : List Text} {request : Request} {task : Task}

/-- The path of the machine in arguments that are in order can be spelt. -/
theorem Accepts.spellable_yamlFile (h : Accepts d args request task) :
    Text.Spellable task.yamlFile.text := by
  obtain ⟨given, -, -, hchecks, -, rfl⟩ := readTask_eq_ok_iff.1 h.readsTask
  have hspec : ⟨.yamlFile, some 'y', "--yaml-file", true⟩ ∈ commandSpecs request.command := by
    cases request.command with
    | build => simp [commandSpecs]
    | check => simp [commandSpecs]
  have hcheck := hchecks _ hspec
  unfold checkCommandOption at hcheck
  dsimp only at hcheck
  change Text.Spellable (Path.ofText ((given.value? .yamlFile).getD [])).text
  cases hvalue : given.value? .yamlFile with
  | none =>
    rw [hvalue] at hcheck
    cases hcheck
  | some path =>
    rw [hvalue] at hcheck
    -- A path that cannot be spelt is refused with the arguments.
    have hreported : ∀ refusal, d.stat path = .error refusal → refusal.isReported = true := by
      intro refusal hstat
      dsimp only [checkPath] at hcheck
      rw [hstat] at hcheck
      dsimp only at hcheck
      split at hcheck
      · assumption
      · cases hcheck
    exact Path.spellable_ofText (Disk.spellable_of_stat hreported)

/-- The check of a machine fails by a report. -/
theorem accounted_rules {halt : Halt}
    (hfails : Phase.failure? c d request task .rules = some halt) :
    halt.Accounted [20, 21, 22] (Escapes c d request task .rules) := by
  simp only [Phase.failure?, Option.bind_eq_bind, Option.bind_eq_some_iff,
    Option.map_eq_some_iff, error?_eq_some_iff] at hfails
  obtain ⟨machine, -, r, hcheck, rfl⟩ := hfails
  rw [Check.outcome_all] at hcheck
  obtain ⟨rule, -, hcode⟩ := Check.inOrder_eq_error hcheck
  change r.code ∈ [20, 21, 22]
  rw [hcode]
  cases rule with
  | uniqueNames => decide
  | knownEndStates => decide
  | legalNames => decide

/-- Reading the templates fails by a report: the settings have been checked, so that the only thing
that can be wrong with a template is its text. -/
theorem accounted_templates {halt : Halt}
    (hfails : Phase.failure? c d request task .templates = some halt) :
    halt.Accounted [31] (Escapes c d request task .templates) := by
  simp only [Phase.failure?, Option.bind_eq_bind, Option.bind_eq_some_iff,
    error?_eq_some_iff] at hfails
  obtain ⟨settings, hsettings, herror⟩ := hfails
  obtain ⟨-, title, message, hreport⟩ | ⟨-, templates, hok, -⟩ :=
    templatesOf_verdict (eq_ok_of_toOption hsettings)
  · obtain rfl := Except.error.inj (hreport.symm.trans herror)
    exact List.mem_singleton.2 rfl
  · cases hok.symm.trans herror

/-- The output fails only because it does not take the conclusion. -/
theorem accounted_output {halt : Halt}
    (hfails : Phase.failure? c d request task .output = some halt) :
    halt.Accounted [] (Escapes c d request task .output) := by
  simp only [Phase.failure?, Option.bind_eq_bind, Option.bind_eq_some_iff] at hfails
  obtain ⟨text, htext, hfails⟩ := hfails
  split at hfails
  · cases hfails
  · rename_i hprints
    obtain rfl := Option.some.inj hfails
    exact .output htext (by simpa using hprints)

/-- Writing the files fails by a report, or for one of the listed reasons. -/
theorem accounted_files (h : Accepts d args request task) (hcommand : request.command = .build)
    (hhome : ∀ name ∈ d.home, 0 ∉ name) (htag : '\x00' ∉ c.tag.toList) {halt : Halt}
    (hfails : Phase.failure? c d request task .files = some halt) :
    halt.Accounted [40] (Escapes c d request task .files) := by
  simp only [Phase.failure?, Option.bind_eq_bind, Option.bind_eq_some_iff] at hfails
  obtain ⟨settings, hsettings, machine, hmachine, templates, htemplates, code, hcode, hfails⟩ :=
    hfails
  have hsettings := eq_ok_of_toOption hsettings
  have hgenerates : Generates c d settings task code :=
    ⟨machine, templates, eq_ok_of_toOption hmachine, eq_ok_of_toOption htemplates,
      eq_ok_of_toOption hcode⟩
  have hasks := h.asks hcommand hsettings
  split at hfails
  · cases hfails
  · rcases hwrite : ((bundleOf settings task code).write c.missing c.tag d).value with
      ⟨outcome, after⟩
    rw [hwrite, error?_eq_some_iff] at hfails
    dsimp only at hfails
    subst hfails
    obtain ⟨path, message, cause, rfl⟩ | ⟨e, hmade, hreported, rfl⟩ | ⟨rfl, hnone⟩ :=
      halt_of_write (outputDirectory_proper hasks) hasks.isCName hhome htag hwrite
    · exact List.mem_singleton.2 rfl
    · exact .directory hsettings hmade hreported
    · exact .content hsettings hgenerates hnone

/-- Every phase fails by a report with one of its codes, or for one of the listed reasons. -/
theorem accounted_of_failure (h : Accepts d args request task)
    (hhome : ∀ name ∈ d.home, 0 ∉ name) (htag : '\x00' ∉ c.tag.toList) {phase : Phase}
    (hphase : phase ∈ phases request.command) {halt : Halt}
    (hfails : phase.failure? c d request task = some halt) :
    halt.Accounted phase.codes (Escapes c d request task phase) := by
  cases phase with
  | settings =>
    have hload := error?_eq_some_iff.1 hfails
    exact (Settings.load_eq_error (map_eq_error_iff.1 hload)).mono fun e he => .settings he
  | machine =>
    have hread := error?_eq_some_iff.1 hfails
    exact (Machine.ofFile_eq_error h.spellable_yamlFile hread).mono fun e he => .machine he
  | rules => exact accounted_rules hfails
  | templates => exact accounted_templates hfails
  | code =>
    simp only [Phase.failure?, Option.bind_eq_bind, Option.bind_eq_some_iff,
      Option.map_eq_some_iff, error?_eq_some_iff] at hfails
    obtain ⟨settings, -, machine, -, templates, -, r, hcode, rfl⟩ := hfails
    exact Code.ofMachine_eq_error hcode
  | files =>
    -- A check has no files, so that the command is a build.
    have hcommand : request.command = .build := by
      cases hcommand : request.command with
      | build => rfl
      | check =>
        rw [hcommand] at hphase
        exact absurd hphase (by decide)
    exact accounted_files h hcommand hhome htag hfails
  | output => exact accounted_output hfails

/-- The exit code of a run, and what is behind it. -/
inductive Exits (c : Circumstances) (d : Disk) (request : Request) (task : Task) : Nat → Prop where
  | done (h : firstFailure c d request task = none) : Exits c d request task 0
  /-- The first phase that fails has a report, with a code of that phase. -/
  | reported {phase : Phase} {r : Report}
    (h : firstFailure c d request task = some (phase, .report r)) (hcode : r.code ∈ phase.codes) :
    Exits c d request task r.code
  /-- The first phase that fails has no report. -/
  | escaped {phase : Phase} {e : Defect}
    (h : firstFailure c d request task = some (phase, .defect e))
    (hcause : Escapes c d request task phase e) : Exits c d request task 1

/-- A run with arguments in order ends with 0, with a code of the first phase that fails, or with 1
for one of the reasons that no report covers. -/
theorem code_of_run (h : Accepts d args request task) (hhome : ∀ name ∈ d.home, 0 ∉ name)
    (htag : '\x00' ∉ c.tag.toList) : Exits c d request task (run c args d).value.code := by
  rw [(run_endsWith h c).code_eq]
  cases hfirst : firstFailure c d request task with
  | none => exact .done hfirst
  | some failure =>
    obtain ⟨phase, halt⟩ := failure
    obtain ⟨hphase, hfails⟩ := mem_of_firstOf hfirst
    have haccounted := accounted_of_failure h hhome htag hphase hfails
    cases halt with
    | report r => exact .reported hfirst haccounted
    | defect e => exact .escaped hfirst haccounted

/-- A disk with a document and a file with settings, in its home. -/
def diskWith (document : List Char) (settings : List UInt8) : Disk :=
  (diskOf document).put [[0x77],
    [0x73, 0x6D, 0x62, 0x75, 0x69, 0x6C, 0x64, 0x65, 0x72, 0x2E, 0x79, 0x61, 0x6D, 0x6C]]
    (.file settings)

/-- Of a check with settings that are no UTF-8 text, it is known how it ends. -/
theorem code_of_check :
    Accepts (diskWith loneDocument [0xFF]) checkArgs checkRequest checkTask ∧
      (∀ name ∈ (diskWith loneDocument [0xFF]).home, 0 ∉ name) ∧ '\x00' ∉ anyRun.tag.toList ∧
      Exits anyRun (diskWith loneDocument [0xFF]) checkRequest checkTask
        (run anyRun checkArgs (diskWith loneDocument [0xFF])).value.code := by
  have haccepts : Accepts (diskWith loneDocument [0xFF]) checkArgs checkRequest checkTask :=
    ⟨eq_ok_of_toOption (by decide +kernel), eq_ok_of_toOption (by decide +kernel)⟩
  exact ⟨haccepts, by decide, by decide, code_of_run haccepts (by decide) (by decide)⟩

/-- Two checks with arguments in order that end without a report: one has settings that are no UTF-8
text, the other a machine whose document is an integer without digits. -/
theorem run_escapes :
    (Accepts (diskWith loneDocument [0xFF]) checkArgs checkRequest checkTask ∧
      (run anyRun checkArgs (diskWith loneDocument [0xFF])).value.code = 1) ∧
    Accepts (diskOf ['0', 'x', '_']) checkArgs checkRequest checkTask ∧
      (run anyRun checkArgs (diskOf ['0', 'x', '_'])).value.code = 1 :=
  ⟨⟨⟨eq_ok_of_toOption (by decide +kernel), eq_ok_of_toOption (by decide +kernel)⟩,
    by decide +kernel⟩,
    ⟨eq_ok_of_toOption (by decide +kernel), eq_ok_of_toOption (by decide +kernel)⟩,
    by decide +kernel⟩

end CommandLine

end Transducer
