import Mathlib.Data.Set.List
import Transducer.Proofs.Log.Trace
import Transducer.Proofs.Text.Basic

/-!
# The line of a timing

The end of a stage is told to the log with the name of the stage and the time it took. But the log
puts the stage in force into every line, under the same name. So a timing shows the stage that was
last set, and the stage that it is about only if no other is in force (`timing_stage_iff`).
-/

namespace Transducer.Log

open Document

/-! ## The line of a timing -/

/-- A line tells how long a stage took, while some stage was in force. -/
structure TellsTiming (inForce stage : Text) (seconds : Number.Binary64) (line : Line) :
    Prop where
  level : line.level = .info
  event : line.event = "stage_completed"
  eventField : line.field? "event" = some (.text "stage_completed")
  /-- No field stands twice. -/
  nodup : (line.fields.map Prod.fst).Nodup
  /-- The time is told to the thousandth. -/
  duration : line.field? "duration_seconds" =
    some (.scalar (.float seconds.roundThousandths))
  /-- A stage in force takes the place of the one that is told. -/
  stageField : line.field? "stage" =
    some (.text (if inForce = "" then stage else inForce))

/-- The line of a timing, by the stage that the log remembers. -/
theorem tellsTiming_fields (s : Setup) (stage : Text) (seconds : Number.Binary64) :
    TellsTiming s.stage stage seconds
      ⟨.info, "stage_completed", s.format, s.fields (.timing stage seconds)⟩ := by
  have hlookup : ∀ {name}, name ∉ reserved → Line.field?
      ⟨.info, "stage_completed", s.format, s.fields (.timing stage seconds)⟩ name = _ :=
    s.lookup_fields (.timing stage seconds)
  refine ⟨rfl, rfl, ?_, s.nodup_fields _, ?_, ?_⟩
  · rw [hlookup (by decide)]
    simp [Event.timing]
  · rw [hlookup (by decide)]
    simp [Event.timing, Event.passed, decoded]
  · rw [hlookup (by decide)]
    by_cases hstage : s.stage = ""
    · simp [hstage, Event.timing, Event.passed, List.lookup_cons, decoded, Value.text]
    · simp [hstage]

/-- The line of a timing can be written. -/
theorem isWritable_timing (s : Setup) (stage : Text) (seconds : Number.Binary64) :
    Line.isWritable s.room
      ⟨.info, "stage_completed", s.format, s.fields (.timing stage seconds)⟩ = true := by
  refine List.all_eq_true.2 (fits_fields s (List.forall_mem_cons.2 ⟨fits_text _, ?_⟩))
  have hshort : isShort (.float seconds.roundThousandths) = true := rfl
  exact List.forall_mem_singleton.2 (by rwa [fits])

/-- A logger takes a timing. -/
theorem isPassable_timing (stage : Text) (seconds : Number.Binary64) :
    (Event.timing stage seconds).isPassable = true := by
  simp [Event.isPassable, Event.timing, parameters]

/-- A timing is written behind the lines of the calls before it, with the stage in force. -/
theorem lines_concat_timing (s : Setup) (h : s.threshold.severity ≤ Level.info.severity)
    (calls : List Call) (stage : Text) (seconds : Number.Binary64) :
    ∃ line, s.lines ((calls ++ [Call.log (.timing stage seconds)]).map Call.entry) =
        s.lines (calls.map Call.entry) ++ [line] ∧
      TellsTiming (lastSet Call.stage? s.stage calls) stage seconds line := by
  have hwritable := isWritable_timing (s.afterCalls calls) stage seconds
  refine ⟨_, ?_, tellsTiming_fields (s.afterCalls calls) stage seconds⟩
  have hline : (s.afterCalls calls).line? (.timing stage seconds) =
      some ⟨.info, "stage_completed", (s.afterCalls calls).format,
        (s.afterCalls calls).fields (.timing stage seconds)⟩ :=
    if_pos (Bool.and_eq_true_iff.2 ⟨Bool.and_eq_true_iff.2 ⟨decide_eq_true h,
      isPassable_timing stage seconds⟩, hwritable⟩)
  rw [List.map_append, lines_append, foldl_after]
  show _ ++ (((s.afterCalls calls).line? _).toList ++ []) = _
  rw [hline]
  rfl

/-- A timing shows its own stage exactly if no other one is in force. -/
theorem TellsTiming.stage_iff {inForce stage : Text} {seconds : Number.Binary64} {line : Line}
    (h : TellsTiming inForce stage seconds line) :
    line.field? "stage" = some (.text stage) ↔ inForce = "" ∨ inForce = stage := by
  rw [h.stageField]
  by_cases hinForce : inForce = ""
  · simp [hinForce]
  · simp [hinForce]

/-- At a level that lets news through, a timing is written as one line behind the others. It shows
the stage that was last set, so that it shows the stage it was told exactly if that is the stage
last set, or none is in force. -/
theorem timing_stage_iff (s : Setup) {level : Text} {threshold : Level}
    (hlevel : Chooses level threshold) (hinfo : threshold.severity ≤ Level.info.severity)
    (format : Text) (calls : List Call) (stage : Text) (seconds : Number.Binary64) :
    ∃ line, (s.after (.configure level format)).lines
        ((calls ++ [Call.log (.timing stage seconds)]).map Call.entry) =
        (s.after (.configure level format)).lines (calls.map Call.entry) ++ [line] ∧
      TellsTiming (lastSet Call.stage? s.stage calls) stage seconds line ∧
      (line.field? "stage" = some (.text stage) ↔
        lastSet Call.stage? s.stage calls = "" ∨ lastSet Call.stage? s.stage calls = stage) := by
  rw [after_configure, (chooses_iff level threshold).1 hlevel]
  obtain ⟨line, hlines, htells⟩ :=
    lines_concat_timing { s with threshold := threshold, format := format } hinfo calls stage
      seconds
  exact ⟨line, hlines, htells, htells.stage_iff⟩

/-- A log that has just been told to write news as JSON. -/
def newsLog : Setup := ({} : Setup).after (.configure "info" "json")

/-- Such a log writes news. -/
theorem threshold_newsLog : newsLog.threshold = .info := by
  have hlevel : Level.ofName "info" = .info := by decide
  rw [newsLog, after_configure, hlevel]

/-- The timing of a stage that was set last, after another one, shows that stage. -/
theorem timing_stage_parse :
    Chooses "info" .info ∧ Level.info.severity ≤ Level.info.severity ∧
      ∃ line, newsLog.lines ([Call.stage "write", .correlation "r", .stage "parse",
          .log (.timing "parse" (.ofRatio false 1 4))].map Call.entry) = [line] ∧
        line.field? "stage" = some (.text "parse") := by
  have hlevel : Chooses "info" .info := (chooses_iff _ _).2 (by decide)
  obtain ⟨line, hlines, -, hstage⟩ := timing_stage_iff {} hlevel (Nat.le_refl _) "json"
    [.stage "write", .correlation "r", .stage "parse"] "parse" (.ofRatio false 1 4)
  rw [← newsLog] at hlines
  generalize newsLog = s at hlines ⊢
  exact ⟨hlevel, Nat.le_refl _, line, hlines, hstage.2 (.inr rfl)⟩

/-- The timing of a build that is told while its files are written does not show the build. -/
theorem timing_hides_build :
    ∃ line, newsLog.lines ([Call.stage "write",
        .log (.timing "build" (.ofRatio false 1 4))].map Call.entry) = [line] ∧
      line.event = "stage_completed" ∧ line.field? "stage" = some (.text "write") ∧
      line.field? "stage" ≠ some (.text "build") := by
  have hthreshold := threshold_newsLog
  generalize newsLog = s at hthreshold ⊢
  obtain ⟨line, hlines, htells⟩ := lines_concat_timing s (hthreshold ▸ Nat.le_refl _)
    [.stage "write"] "build" (.ofRatio false 1 4)
  have hwrite : lastSet Call.stage? s.stage [.stage "write"] = "write" := rfl
  rw [hwrite] at htells
  refine ⟨line, hlines, htells.event, htells.stageField, ?_⟩
  rw [ne_eq, htells.stage_iff]
  decide

/-! ## Entries that are calls -/

/-- An entry is an event. -/
def Entry.IsEvent (entry : Entry) : Prop := ∃ e, entry = .event e

/-- An entry is a call, which leaves the configuration of the log alone. -/
def Entry.IsCall (entry : Entry) : Prop := ∃ call : Call, call.entry = entry

/-- What a call tells the log is a call. -/
theorem Call.isCall (call : Call) : ∀ entry ∈ [call.entry], entry.IsCall := by
  intro entry hentry
  obtain rfl := List.mem_singleton.1 hentry
  exact ⟨call, rfl⟩

/-- An event is a call. -/
theorem Entry.IsEvent.isCall {entry : Entry} (h : entry.IsEvent) : entry.IsCall := by
  obtain ⟨e, rfl⟩ := h
  exact ⟨.log e, rfl⟩

/-- Entries that are calls come from calls. -/
theorem exists_calls {entries : List Entry} (h : ∀ entry ∈ entries, entry.IsCall) :
    ∃ calls : List Call, calls.map Call.entry = entries := by
  have hrange : entries ∈ Set.range (List.map Call.entry) := by
    rw [Set.range_list_map]
    exact h
  exact hrange

/-- What further calls set last is in force, or else what the calls before them set. -/
theorem lastSet_append (get : Call → Option Text) (before : Text) (first second : List Call) :
    lastSet get before (first ++ second) = lastSet get (lastSet get before first) second := by
  unfold lastSet
  rw [List.filterMap_append, List.getLast?_append]
  cases (second.filterMap get).getLast? with
  | none => rfl
  | some name => rfl

/-- Calls that are events do not set a stage. -/
theorem lastSet_of_isEvent {calls : List Call} (h : ∀ call ∈ calls, call.entry.IsEvent)
    (before : Text) : lastSet Call.stage? before calls = before := by
  have hnone : calls.filterMap Call.stage? = [] := by
    rw [List.filterMap_eq_nil_iff]
    intro call hcall
    obtain ⟨e, he⟩ := h call hcall
    cases call with
    | log e => rfl
    | stage name => cases he
    | correlation id => cases he
    | identify id => cases he
  rw [lastSet, hnone]
  rfl

end Transducer.Log
