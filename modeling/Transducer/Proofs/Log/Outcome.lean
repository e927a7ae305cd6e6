import Transducer.Log.Logged

/-!
# What a stage ends with

The outcome of a stage is its value or its error, without what it told the log on the way. It goes
through the steps of a stage like an `Except` goes through its own, and telling the log leaves it
alone. What the log is told by two stages in a row is what both told it, unless the first ends with
an error.
-/

namespace Transducer.Log

/-- The value or the error that a stage ends with. -/
def Stage.outcome {ε α : Type} (stage : Stage ε α) : Except ε α := (ExceptT.run stage).value

/-- What a stage told the log, in order. -/
def Stage.told {ε α : Type} (stage : Stage ε α) : List Entry := (ExceptT.run stage).entries

/-- The value of two steps in a row is that of the second, which has that of the first. -/
theorem Logged.value_bind {α β : Type} (x : Logged α) (f : α → Logged β) :
    (x >>= f).value = (f x.value).value := rfl

/-- Two steps in a row tell the log what each of them does. -/
theorem Logged.entries_bind {α β : Type} (x : Logged α) (f : α → Logged β) :
    (x >>= f).entries = x.entries ++ (f x.value).entries := rfl

namespace Stage

variable {ε α β : Type}

/-- A stage that gives a value ends with it. -/
@[simp]
theorem outcome_pure (a : α) : (pure a : Stage ε α).outcome = .ok a := rfl

/-- A stage that throws an error ends with it. -/
@[simp]
theorem outcome_throw (e : ε) : (throw e : Stage ε α).outcome = .error e := rfl

/-- Telling the log an event never fails. -/
@[simp]
theorem outcome_event (level : Level) (logger name : Text)
    (fields : List (Text × Document.Value)) :
    (liftM (event level logger name fields) : Stage ε Unit).outcome = .ok () := rfl

/-- Two stages in a row end like the second, unless the first ends with an error. -/
@[simp]
theorem outcome_bind (stage : Stage ε α) (next : α → Stage ε β) :
    (stage >>= next).outcome = stage.outcome.bind fun a => (next a).outcome := by
  obtain ⟨entries, value⟩ := stage
  cases value with
  | error e => rfl
  | ok a => rfl

/-- Telling the log anything never fails. -/
@[simp]
theorem outcome_tell (entry : Entry) :
    (liftM (tell entry) : Stage ε Unit).outcome = .ok () := rfl

/-- A stage whose errors are seen in another way. -/
@[simp]
theorem outcome_adapt {ε' : Type} (f : ε → ε') (stage : Stage ε α) :
    Stage.outcome (ExceptT.adapt f stage) = stage.outcome.mapError f := by
  obtain ⟨entries, value⟩ := stage
  cases value with
  | error e => rfl
  | ok a => rfl

/-- A stage that gives a value at once tells the log nothing. -/
@[simp]
theorem told_pure (a : α) : (pure a : Stage ε α).told = [] := rfl

/-- A stage that throws an error at once tells the log nothing. -/
@[simp]
theorem told_throw (e : ε) : (throw e : Stage ε α).told = [] := rfl

/-- An event is told to the log. -/
@[simp]
theorem told_event (level : Level) (logger name : Text)
    (fields : List (Text × Document.Value)) :
    (liftM (event level logger name fields) : Stage ε Unit).told =
      [.event ⟨level, logger, name, fields⟩] := rfl

/-- The second of two stages tells the log its own after that of the first, unless the first ends
with an error. -/
@[simp]
theorem told_bind (stage : Stage ε α) (next : α → Stage ε β) :
    (stage >>= next).told = stage.told ++
      match stage.outcome with
      | .ok a => (next a).told
      | .error _ => [] := by
  obtain ⟨entries, value⟩ := stage
  cases value with
  | error e => rfl
  | ok a => rfl

/-- Everything that two stages in a row tell the log has a property if it has it for both. -/
theorem forall_told_bind {P : Entry → Prop} {stage : Stage ε α} {next : α → Stage ε β}
    (hstage : ∀ entry ∈ stage.told, P entry) (hnext : ∀ a, ∀ entry ∈ (next a).told, P entry) :
    ∀ entry ∈ (stage >>= next).told, P entry := by
  rw [told_bind, List.forall_mem_append]
  refine ⟨hstage, ?_⟩
  cases stage.outcome with
  | ok a => exact hnext a
  | error e => simp

/-- A stage tells the log the same however its errors are seen. -/
@[simp]
theorem told_adapt {ε' : Type} (f : ε → ε') (stage : Stage ε α) :
    Stage.told (ExceptT.adapt f stage) = stage.told := by
  obtain ⟨entries, value⟩ := stage
  cases value with
  | error e => exact List.append_nil entries
  | ok a => exact List.append_nil entries

end Stage

end Transducer.Log
