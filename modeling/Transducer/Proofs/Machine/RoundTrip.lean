import Transducer.Machine.Encode
import Transducer.Proofs.Machine.Verdict

/-!
# Machines written and read again

The document of a machine holds the machine, so the decoder of its kind gives it back
(`moore_readFrom`, `mealy_readFrom`). Whether it is read as that machine depends on the other
decoder too, since the kind is told from the shape of the document alone. A Mealy machine has no
output function, and a transition of a Moore machine has no output; but a Moore machine without
transitions has an output on each of them, and its document is ambiguous (`ofData_toValue`).
-/

namespace Transducer

open Document Document.Data Log

namespace Document

/-- The value of a key of a record. -/
theorem field?_record (key : String) (fields : List (String × Value)) :
    (Value.record fields : Data).field? key = (fields.lookup key).map fun v => (v : Data) := by
  unfold Data.field? Data.entries? Data.opened Value.record
  dsimp only
  rw [Option.bind_some]
  induction fields with
  | nil => rfl
  | cons field rest ih =>
    rw [List.map_cons, List.map_cons, lookup?, List.lookup_cons]
    by_cases h : field.1 = key
    · simp [h, Data.part]
    · have hne : (key == field.1) = false := by simpa using Ne.symm h
      simp only [Scalar.text.injEq, Text.ofString_inj, h, if_false, hne]
      exact ih

/-- What a record has under a key can be read there. -/
theorem reads_record {α : Type} {read : Data → α → Prop} {key : String}
    {fields : List (String × Value)} {v : Value} {x : α} (h : fields.lookup key = some v)
    (hr : read v x) : (Value.record fields : Data).Reads key read x := by
  refine ⟨v, ?_, hr⟩
  rw [field?_record, h]
  rfl

/-- A list of values is read as what its items are read as. -/
theorem readsList_map {α : Type} {read : Data → α → Prop} {toValue : α → Value}
    (h : ∀ x, read (toValue x) x) (xs : List α) :
    ReadsList read (Value.list (xs.map toValue) : Data) xs := by
  refine ⟨xs.map fun x => (toValue x : Data), ?_, ?_⟩
  · unfold Data.items? Data.opened
    dsimp only
    rw [List.map_map]
    rfl
  · rw [List.forall₂_map_left_iff]
    exact List.forall₂_same.2 fun x _ => h x

/-- A list of texts is read as these texts. -/
theorem readsList_texts (texts : List Text) :
    ReadsList ReadsText (Value.texts texts : Data) texts :=
  readsList_map (fun _ => rfl) texts

end Document

/-- The record of a Moore transition holds the transition. -/
theorem MooreTransition.readFrom_toValue (t : MooreTransition) : t.ReadFrom t.toValue where
  source := reads_record rfl rfl
  guard := reads_record rfl (readsList_texts _)
  target := reads_record rfl rfl

/-- The record of a Mealy transition holds the transition. -/
theorem MealyTransition.readFrom_toValue (t : MealyTransition) : t.ReadFrom t.toValue where
  source := reads_record rfl rfl
  guard := reads_record rfl (readsList_texts _)
  target := reads_record rfl rfl
  output := reads_record rfl rfl

/-- The record of an output rule holds the rule. -/
theorem OutputRule.readFrom_toValue (r : OutputRule) : r.ReadFrom r.toValue where
  state := reads_record rfl rfl
  output := reads_record rfl rfl

/-- A record that starts with a kind and the fields of a signature holds the signature. -/
theorem Signature.readFrom_fields (s : Signature) (kind : Value) (more : List (String × Value)) :
    s.ReadFrom (Value.record (("kind", kind) :: (s.fields ++ more))) where
  states := reads_record rfl (readsList_texts _)
  inputs := reads_record rfl (readsList_texts _)
  outputs := reads_record rfl (readsList_texts _)
  start := reads_record rfl rfl
  ends := reads_record rfl (readsList_texts _)

namespace Machine

/-- The document of a Moore machine holds the machine. -/
theorem moore_readFrom (m : Moore) : m.ReadFrom (Machine.moore m).toValue where
  signature := m.toSignature.readFrom_fields _ _
  transitions := reads_record rfl (readsList_map MooreTransition.readFrom_toValue _)
  outputRules := reads_record rfl (readsList_map OutputRule.readFrom_toValue _)

/-- The document of a Mealy machine holds the machine. -/
theorem mealy_readFrom (m : Mealy) : m.ReadFrom (Machine.mealy m).toValue where
  signature := m.toSignature.readFrom_fields _ _
  transitions := reads_record rfl (readsList_map MealyTransition.readFrom_toValue _)

/-- The document of a Mealy machine has no output function. -/
theorem not_outputsShaped_mealy (m : Mealy) : ¬ OutputsShaped (Machine.mealy m).toValue := by
  rintro ⟨v, hv, -⟩
  have hnone : ((Machine.mealy m).toValue : Data).field? "output_function" = none :=
    field?_record "output_function" _
  rw [hnone] at hv
  cases hv

/-- The record of a Moore transition has no output. -/
theorem not_output_toValue (t : MooreTransition) :
    ¬ (t.toValue : Data).FieldIs "output_symbol" IsText := by
  rintro ⟨v, hv, -⟩
  have hnone : (t.toValue : Data).field? "output_symbol" = none :=
    field?_record "output_symbol" _
  rw [hnone] at hv
  cases hv

/-- The transitions of a Moore machine all have an output in its document exactly when there are
none. -/
theorem mealyShaped_moore_iff (m : Moore) :
    MealyShaped (Machine.moore m).toValue ↔ m.transitions = [] := by
  have hfield : ((Machine.moore m).toValue : Data).field? "transitions" =
      some (Value.list (m.transitions.map MooreTransition.toValue)) :=
    field?_record "transitions" _
  have hitems : (Value.list (m.transitions.map MooreTransition.toValue) : Data).items? =
      some (m.transitions.map fun t => (t.toValue : Data)) := by
    unfold Data.items? Data.opened
    dsimp only
    rw [List.map_map]
    rfl
  constructor
  · rintro ⟨v, hv, items, hi, hall⟩
    rw [hfield] at hv
    obtain rfl := Option.some.inj hv
    rw [hitems] at hi
    obtain rfl := Option.some.inj hi
    -- A transition would be a record with an output.
    by_contra hne
    obtain ⟨t, ht⟩ := List.exists_mem_of_ne_nil _ hne
    exact not_output_toValue t (hall _ (List.mem_map_of_mem ht))
  · intro hnil
    refine ⟨_, hfield, _, hitems, ?_⟩
    rw [hnil]
    simp

/-- A Moore machine with transitions is read again as it was written. -/
theorem ofData_moore {m : Moore} (h : m.transitions ≠ []) :
    (ofData (Machine.moore m).toValue).outcome = .ok (.moore m) := by
  have hdecoded := (Decode.moore_eq_ok_iff _ m).2 (moore_readFrom m)
  refine (ofData_eq_moore_iff _ m).2 ⟨hdecoded, ?_⟩
  intro hmealy
  exact h ((mealyShaped_moore_iff m).1 ((exists_mealy_iff _).1 hmealy).2)

/-- The document of a Moore machine without transitions is refused as ambiguous. -/
theorem ofData_moore_of_nil {m : Moore} (h : m.transitions = []) :
    (ofData (Machine.moore m).toValue).outcome = .error (.parse bothMessage) := by
  have hdecoded := (Decode.moore_eq_ok_iff _ m).2 (moore_readFrom m)
  have hbase := ((exists_moore_iff _).1 ⟨m, hdecoded⟩).1
  refine (ofData_eq_both_iff _).2 ⟨⟨m, hdecoded⟩, ?_⟩
  exact (exists_mealy_iff _).2 ⟨hbase, (mealyShaped_moore_iff m).2 h⟩

/-- A Mealy machine is read again as it was written. -/
theorem ofData_mealy (m : Mealy) :
    (ofData (Machine.mealy m).toValue).outcome = .ok (.mealy m) := by
  have hdecoded := (Decode.mealy_eq_ok_iff _ m).2 (mealy_readFrom m)
  refine (ofData_eq_mealy_iff _ m).2 ⟨hdecoded, ?_⟩
  intro hmoore
  exact not_outputsShaped_mealy m ((exists_moore_iff _).1 hmoore).2

/-- A machine that is written and read again is the same machine, unless it is a Moore machine
without transitions: the document of such a machine is refused as ambiguous. -/
theorem ofData_toValue (machine : Machine) :
    (ofData machine.toValue).outcome = match machine with
      | .moore m => if m.transitions = [] then .error (.parse bothMessage) else .ok (.moore m)
      | .mealy m => .ok (.mealy m) := by
  cases machine with
  | moore m =>
    dsimp only
    split
    next hnil => exact ofData_moore_of_nil hnil
    next hne => exact ofData_moore hne
  | mealy m => exact ofData_mealy m

/-- A Moore machine with one state and no transitions is written, but not read again. -/
theorem ofData_toValue_idle :
    (ofData (Machine.moore ⟨⟨["a"], [], ["o"], "a", []⟩, [], [⟨"a", "o"⟩]⟩).toValue).outcome ≠
      .ok (.moore ⟨⟨["a"], [], ["o"], "a", []⟩, [], [⟨"a", "o"⟩]⟩) := by
  rw [ofData_moore_of_nil rfl]
  exact fun h => nomatch h

end Machine

end Transducer
