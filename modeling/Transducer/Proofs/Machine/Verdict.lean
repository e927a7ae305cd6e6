import Transducer.Proofs.Log.Outcome
import Transducer.Proofs.Machine.Pruning
import Transducer.Proofs.Machine.Reading

/-!
# The verdict on a document

A document is judged by three shapes. `BaseShaped` is what machines of both kinds need,
`OutputsShaped` is the output function of a Moore machine, and `MealyShaped` are the outputs on the
transitions of a Mealy machine. The two decoders succeed on the first shape together with the second
or the third, and `ofData_verdict` combines their answers: a document of exactly one of the two
shapes is a machine of that kind, one of both is ambiguous, and any other is refused.
-/

namespace Transducer.Machine

open Document Document.Data Log

/-- A record with the parts that transitions of both kinds have. -/
structure TransitionShaped (d : Data) : Prop where
  source : d.FieldIs "current_state" IsText
  guard : d.FieldIs "read_symbol" (ListOf IsText)
  target : d.FieldIs "new_state" IsText

/-- A record with the parts of an output rule. -/
structure RuleShaped (d : Data) : Prop where
  state : d.FieldIs "current_state" IsText
  output : d.FieldIs "output_symbol" IsText

/-- A mapping with the fields that machines of both kinds have. -/
structure BaseShaped (d : Data) : Prop where
  states : d.FieldIs "states" (ListOf IsText)
  inputs : d.FieldIs "input_alphabet" (ListOf IsText)
  outputs : d.FieldIs "output_alphabet" (ListOf IsText)
  transitions : d.FieldIs "transitions" (ListOf TransitionShaped)
  start : d.FieldIs "start_state" IsText
  ends : d.FieldIs "end_states" (ListOf IsText)

/-- A mapping with an output function. -/
def OutputsShaped (d : Data) : Prop := d.FieldIs "output_function" (ListOf RuleShaped)

/-- A mapping whose transitions all have an output. -/
def MealyShaped (d : Data) : Prop :=
  d.FieldIs "transitions" (ListOf fun r => r.FieldIs "output_symbol" IsText)

/-- A field that is a text can be read. -/
theorem textField_iff (key : String) (d : Data) :
    d.FieldIs key IsText ↔ ∃ s, d.Reads key ReadsText s :=
  fieldIs_iff (fun _ => Iff.rfl) key d

/-- A field that is a list of texts can be read. -/
theorem textsField_iff (key : String) (d : Data) :
    d.FieldIs key (ListOf IsText) ↔ ∃ l, d.Reads key (ReadsList ReadsText) l :=
  fieldIs_iff (listOf_iff fun _ => Iff.rfl) key d

/-- A field that is a list of records of a shape can be read. -/
theorem recordsField_iff {α : Type} {shape : Data → Prop} {read : Data → α → Prop}
    (h : ∀ d, shape d ↔ ∃ x, read d x) (key : String) (d : Data) :
    d.FieldIs key (ListOf shape) ↔ ∃ xs, d.Reads key (ReadsList read) xs :=
  fieldIs_iff (listOf_iff h) key d

/-- A record shaped like a transition holds a Moore transition. -/
theorem transitionShaped_iff (d : Data) :
    TransitionShaped d ↔ ∃ t : MooreTransition, t.ReadFrom d := by
  constructor
  · rintro ⟨hs, hg, ht⟩
    obtain ⟨source, hs⟩ := (textField_iff _ d).1 hs
    obtain ⟨guard, hg⟩ := (textsField_iff _ d).1 hg
    obtain ⟨target, ht⟩ := (textField_iff _ d).1 ht
    exact ⟨⟨source, guard, target⟩, hs, hg, ht⟩
  · rintro ⟨t, hs, hg, ht⟩
    exact ⟨(textField_iff _ d).2 ⟨_, hs⟩, (textsField_iff _ d).2 ⟨_, hg⟩,
      (textField_iff _ d).2 ⟨_, ht⟩⟩

/-- A record shaped like a transition with an output holds a Mealy transition. -/
theorem mealyTransitionShaped_iff (d : Data) :
    (TransitionShaped d ∧ d.FieldIs "output_symbol" IsText) ↔
      ∃ t : MealyTransition, t.ReadFrom d := by
  rw [transitionShaped_iff, textField_iff]
  constructor
  · rintro ⟨⟨t, hs, hg, ht⟩, output, ho⟩
    exact ⟨⟨t.source, t.guard, t.target, output⟩, hs, hg, ht, ho⟩
  · rintro ⟨t, hs, hg, ht, ho⟩
    exact ⟨⟨⟨t.source, t.guard, t.target⟩, hs, hg, ht⟩, t.output, ho⟩

/-- A record shaped like an output rule holds one. -/
theorem ruleShaped_iff (d : Data) : RuleShaped d ↔ ∃ r : OutputRule, r.ReadFrom d := by
  constructor
  · rintro ⟨hs, ho⟩
    obtain ⟨state, hs⟩ := (textField_iff _ d).1 hs
    obtain ⟨output, ho⟩ := (textField_iff _ d).1 ho
    exact ⟨⟨state, output⟩, hs, ho⟩
  · rintro ⟨r, hs, ho⟩
    exact ⟨(textField_iff _ d).2 ⟨_, hs⟩, (textField_iff _ d).2 ⟨_, ho⟩⟩

/-- The fields of a signature have their shapes exactly when a signature can be read. -/
theorem signature_iff (d : Data) :
    (d.FieldIs "states" (ListOf IsText) ∧ d.FieldIs "input_alphabet" (ListOf IsText) ∧
      d.FieldIs "output_alphabet" (ListOf IsText) ∧ d.FieldIs "start_state" IsText ∧
      d.FieldIs "end_states" (ListOf IsText)) ↔ ∃ s : Signature, s.ReadFrom d := by
  simp only [textsField_iff, textField_iff]
  constructor
  · rintro ⟨⟨states, hs⟩, ⟨inputs, hi⟩, ⟨outputs, ho⟩, ⟨start, hq⟩, ⟨ends, he⟩⟩
    exact ⟨⟨states, inputs, outputs, start, ends⟩, hs, hi, ho, hq, he⟩
  · rintro ⟨s, hs, hi, ho, hq, he⟩
    exact ⟨⟨_, hs⟩, ⟨_, hi⟩, ⟨_, ho⟩, ⟨_, hq⟩, ⟨_, he⟩⟩

/-- The base shape, in its two parts. -/
theorem baseShaped_iff (d : Data) :
    BaseShaped d ↔
      (∃ s : Signature, s.ReadFrom d) ∧ d.FieldIs "transitions" (ListOf TransitionShaped) := by
  rw [← signature_iff]
  constructor
  · rintro ⟨hs, hi, ho, ht, hq, he⟩
    exact ⟨⟨hs, hi, ho, hq, he⟩, ht⟩
  · rintro ⟨⟨hs, hi, ho, hq, he⟩, ht⟩
    exact ⟨hs, hi, ho, ht, hq, he⟩

/-- Two shapes of the items of one field are one shape. -/
theorem fieldIs_listOf_and {p q : Data → Prop} (key : String) (d : Data) :
    (d.FieldIs key (ListOf p) ∧ d.FieldIs key (ListOf q)) ↔
      d.FieldIs key (ListOf fun r => p r ∧ q r) := by
  constructor
  · rintro ⟨⟨v, hv, items, hitems, hp⟩, ⟨v', hv', items', hitems', hq⟩⟩
    obtain rfl : v = v' := Option.some.inj (hv.symm.trans hv')
    obtain rfl : items = items' := Option.some.inj (hitems.symm.trans hitems')
    exact ⟨v, hv, items, hitems, fun r hr => ⟨hp r hr, hq r hr⟩⟩
  · rintro ⟨v, hv, items, hitems, h⟩
    exact ⟨⟨v, hv, items, hitems, fun r hr => (h r hr).1⟩,
      ⟨v, hv, items, hitems, fun r hr => (h r hr).2⟩⟩

/-- A document is decoded as a Moore machine exactly when it has the base shape and an output
function. -/
theorem exists_moore_iff (d : Data) :
    (∃ m, Decode.moore d = .ok m) ↔ BaseShaped d ∧ OutputsShaped d := by
  unfold OutputsShaped
  simp only [Decode.moore_eq_ok_iff]
  rw [baseShaped_iff, recordsField_iff transitionShaped_iff, recordsField_iff ruleShaped_iff]
  constructor
  · rintro ⟨m, hs, ht, hr⟩
    exact ⟨⟨⟨_, hs⟩, ⟨_, ht⟩⟩, ⟨_, hr⟩⟩
  · rintro ⟨⟨⟨s, hs⟩, ⟨transitions, ht⟩⟩, ⟨rules, hr⟩⟩
    exact ⟨⟨s, transitions, rules⟩, hs, ht, hr⟩

/-- A document is decoded as a Mealy machine exactly when it has the base shape and all its
transitions have an output. -/
theorem exists_mealy_iff (d : Data) :
    (∃ m, Decode.mealy d = .ok m) ↔ BaseShaped d ∧ MealyShaped d := by
  unfold MealyShaped
  simp only [Decode.mealy_eq_ok_iff]
  -- The transitions are asked for twice, once for each shape, and decoded once.
  rw [baseShaped_iff, and_assoc, fieldIs_listOf_and, recordsField_iff mealyTransitionShaped_iff]
  constructor
  · rintro ⟨m, hs, ht⟩
    exact ⟨⟨_, hs⟩, ⟨_, ht⟩⟩
  · rintro ⟨⟨s, hs⟩, ⟨transitions, ht⟩⟩
    exact ⟨⟨s, transitions⟩, hs, ht⟩

/-- How the answers of the two decoders combine. -/
theorem outcome_ofData (d : Data) :
    (ofData d).outcome = match Decode.moore d, Decode.mealy d with
      | .ok _, .ok _ => .error (.parse bothMessage)
      | .ok m, .error _ => .ok (.moore m)
      | .error _, .ok m => .ok (.mealy m)
      | .error notMoore, .error notMealy =>
        .error (.parse neitherMessage
          (Text.join "; " ["moore: " ++ notMoore.message, "mealy: " ++ notMealy.message])) := by
  unfold ofData
  cases Decode.moore d with
  | error notMoore => cases Decode.mealy d <;> rfl
  | ok m => cases Decode.mealy d <;> rfl

/-- A document is taken for a Moore machine when it is decoded as one and not as a Mealy machine. -/
theorem ofData_eq_moore_iff (d : Data) (m : Moore) :
    (ofData d).outcome = .ok (.moore m) ↔
      Decode.moore d = .ok m ∧ ¬ ∃ y, Decode.mealy d = .ok y := by
  rw [outcome_ofData]
  cases Decode.moore d <;> cases Decode.mealy d <;> simp

/-- A document is taken for a Mealy machine when it is decoded as one and not as a Moore machine. -/
theorem ofData_eq_mealy_iff (d : Data) (y : Mealy) :
    (ofData d).outcome = .ok (.mealy y) ↔
      Decode.mealy d = .ok y ∧ ¬ ∃ m, Decode.moore d = .ok m := by
  rw [outcome_ofData]
  cases Decode.moore d <;> cases Decode.mealy d <;> simp

/-- The two reports differ in their message. -/
theorem bothMessage_ne_neitherMessage : (bothMessage : Text) ≠ neitherMessage := by
  rw [ne_eq, Text.ofString_inj]
  decide

/-- A document is refused as ambiguous when it is decoded as a machine of both kinds. -/
theorem ofData_eq_both_iff (d : Data) :
    (ofData d).outcome = .error (.parse bothMessage) ↔
      (∃ m, Decode.moore d = .ok m) ∧ ∃ y, Decode.mealy d = .ok y := by
  have hmessage := bothMessage_ne_neitherMessage
  rw [outcome_ofData]
  -- Of the two messages, only that they differ counts; their texts are long to compare.
  generalize (bothMessage : Text) = both, (neitherMessage : Text) = neither at hmessage ⊢
  cases Decode.moore d with
  | error notMoore =>
    cases Decode.mealy d with
    | error notMealy =>
      generalize Text.join _ _ = reasons
      simp [hmessage.symm]
    | ok y => simp
  | ok m => cases Decode.mealy d <;> simp

/-- A document is refused as no machine when it is decoded as a machine of neither kind. -/
theorem ofData_eq_neither_iff (d : Data) :
    (∃ details, (ofData d).outcome = .error (.parse neitherMessage details)) ↔
      (¬ ∃ m, Decode.moore d = .ok m) ∧ ¬ ∃ y, Decode.mealy d = .ok y := by
  have hmessage := bothMessage_ne_neitherMessage
  rw [outcome_ofData]
  generalize (bothMessage : Text) = both, (neitherMessage : Text) = neither at hmessage ⊢
  cases Decode.moore d with
  | error notMoore =>
    cases Decode.mealy d with
    | error notMealy =>
      generalize Text.join _ _ = reasons
      simp
    | ok y => simp
  | ok m => cases Decode.mealy d <;> simp [hmessage]

/-- A document is a Moore machine if it has the base shape and an output function but not an output
on every transition, and a Mealy machine if it is the other way round. It is refused as ambiguous if
it has all three shapes, and as no machine otherwise. The machine stands in the document field by
field and in order, and keys that no field has are of no influence, wherever they stand. -/
theorem ofData_verdict (d : Data) :
    ((∃ m, (ofData d).outcome = .ok (.moore m)) ↔
      BaseShaped d ∧ OutputsShaped d ∧ ¬ MealyShaped d) ∧
    ((∃ m, (ofData d).outcome = .ok (.mealy m)) ↔
      BaseShaped d ∧ MealyShaped d ∧ ¬ OutputsShaped d) ∧
    ((ofData d).outcome = .error (.parse bothMessage) ↔
      BaseShaped d ∧ OutputsShaped d ∧ MealyShaped d) ∧
    ((∃ details, (ofData d).outcome = .error (.parse neitherMessage details)) ↔
      ¬ BaseShaped d ∨ ¬ OutputsShaped d ∧ ¬ MealyShaped d) ∧
    (∀ m, (ofData d).outcome = .ok (.moore m) → m.ReadFrom d) ∧
    (∀ m, (ofData d).outcome = .ok (.mealy m) → m.ReadFrom d) ∧
    ofData (pruned d) = ofData d := by
  refine ⟨?_, ?_, ?_, ?_, ?_, ?_, ofData_pruned d⟩
  · simp only [ofData_eq_moore_iff, exists_and_right]
    rw [exists_moore_iff, exists_mealy_iff]
    tauto
  · simp only [ofData_eq_mealy_iff, exists_and_right]
    rw [exists_moore_iff, exists_mealy_iff]
    tauto
  · rw [ofData_eq_both_iff, exists_moore_iff, exists_mealy_iff]
    tauto
  · rw [ofData_eq_neither_iff, exists_moore_iff, exists_mealy_iff]
    tauto
  · intro m h
    exact (Decode.moore_eq_ok_iff d m).1 ((ofData_eq_moore_iff d m).1 h).1
  · intro m h
    exact (Decode.mealy_eq_ok_iff d m).1 ((ofData_eq_mealy_iff d m).1 h).1

end Transducer.Machine
