import Mathlib.Data.List.Forall2
import Transducer.Machine.Decode
import Transducer.Proofs.Outcome

/-!
# What a decoder reads

A decoder that succeeds has read a value that the document holds, and a decoder that finds the value
succeeds. `Reads` and `ReadsList` say where a value stands in a document: under a key, and in a list
item by item. `Decode.moore_eq_ok_iff` and `Decode.mealy_eq_ok_iff` put the decoders of whole
machines in these words, and `FieldIs` and `ListOf` are the same without the value that is read.
-/

namespace Transducer

open Document

namespace Document.Data

variable {α : Type}

/-- The value of a key of a mapping. -/
def field? (key : String) (d : Data) : Option Data := d.entries?.bind (lookup? key)

/-- The data is the text `s`. -/
def ReadsText (d : Data) (s : Text) : Prop := d.text? = some s

/-- The data is a list, and its items are read as `xs`, in order. -/
def ReadsList (read : Data → α → Prop) (d : Data) (xs : List α) : Prop :=
  ∃ items, d.items? = some items ∧ List.Forall₂ read items xs

/-- The data is a mapping, and what it has under the key is read as `x`. -/
def Reads (key : String) (read : Data → α → Prop) (d : Data) (x : α) : Prop :=
  ∃ v, d.field? key = some v ∧ read v x

/-- The data is a text. -/
def IsText (d : Data) : Prop := ∃ s, d.text? = some s

/-- The data is a list of items of a shape. -/
def ListOf (shape : Data → Prop) (d : Data) : Prop :=
  ∃ items, d.items? = some items ∧ ∀ item ∈ items, shape item

/-- The data is a mapping with a value of a shape under the key. -/
def FieldIs (key : String) (shape : Data → Prop) (d : Data) : Prop :=
  ∃ v, d.field? key = some v ∧ shape v

/-- Items of a shape can be read one by one. -/
theorem forall_shape_iff {shape : Data → Prop} {read : Data → α → Prop}
    (h : ∀ d, shape d ↔ ∃ x, read d x) (items : List Data) :
    (∀ item ∈ items, shape item) ↔ ∃ xs, List.Forall₂ read items xs := by
  induction items with
  | nil => simp
  | cons item rest ih =>
    rw [List.forall_mem_cons, ih, h]
    constructor
    · rintro ⟨⟨x, hx⟩, xs, hxs⟩
      exact ⟨x :: xs, .cons hx hxs⟩
    · rintro ⟨_, hxs⟩
      obtain ⟨x, xs, hx, hxs, -⟩ := List.forall₂_cons_left_iff.1 hxs
      exact ⟨⟨x, hx⟩, xs, hxs⟩

/-- A list of a shape is a list that can be read. -/
theorem listOf_iff {shape : Data → Prop} {read : Data → α → Prop}
    (h : ∀ d, shape d ↔ ∃ x, read d x) (d : Data) :
    ListOf shape d ↔ ∃ xs, d.ReadsList read xs := by
  unfold ListOf ReadsList
  simp only [forall_shape_iff h]
  rw [exists_comm]
  simp only [exists_and_left]

/-- A field of a shape is a field that can be read. -/
theorem fieldIs_iff {shape : Data → Prop} {read : Data → α → Prop}
    (h : ∀ d, shape d ↔ ∃ x, read d x) (key : String) (d : Data) :
    FieldIs key shape d ↔ ∃ x, d.Reads key read x := by
  unfold FieldIs Reads
  simp only [h]
  rw [exists_comm]
  simp only [exists_and_left]

end Document.Data

open Document.Data

/-- The names of a signature stand in the document under their keys. -/
structure Signature.ReadFrom (d : Data) (s : Signature) : Prop where
  states : d.Reads "states" (ReadsList ReadsText) s.states
  inputs : d.Reads "input_alphabet" (ReadsList ReadsText) s.inputs
  outputs : d.Reads "output_alphabet" (ReadsList ReadsText) s.outputs
  start : d.Reads "start_state" ReadsText s.start
  ends : d.Reads "end_states" (ReadsList ReadsText) s.ends

/-- The parts of a Moore transition stand in the record under their keys. -/
structure MooreTransition.ReadFrom (d : Data) (t : MooreTransition) : Prop where
  source : d.Reads "current_state" ReadsText t.source
  guard : d.Reads "read_symbol" (ReadsList ReadsText) t.guard
  target : d.Reads "new_state" ReadsText t.target

/-- The parts of a Mealy transition stand in the record under their keys. -/
structure MealyTransition.ReadFrom (d : Data) (t : MealyTransition) : Prop where
  source : d.Reads "current_state" ReadsText t.source
  guard : d.Reads "read_symbol" (ReadsList ReadsText) t.guard
  target : d.Reads "new_state" ReadsText t.target
  output : d.Reads "output_symbol" ReadsText t.output

/-- The parts of an output rule stand in the record under their keys. -/
structure OutputRule.ReadFrom (d : Data) (r : OutputRule) : Prop where
  state : d.Reads "current_state" ReadsText r.state
  output : d.Reads "output_symbol" ReadsText r.output

/-- A Moore machine stands in the document, field by field and in order. -/
structure Moore.ReadFrom (d : Data) (m : Moore) : Prop where
  signature : m.toSignature.ReadFrom d
  transitions : d.Reads "transitions" (ReadsList MooreTransition.ReadFrom) m.transitions
  outputRules : d.Reads "output_function" (ReadsList OutputRule.ReadFrom) m.outputRules

/-- A Mealy machine stands in the document, field by field and in order. -/
structure Mealy.ReadFrom (d : Data) (m : Mealy) : Prop where
  signature : m.toSignature.ReadFrom d
  transitions : d.Reads "transitions" (ReadsList MealyTransition.ReadFrom) m.transitions

namespace Decode

open Outcome (bind_eq_ok_iff)

variable {α : Type}

/-- A field is found exactly when the mapping has it. -/
theorem field_eq_ok_iff (key : String) (d v : Data) :
    field key d = .ok v ↔ d.field? key = some v := by
  unfold field Data.field?
  cases d.entries? with
  | none => simp
  | some entries =>
    rw [Option.bind_some]
    dsimp only
    cases lookup? key entries with
    | none => simp
    | some value => simp

/-- A text is decoded exactly when the field is one. -/
theorem text_eq_ok_iff (key : String) (d : Data) (s : Text) :
    text key d = .ok s ↔ d.Reads key ReadsText s := by
  unfold text Data.Reads ReadsText
  rw [bind_eq_ok_iff]
  refine exists_congr fun v => and_congr (field_eq_ok_iff key d v) ?_
  cases v.text? with
  | none => simp
  | some t => simp

/-- Items are decoded exactly when the field is a list. -/
theorem items_eq_ok_iff (key : String) (d : Data) (items : List Data) :
    Decode.items key d = .ok items ↔ ∃ v, d.field? key = some v ∧ v.items? = some items := by
  unfold Decode.items
  rw [bind_eq_ok_iff]
  refine exists_congr fun v => and_congr (field_eq_ok_iff key d v) ?_
  cases v.items? with
  | none => simp
  | some items' => simp

/-- Items are decoded as texts exactly when each of them is one. -/
theorem textsOf_eq_ok_iff (key : String) (items : List Data) (texts : List Text) :
    textsOf key items = .ok texts ↔ List.Forall₂ ReadsText items texts := by
  induction items generalizing texts with
  | nil => cases texts <;> simp [textsOf]
  | cons item rest ih =>
    unfold textsOf
    rw [List.forall₂_cons_left_iff]
    cases h : item.text? with
    | none => simp [ReadsText, h]
    | some s =>
      dsimp only
      rw [bind_eq_ok_iff]
      simp only [ih, ReadsText, h, pure, Except.pure, Except.ok.injEq, Option.some.injEq]
      constructor
      · rintro ⟨ts, hts, rfl⟩
        exact ⟨s, ts, rfl, hts, rfl⟩
      · rintro ⟨_, ts, rfl, hts, rfl⟩
        exact ⟨ts, hts, rfl⟩

/-- Items are decoded exactly when each of them is. -/
theorem each_eq_ok_iff (read : Data → Except DecodeError α) (items : List Data) (xs : List α) :
    each read items = .ok xs ↔ List.Forall₂ (fun item x => read item = .ok x) items xs := by
  induction items generalizing xs with
  | nil => cases xs <;> simp [each]
  | cons item rest ih =>
    unfold each
    rw [List.forall₂_cons_left_iff, bind_eq_ok_iff]
    refine exists_congr fun x => ?_
    rw [bind_eq_ok_iff]
    simp only [ih, pure, Except.pure, Except.ok.injEq]
    constructor
    · rintro ⟨hx, ts, hts, rfl⟩
      exact ⟨ts, hx, hts, rfl⟩
    · rintro ⟨ts, hx, hts, rfl⟩
      exact ⟨hx, ts, hts, rfl⟩

/-- The texts of a field are decoded exactly when it is a list of texts. -/
theorem texts_eq_ok_iff (key : String) (d : Data) (texts : List Text) :
    Decode.texts key d = .ok texts ↔ d.Reads key (ReadsList ReadsText) texts := by
  unfold Decode.texts Data.Reads ReadsList
  rw [bind_eq_ok_iff]
  simp only [items_eq_ok_iff, textsOf_eq_ok_iff]
  constructor
  · rintro ⟨items, ⟨v, hv, hitems⟩, hts⟩
    exact ⟨v, hv, items, hitems, hts⟩
  · rintro ⟨v, hv, items, hitems, hts⟩
    exact ⟨items, ⟨v, hv, hitems⟩, hts⟩

/-- The records of a field are decoded exactly when it is a list and each of them is decoded. -/
theorem records_eq_ok_iff {read : Data → Except DecodeError α} {reads : Data → α → Prop}
    (h : ∀ r x, read r = .ok x ↔ reads r x) (key : String) (d : Data) (xs : List α) :
    (Decode.items key d >>= each read) = .ok xs ↔ d.Reads key (ReadsList reads) xs := by
  unfold Data.Reads ReadsList
  rw [bind_eq_ok_iff]
  simp only [items_eq_ok_iff, each_eq_ok_iff, h]
  constructor
  · rintro ⟨items, ⟨v, hv, hitems⟩, hxs⟩
    exact ⟨v, hv, items, hitems, hxs⟩
  · rintro ⟨v, hv, items, hitems, hxs⟩
    exact ⟨items, ⟨v, hv, hitems⟩, hxs⟩

/-- A Moore transition is decoded exactly when the record holds it. -/
theorem mooreTransition_eq_ok_iff (d : Data) (t : MooreTransition) :
    mooreTransition d = .ok t ↔ t.ReadFrom d := by
  unfold mooreTransition
  simp only [bind_eq_ok_iff, text_eq_ok_iff, texts_eq_ok_iff, pure, Except.pure, Except.ok.injEq]
  constructor
  · rintro ⟨source, hs, guard, hg, target, ht, rfl⟩
    exact ⟨hs, hg, ht⟩
  · rintro ⟨hs, hg, ht⟩
    exact ⟨_, hs, _, hg, _, ht, rfl⟩

/-- A Mealy transition is decoded exactly when the record holds it. -/
theorem mealyTransition_eq_ok_iff (d : Data) (t : MealyTransition) :
    mealyTransition d = .ok t ↔ t.ReadFrom d := by
  unfold mealyTransition
  simp only [bind_eq_ok_iff, text_eq_ok_iff, texts_eq_ok_iff, pure, Except.pure, Except.ok.injEq]
  constructor
  · rintro ⟨source, hs, guard, hg, target, ht, output, ho, rfl⟩
    exact ⟨hs, hg, ht, ho⟩
  · rintro ⟨hs, hg, ht, ho⟩
    exact ⟨_, hs, _, hg, _, ht, _, ho, rfl⟩

/-- An output rule is decoded exactly when the record holds it. -/
theorem outputRule_eq_ok_iff (d : Data) (r : OutputRule) :
    outputRule d = .ok r ↔ r.ReadFrom d := by
  unfold outputRule
  simp only [bind_eq_ok_iff, text_eq_ok_iff, pure, Except.pure, Except.ok.injEq]
  constructor
  · rintro ⟨state, hs, output, ho, rfl⟩
    exact ⟨hs, ho⟩
  · rintro ⟨hs, ho⟩
    exact ⟨_, hs, _, ho, rfl⟩

/-- A Moore machine is decoded exactly when the document holds it. -/
theorem moore_eq_ok_iff (d : Data) (m : Moore) : Decode.moore d = .ok m ↔ m.ReadFrom d := by
  have htr := records_eq_ok_iff mooreTransition_eq_ok_iff "transitions" d
  have hor := records_eq_ok_iff outputRule_eq_ok_iff "output_function" d
  simp only [bind_eq_ok_iff] at htr hor
  unfold Decode.moore
  simp only [bind_eq_ok_iff, text_eq_ok_iff, texts_eq_ok_iff, pure, Except.pure, Except.ok.injEq]
  constructor
  · rintro ⟨states, hs, inputs, hi, outputs, ho, ts, hts, transitions, ht, rs, hrs, rules, hr,
      start, hq, ends, he, rfl⟩
    exact ⟨⟨hs, hi, ho, hq, he⟩, (htr _).1 ⟨ts, hts, ht⟩, (hor _).1 ⟨rs, hrs, hr⟩⟩
  · rintro ⟨⟨hs, hi, ho, hq, he⟩, ht, hr⟩
    obtain ⟨ts, hts, ht⟩ := (htr _).2 ht
    obtain ⟨rs, hrs, hr⟩ := (hor _).2 hr
    exact ⟨_, hs, _, hi, _, ho, ts, hts, _, ht, rs, hrs, _, hr, _, hq, _, he, rfl⟩

/-- A Mealy machine is decoded exactly when the document holds it. -/
theorem mealy_eq_ok_iff (d : Data) (m : Mealy) : Decode.mealy d = .ok m ↔ m.ReadFrom d := by
  have htr := records_eq_ok_iff mealyTransition_eq_ok_iff "transitions" d
  simp only [bind_eq_ok_iff] at htr
  unfold Decode.mealy
  simp only [bind_eq_ok_iff, text_eq_ok_iff, texts_eq_ok_iff, pure, Except.pure, Except.ok.injEq]
  constructor
  · rintro ⟨states, hs, inputs, hi, outputs, ho, ts, hts, transitions, ht, start, hq, ends, he, rfl⟩
    exact ⟨⟨hs, hi, ho, hq, he⟩, (htr _).1 ⟨ts, hts, ht⟩⟩
  · rintro ⟨⟨hs, hi, ho, hq, he⟩, ht⟩
    obtain ⟨ts, hts, ht⟩ := (htr _).2 ht
    exact ⟨_, hs, _, hi, _, ho, ts, hts, _, ht, _, hq, _, he, rfl⟩

end Decode

end Transducer
