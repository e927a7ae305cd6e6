import Transducer.Proofs.Code.ReadBack
import Transducer.Proofs.Machine.Run

/-!
# What the generated code tells about a machine

The code of a machine is read back as its header and its source (`ofText?_header`,
`ofText?_source`), and these hold the states, the signals, the first state and the case of every
state. So two machines have the same code only if they agree in all of these, and they have the same
code if they do: the end states, the rules after the first one of a state, the order among the
transitions of different states and whatever belongs to an undeclared state leave no trace.
-/

namespace Transducer.Code

open Log

/-- Two machines agree in what their code tells. -/
structure Agree (m₁ m₂ : Moore) : Prop where
  states : m₁.states = m₂.states
  inputs : m₁.inputs = m₂.inputs
  outputs : m₁.outputs = m₂.outputs
  start : m₁.start = m₂.start
  /-- Every state has the same output, or none in both. -/
  output : ∀ state ∈ m₁.states,
    (OutputRule.select? state m₁.outputRules).map OutputRule.output =
      (OutputRule.select? state m₂.outputRules).map OutputRule.output
  /-- Every state has the same transitions in the same order. -/
  transitions : ∀ state ∈ m₁.states,
    (MooreTransition.select state m₁.transitions).map (fun t => (t.guard, t.target)) =
      (MooreTransition.select state m₂.transitions).map fun t => (t.guard, t.target)

variable {name : Text} {m₁ m₂ : Moore}

/-! ## From the code to the machine -/

/-- The fields of a structure tell the signals, unless one of them has the name of the field of an
empty structure. -/
theorem fieldsOf_inj {a b : List Text} (ha : unusedField ∉ a) (hb : unusedField ∉ b)
    (h : fieldsOf a = fieldsOf b) : a = b := by
  cases a with
  | nil =>
    cases b with
    | nil => rfl
    | cons symbol rest =>
      obtain ⟨rfl, -⟩ := List.cons.inj (show unusedField :: [] = symbol :: rest from h)
      exact absurd List.mem_cons_self hb
  | cons symbol rest =>
    cases b with
    | nil =>
      obtain ⟨rfl, -⟩ := List.cons.inj (show symbol :: rest = unusedField :: [] from h)
      exact absurd List.mem_cons_self ha
    | cons symbol' rest' => exact h

/-- The condition of a transition tells its inputs. -/
theorem conditionOf_inj {a b : List Text} (h : conditionOf a = conditionOf b) : a = b := by
  cases a with
  | nil =>
    cases b with
    | nil => rfl
    | cons symbol rest => simp [conditionOf] at h
  | cons symbol rest =>
    cases b with
    | nil => simp [conditionOf] at h
    | cons symbol' rest' =>
      simp only [conditionOf, C.Condition.mk.injEq, C.Atom.input.injEq] at h
      have hrest : rest = rest' := (List.map_inj_right fun _ _ hab => C.Atom.input.inj hab).1 h.2
      rw [h.1, hrest]

/-- The branch of the code tells the transition. -/
theorem branchOf_inj {a b : Branch} (h : branchOf a = branchOf b) : a = b := by
  obtain ⟨guard, target⟩ := a
  obtain ⟨guard', target'⟩ := b
  simp only [branchOf, C.Branch.mk.injEq, List.cons.injEq, C.Assignment.state.injEq,
    and_true] at h
  rw [conditionOf_inj h.1, h.2]

/-- The items before a `break` tell the transitions. -/
theorem choiceItems_append_inj {a b : List Branch} {r s : List C.Item}
    (h : choiceItems a ++ .exit :: r = choiceItems b ++ .exit :: s) : a = b ∧ r = s := by
  cases a with
  | nil =>
    cases b with
    | nil => simpa [choiceItems] using h
    | cons first rest => simp [choiceItems] at h
  | cons first rest =>
    cases b with
    | nil => simp [choiceItems] at h
    | cons first' rest' =>
      simp only [choiceItems, List.singleton_append, List.cons.injEq, C.Item.choice.injEq,
        true_and] at h
      obtain ⟨⟨hfirst, hrest⟩, hr⟩ := h
      have hmap := (List.map_inj_right fun _ _ hab => branchOf_inj hab).1 hrest
      rw [branchOf_inj hfirst, hmap, hr]
      exact ⟨rfl, rfl⟩

/-- The items after a label tell the output and the transitions. -/
theorem caseItems_append_inj {c d : Case} {r s : List C.Item}
    (h : caseItems c ++ r = caseItems d ++ s) : c = d ∧ r = s := by
  obtain ⟨state, output, branches⟩ := c
  obtain ⟨state', output', branches'⟩ := d
  simp only [caseItems, bodyItems, List.cons_append, List.append_assoc, List.cons.injEq,
    C.Item.label.injEq] at h
  obtain ⟨rfl, h⟩ := h
  -- What follows the output is a choice or a `break`, so an assignment belongs to the output.
  have hhead (bs : List Branch) (a : C.Assignment) (xs ys : List C.Item) :
      choiceItems bs ++ .exit :: xs ≠ .assign a :: ys := by
    cases bs with
    | nil => simp [choiceItems]
    | cons first rest => simp [choiceItems]
  cases output with
  | none =>
    cases output' with
    | none =>
      obtain ⟨rfl, rfl⟩ := choiceItems_append_inj h
      exact ⟨rfl, rfl⟩
    | some symbol => exact absurd h (hhead _ _ _ _)
  | some symbol =>
    cases output' with
    | none => exact absurd h.symm (hhead _ _ _ _)
    | some symbol' =>
      simp only [Option.toList_some, List.map_cons, List.map_nil, List.singleton_append,
        List.cons.injEq, C.Item.assign.injEq, C.Assignment.output.injEq, and_true] at h
      obtain ⟨rfl, h⟩ := h
      obtain ⟨rfl, rfl⟩ := choiceItems_append_inj h
      exact ⟨rfl, rfl⟩

/-- The items of cases in a row tell the cases. -/
theorem flatMap_caseItems_inj {cs ds : List Case}
    (h : cs.flatMap caseItems = ds.flatMap caseItems) : cs = ds := by
  induction cs generalizing ds with
  | nil =>
    cases ds with
    | nil => rfl
    | cons d ds => simp [caseItems] at h
  | cons c cs ih =>
    cases ds with
    | nil => simp [caseItems] at h
    | cons d ds =>
      rw [List.flatMap_cons, List.flatMap_cons] at h
      obtain ⟨rfl, hrest⟩ := caseItems_append_inj h
      rw [ih hrest]

/-- The cases tell what the machine does in its states. -/
theorem cases_eq_iff (hstates : m₁.states = m₂.states) :
    cases m₁ = cases m₂ ↔ ∀ state ∈ m₁.states, caseOf m₁ state = caseOf m₂ state := by
  unfold cases
  rw [← hstates, List.map_inj_left]

/-- The case of a state tells its output and its transitions. -/
theorem caseOf_eq_iff (state : Text) :
    caseOf m₁ state = caseOf m₂ state ↔
      (OutputRule.select? state m₁.outputRules).map OutputRule.output =
        (OutputRule.select? state m₂.outputRules).map OutputRule.output ∧
      (MooreTransition.select state m₁.transitions).map (fun t => (t.guard, t.target)) =
        (MooreTransition.select state m₂.transitions).map fun t => (t.guard, t.target) := by
  have hpairs (ts : List MooreTransition) :
      ts.map (fun t => (t.guard, t.target)) =
        (ts.map fun t => Branch.mk t.guard t.target).map fun b => (b.guard, b.target) := by
    rw [List.map_map]
    rfl
  have hinj {bs cs : List Branch} :
      bs.map (fun b => (b.guard, b.target)) = cs.map (fun b => (b.guard, b.target)) ↔ bs = cs := by
    refine List.map_inj_right fun b c hbc => ?_
    obtain ⟨hguard, htarget⟩ := Prod.mk.inj hbc
    cases b
    cases c
    cases hguard
    cases htarget
    rfl
  rw [hpairs, hpairs, hinj]
  simp [caseOf]

/-! ## The code and the machine -/

/-- Machines that agree have the same code. -/
theorem embeddedCode_congr (h : Agree m₁ m₂) : embeddedCode name m₁ = embeddedCode name m₂ := by
  have hcases : cases m₁ = cases m₂ := by
    rw [cases_eq_iff h.states]
    intro state hstate
    exact (caseOf_eq_iff state).2 ⟨h.output state hstate, h.transitions state hstate⟩
  simp only [embeddedCode, headerTexts, sourceTexts, stateBlock, resetBlock, caseBlock, h.states,
    h.inputs, h.outputs, h.start, hcases]

/-- Machines with the same code agree. -/
theorem agree_of_embeddedCode_eq (hname : Text.isName name = true)
    (h₁ : ∀ w ∈ usedNames m₁, Text.isName w = true)
    (h₂ : ∀ w ∈ usedNames m₂, Text.isName w = true)
    (hunused₁ : unusedField ∉ m₁.inputs ++ m₁.outputs)
    (hunused₂ : unusedField ∉ m₂.inputs ++ m₂.outputs)
    (hheader : (embeddedCode name m₁).header = (embeddedCode name m₂).header)
    (hsource : (embeddedCode name m₁).source = (embeddedCode name m₂).source) : Agree m₁ m₂ := by
  have hheaders : headerOf name m₁ = headerOf name m₂ := by
    have hread := ofText?_header hname h₁
    rw [hheader, ofText?_header hname h₂] at hread
    exact (Option.some.inj hread).symm
  have hsources : sourceOf name m₁ = sourceOf name m₂ := by
    have hread := ofText?_source hname h₁
    rw [hsource, ofText?_source hname h₂] at hread
    exact (Option.some.inj hread).symm
  simp only [List.mem_append, not_or] at hunused₁ hunused₂
  simp only [headerOf, C.Header.mk.injEq, C.Enumeration.mk.injEq, C.Record.mk.injEq,
    C.Constant.mk.injEq, true_and, and_true] at hheaders
  obtain ⟨hstates, hinputs, houtputs, hstart⟩ := hheaders
  -- The items after the last case are the same in every source.
  have hcases : cases m₁ = cases m₂ := by
    have hitems := congrArg C.Source.items hsources
    exact flatMap_caseItems_inj (List.append_cancel_right hitems)
  rw [cases_eq_iff hstates] at hcases
  have hcase := fun state hstate => (caseOf_eq_iff state).1 (hcases state hstate)
  exact ⟨hstates, fieldsOf_inj hunused₁.1 hunused₂.1 hinputs,
    fieldsOf_inj hunused₁.2 hunused₂.2 houtputs, hstart, fun state hstate => (hcase state hstate).1,
    fun state hstate => (hcase state hstate).2⟩

/-- Two machines have the same header and the same source under one name exactly if they agree in
their states, their signals, their first state, and in the output and the transitions of every
state. -/
theorem same_code_iff_agree (name : Text) (m₁ m₂ : Moore) (hname : Text.isName name = true)
    (h₁ : ∀ w ∈ usedNames m₁, Text.isName w = true)
    (h₂ : ∀ w ∈ usedNames m₂, Text.isName w = true)
    (hunused₁ : unusedField ∉ m₁.inputs ++ m₁.outputs)
    (hunused₂ : unusedField ∉ m₂.inputs ++ m₂.outputs) :
    ∃ code₁ code₂ : Generated,
      (ofMachine .embedded name (.moore m₁)).outcome = .ok code₁ ∧
      (ofMachine .embedded name (.moore m₂)).outcome = .ok code₂ ∧
      (code₁.header = code₂.header ∧ code₁.source = code₂.source ↔ Agree m₁ m₂) := by
  refine ⟨embeddedCode name m₁, embeddedCode name m₂, ofMoore_embedded name m₁,
    ofMoore_embedded name m₂, ?_, ?_⟩
  · rintro ⟨hheader, hsource⟩
    exact agree_of_embeddedCode_eq hname h₁ h₂ hunused₁ hunused₂ hheader hsource
  · intro h
    rw [embeddedCode_congr h]
    exact ⟨rfl, rfl⟩

/-- A lamp with a switch. -/
def lamp : Moore where
  states := ["Off", "On"]
  inputs := ["press"]
  outputs := ["light"]
  start := "Off"
  ends := []
  transitions := [⟨"Off", ["press"], "On"⟩, ⟨"On", ["press"], "Off"⟩]
  outputRules := [⟨"On", "light"⟩]

/-- The lamp with an end state, its transitions in another order, a rule too many and a transition
and a rule of a state that it does not have. -/
def lamp' : Moore where
  states := ["Off", "On"]
  inputs := ["press"]
  outputs := ["light"]
  start := "Off"
  ends := ["Off"]
  transitions :=
    [⟨"Broken", [], "Off"⟩, ⟨"On", ["press"], "Off"⟩, ⟨"Off", ["press"], "On"⟩]
  outputRules := [⟨"On", "light"⟩, ⟨"On", "dark"⟩, ⟨"Broken", "light"⟩]

/-- The two lamps are different machines with the same code. -/
theorem same_code_lamp : lamp ≠ lamp' ∧
    ∃ code₁ code₂ : Generated,
      (ofMachine .embedded "lamp" (.moore lamp)).outcome = .ok code₁ ∧
      (ofMachine .embedded "lamp" (.moore lamp')).outcome = .ok code₂ ∧
      code₁.header = code₂.header ∧ code₁.source = code₂.source := by
  refine ⟨by decide, ?_⟩
  obtain ⟨code₁, code₂, hcode₁, hcode₂, hiff⟩ := same_code_iff_agree "lamp" lamp lamp' (by decide)
    (by decide) (by decide) (by decide) (by decide)
  have hagree : Agree lamp lamp' := ⟨rfl, rfl, rfl, rfl, by decide, by decide⟩
  exact ⟨code₁, code₂, hcode₁, hcode₂, hiff.2 hagree⟩

end Transducer.Code
