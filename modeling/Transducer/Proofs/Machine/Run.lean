import Transducer.Machine.Select

/-!
# Runs of a Moore machine

A Moore machine goes from state to state. It takes the first transition, in the order of their
declaration, that leaves its state and whose inputs are all true, and stays where it is if there is
none.
-/

namespace Transducer.Moore

/-- The state after an input, which tells of every signal whether it is true. -/
def step (m : Moore) (state : Text) (input : Text → Bool) : Text :=
  match m.transitions.find? fun t => t.source = state && t.guard.all input with
  | some t => t.target
  | none => state

/-- The output that is true in a state: the one of its first rule. -/
def output? (m : Moore) (state : Text) : Option Text :=
  (OutputRule.select? state m.outputRules).map OutputRule.output

/-- The state after inputs in a row. -/
def run (m : Moore) (inputs : List (Text → Bool)) : Text := inputs.foldl m.step m.start

/-- A machine that goes only to states of its own, and uses only signals of its own. -/
structure Closed (m : Moore) : Prop where
  start : m.start ∈ m.states
  targets : ∀ t ∈ m.transitions, t.target ∈ m.states
  guards : ∀ t ∈ m.transitions, ∀ symbol ∈ t.guard, symbol ∈ m.inputs
  outputs : ∀ rule ∈ m.outputRules, rule.output ∈ m.outputs

/-- A closed machine goes from a state to a state. -/
theorem step_mem {m : Moore} (h : m.Closed) {state : Text} (hstate : state ∈ m.states)
    (input : Text → Bool) : m.step state input ∈ m.states := by
  unfold step
  split
  · rename_i t ht
    exact h.targets t (List.mem_of_find?_eq_some ht)
  · exact hstate

end Transducer.Moore
