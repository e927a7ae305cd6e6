import Transducer.Machine.Basic

/-!
# What belongs to a state
-/

namespace Transducer

/-- The output rule of a state: the first one counts. This is `select_output`. -/
def OutputRule.select? (state : Text) (rules : List OutputRule) : Option OutputRule :=
  rules.find? fun rule => rule.state = state

/-- The transitions that leave a state, in their order. This is `select_transitions`. -/
def MooreTransition.select (state : Text) (transitions : List MooreTransition) :
    List MooreTransition :=
  transitions.filter fun t => t.source = state

end Transducer
