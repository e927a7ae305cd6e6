import Transducer.Text.CodePoint

/-!
# Moore and Mealy machines

Both kinds have the same signature and differ in where outputs live: a Moore machine gives outputs
by state, a Mealy machine by transition. All lists keep the order of declaration, which decides the
order of the generated code.
-/

namespace Transducer

/-- What machines of both kinds have. This is the base class `Machine`. -/
structure Signature where
  /-- The states. -/
  states : List Text
  /-- The input signals. -/
  inputs : List Text
  /-- The output signals. -/
  outputs : List Text
  start : Text
  /-- The accepting states. -/
  ends : List Text
  deriving DecidableEq, Repr

/-- A transition of a Moore machine. -/
structure MooreTransition where
  source : Text
  /-- The inputs that all have to be true. -/
  guard : List Text
  target : Text
  deriving DecidableEq, Repr

/-- A transition of a Mealy machine. -/
structure MealyTransition where
  source : Text
  /-- The inputs that all have to be true. -/
  guard : List Text
  target : Text
  output : Text
  deriving DecidableEq, Repr

/-- The output that is true in a state of a Moore machine. This is `MooreOutputFunction`. -/
structure OutputRule where
  state : Text
  output : Text
  deriving DecidableEq, Repr

/-- A Moore machine. -/
structure Moore extends Signature where
  transitions : List MooreTransition
  outputRules : List OutputRule
  deriving DecidableEq, Repr

/-- A Mealy machine. -/
structure Mealy extends Signature where
  transitions : List MealyTransition
  deriving DecidableEq, Repr

/-- A machine of either kind. This is `StateMachine`. -/
inductive Machine where
  | moore (m : Moore)
  | mealy (m : Mealy)
  deriving DecidableEq, Repr

namespace Machine

/-- The name of the kind of a machine. -/
def kind : Machine → String
  | .moore _ => "moore"
  | .mealy _ => "mealy"

/-- The signature of a machine. -/
def signature : Machine → Signature
  | .moore m => m.toSignature
  | .mealy m => m.toSignature

/-- The number of transitions. -/
def transitionCount : Machine → Nat
  | .moore m => m.transitions.length
  | .mealy m => m.transitions.length

end Machine

end Transducer
