import Transducer.Document.Value
import Transducer.Machine.Basic

/-!
# Machines as document values

These are the values `to_dict` of the machines and their parts.
-/

namespace Transducer

open Document

/-- A transition of a Moore machine as a value. -/
def MooreTransition.toValue (t : MooreTransition) : Value :=
  .record [("current_state", .text t.source), ("read_symbol", .texts t.guard),
    ("new_state", .text t.target)]

/-- A transition of a Mealy machine as a value. -/
def MealyTransition.toValue (t : MealyTransition) : Value :=
  .record [("current_state", .text t.source), ("read_symbol", .texts t.guard),
    ("new_state", .text t.target), ("output_symbol", .text t.output)]

/-- An output rule as a value. -/
def OutputRule.toValue (r : OutputRule) : Value :=
  .record [("current_state", .text r.state), ("output_symbol", .text r.output)]

/-- The fields of a signature. -/
def Signature.fields (s : Signature) : List (String × Value) :=
  [("states", .texts s.states), ("input_alphabet", .texts s.inputs),
    ("output_alphabet", .texts s.outputs), ("start_state", .text s.start),
    ("end_states", .texts s.ends)]

/-- The fields of a Moore machine. -/
def Moore.fields (m : Moore) : List (String × Value) :=
  m.toSignature.fields ++
    [("transitions", .list (m.transitions.map MooreTransition.toValue)),
      ("output_function", .list (m.outputRules.map OutputRule.toValue))]

/-- The fields of a Mealy machine. -/
def Mealy.fields (m : Mealy) : List (String × Value) :=
  m.toSignature.fields ++ [("transitions", .list (m.transitions.map MealyTransition.toValue))]

/-- A Moore machine as a value. -/
def Moore.toValue (m : Moore) : Value := .record m.fields

/-- A Mealy machine as a value. -/
def Mealy.toValue (m : Mealy) : Value := .record m.fields

/-- A machine as a value that also names its kind. -/
def Machine.toValue (machine : Machine) : Value :=
  let fields :=
    match machine with
    | .moore m => m.fields
    | .mealy m => m.fields
  .record (("kind", .text machine.kind) :: fields)

end Transducer
