import Transducer.Document.Data
import Transducer.Machine.Basic

/-!
# Machines from documents

Every field is required, and its first defect in the order of reading is reported. Keys that no
field has are ignored. These are the readings `from_dict` of the machines and their parts.
-/

namespace Transducer

open Document

/-- Why a value does not describe a machine or a part of one. This is `ModelDecodeError`. -/
inductive DecodeError where
  /-- The value is no mapping. -/
  | notMapping (got : Kind)
  /-- The mapping lacks a field. -/
  | missing (field : String)
  /-- The field is no text. -/
  | notText (field : String) (got : Kind)
  /-- The field is no list. -/
  | notList (field : String) (got : Kind)
  /-- The field is a list with something other than a text. -/
  | notTexts (field : String) (got : Kind)
  deriving DecidableEq, Repr

/-- The wording of a defect. -/
def DecodeError.message : DecodeError → String
  | .notMapping got => s!"expected a mapping, got {got.name}"
  | .missing field => s!"missing field '{field}'"
  | .notText field got => s!"field '{field}' must be a string, got {got.name}"
  | .notList field got => s!"field '{field}' must be a list, got {got.name}"
  | .notTexts field got => s!"field '{field}' must contain strings, got {got.name}"

namespace Decode

/-- The value of a field. This is `_require`. -/
def field (key : String) (d : Data) : Except DecodeError Data :=
  match d.entries? with
  | none => .error (.notMapping d.kind)
  | some entries =>
    match lookup? key entries with
    | some value => .ok value
    | none => .error (.missing key)

/-- The text of a field. This is `_string`. -/
def text (key : String) (d : Data) : Except DecodeError Text := do
  let value ← field key d
  match value.text? with
  | some s => .ok s
  | none => .error (.notText key value.kind)

/-- The items of a field. This is `_records`. -/
def items (key : String) (d : Data) : Except DecodeError (List Data) := do
  let value ← field key d
  match value.items? with
  | some items => .ok items
  | none => .error (.notList key value.kind)

/-- The texts that items are; the first item that is none is an error. -/
def textsOf (key : String) : List Data → Except DecodeError (List Text)
  | [] => .ok []
  | item :: rest =>
    match item.text? with
    | some s => return s :: (← textsOf key rest)
    | none => .error (.notTexts key item.kind)

/-- The texts of a field. This is `_strings`. -/
def texts (key : String) (d : Data) : Except DecodeError (List Text) := do
  textsOf key (← items key d)

/-- A transition of a Moore machine. -/
def mooreTransition (d : Data) : Except DecodeError MooreTransition := do
  let source ← text "current_state" d
  let guard ← texts "read_symbol" d
  let target ← text "new_state" d
  return ⟨source, guard, target⟩

/-- A transition of a Mealy machine. -/
def mealyTransition (d : Data) : Except DecodeError MealyTransition := do
  let source ← text "current_state" d
  let guard ← texts "read_symbol" d
  let target ← text "new_state" d
  let output ← text "output_symbol" d
  return ⟨source, guard, target, output⟩

/-- An output rule. -/
def outputRule (d : Data) : Except DecodeError OutputRule := do
  let state ← text "current_state" d
  let output ← text "output_symbol" d
  return ⟨state, output⟩

/-- Reads every item of a list, in order. -/
def each (read : Data → Except DecodeError α) : List Data → Except DecodeError (List α)
  | [] => .ok []
  | item :: rest => return (← read item) :: (← each read rest)

/-- A Moore machine. -/
def moore (d : Data) : Except DecodeError Moore := do
  let states ← texts "states" d
  let inputs ← texts "input_alphabet" d
  let outputs ← texts "output_alphabet" d
  let transitions ← each mooreTransition (← items "transitions" d)
  let outputRules ← each outputRule (← items "output_function" d)
  let start ← text "start_state" d
  let ends ← texts "end_states" d
  return { states, inputs, outputs, start, ends, transitions, outputRules }

/-- A Mealy machine. -/
def mealy (d : Data) : Except DecodeError Mealy := do
  let states ← texts "states" d
  let inputs ← texts "input_alphabet" d
  let outputs ← texts "output_alphabet" d
  let transitions ← each mealyTransition (← items "transitions" d)
  let start ← text "start_state" d
  let ends ← texts "end_states" d
  return { states, inputs, outputs, start, ends, transitions }

end Decode

end Transducer
