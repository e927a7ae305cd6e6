import Transducer.Proofs.C.Unit

/-!
# The meaning of a program

A program is a header with a source that includes it, under the conditions that a compiler sets: no
name is a keyword or declared twice, and every name that is used is declared. An enumerator stands
for its place in the enumeration. A call of the function changes the memory behind `state` and
`output`: first by the assignments before the `switch` statement, then by the items after the label
of the state, up to the next `break`.
-/

namespace Transducer.C

/-! ## Which programs a compiler accepts -/

/-- The keywords of C. The three for truth values come from `<stdbool.h>`. -/
def keywords : List Text :=
  ["auto", "break", "case", "char", "const", "continue", "default", "do", "double", "else", "enum",
    "extern", "float", "for", "goto", "if", "inline", "int", "long", "register", "restrict",
    "return", "short", "signed", "sizeof", "static", "struct", "switch", "typedef", "union",
    "unsigned", "void", "volatile", "while", "_Alignas", "_Alignof", "_Atomic", "_Bool", "_Complex",
    "_Generic", "_Imaginary", "_Noreturn", "_Static_assert", "_Thread_local", "bool", "true",
    "false"].map Text.ofString

/-- The names of the parameters of the function. -/
def parameters : List Text := ["state", "input", "output"]

/-- A name can be declared: it is no keyword, and it is not the macro of the header, which stands
for nothing. -/
def Header.Allows (h : Header) (name : Text) : Prop :=
  Text.isName name = true ∧ name ∉ keywords ∧ name ≠ h.guard

/-- Names can be declared together: each of them is allowed, and no two are the same. -/
def Header.Declares (h : Header) (names : List Text) : Prop :=
  names.Nodup ∧ ∀ name ∈ names, h.Allows name

/-- What a compiler asks of a header. -/
structure Header.Valid (h : Header) : Prop where
  guard : Text.isName h.guard = true ∧ h.guard ∉ keywords ++ parameters
  /-- The tags share a name space. -/
  tags : h.Declares [h.states.tag, h.input.tag, h.output.tag]
  /-- The enumerators share one with the constant and the function. -/
  names : h.Declares (h.states.names ++ [h.start.name, h.function.name])
  /-- The parameters hide no enumerator in the function. -/
  visible : ∀ name ∈ h.states.names, name ∉ parameters
  /-- Every structure has a name space of its own, and no structure is empty. -/
  input : h.Declares h.input.fields ∧ h.input.fields ≠ []
  output : h.Declares h.output.fields ∧ h.output.fields ≠ []
  start : h.start.tag = h.states.tag ∧ h.start.value ∈ h.states.names
  function : h.function.states = h.states.tag ∧ h.function.input = h.input.tag ∧
    h.function.output = h.output.tag

/-- An assignment uses declared names. -/
def Assignment.Valid (h : Header) : Assignment → Prop
  | .output field _ => field ∈ h.output.fields
  | .state target => target ∈ h.states.names

/-- An atom uses a declared name. -/
def Atom.Valid (h : Header) : Atom → Prop
  | .always => True
  | .input field => field ∈ h.input.fields

/-- A branch uses declared names. -/
def Branch.Valid (h : Header) (b : Branch) : Prop :=
  (∀ a ∈ b.condition.first :: b.condition.rest, a.Valid h) ∧ ∀ a ∈ b.body, a.Valid h

/-- An item uses declared names. -/
def Item.Valid (h : Header) : Item → Prop
  | .label name => name ∈ h.states.names
  | .assign a => a.Valid h
  | .choice first rest => ∀ b ∈ first :: rest, b.Valid h
  | .default => True
  | .exit => True

/-- The name in a label. -/
def Item.label? : Item → Option Text
  | .label name => some name
  | _ => none

/-- What a compiler asks of a source that includes a header. -/
structure Source.Valid (h : Header) (s : Source) : Prop where
  function : s.function = h.function
  before : ∀ a ∈ s.before, a.Valid h
  items : ∀ i ∈ s.items, i.Valid h
  labels : (s.items.filterMap Item.label?).Nodup
  default : s.items.count .default ≤ 1

/-- A program that a compiler accepts. -/
structure Program where
  header : Header
  source : Source
  header_valid : header.Valid
  source_valid : source.Valid header

/-- Two texts are a program, where the source finds the header under the name `file`. -/
structure Program.Of (file header source : Text) (p : Program) : Prop where
  header : Header.ofText? header = some p.header
  source : Source.ofText? source = some p.source
  file : p.source.included = file

/-! ## What a call does -/

/-- What the function can change: the integer behind `state` and the fields of the structure behind
`output`. -/
structure Memory where
  state : Nat
  output : Text → Bool

/-- Whether an atom is true of an input. -/
def Atom.holds (input : Text → Bool) : Atom → Bool
  | .always => true
  | .input field => input field

/-- Whether a condition is true of an input. -/
def Condition.holds (input : Text → Bool) (c : Condition) : Bool :=
  c.first.holds input && c.rest.all (Atom.holds input)

namespace Program

/-- The integer that an enumerator stands for. -/
def value (p : Program) (name : Text) : Nat := p.header.states.names.idxOf name

/-- The memory after an assignment. -/
def assign (p : Program) (memory : Memory) : Assignment → Memory
  | .output field value =>
    { memory with output := fun name => if name = field then value else memory.output name }
  | .state target => { memory with state := p.value target }

/-- The memory after assignments in a row. -/
def assignAll (p : Program) (body : List Assignment) (memory : Memory) : Memory :=
  body.foldl p.assign memory

/-- The memory after the first branch whose condition holds, if there is one. -/
def choose (p : Program) (input : Text → Bool) (branches : List Branch) (memory : Memory) :
    Memory :=
  match branches.find? fun b => b.condition.holds input with
  | some b => p.assignAll b.body memory
  | none => memory

/-- The memory after the items from a label on: further labels are passed, and a `break` is the
end. -/
def perform (p : Program) (input : Text → Bool) : List Item → Memory → Memory
  | [], memory => memory
  | .label _ :: items, memory => p.perform input items memory
  | .default :: items, memory => p.perform input items memory
  | .assign a :: items, memory => p.perform input items (p.assign memory a)
  | .choice first rest :: items, memory =>
    p.perform input items (p.choose input (first :: rest) memory)
  | .exit :: _, memory => memory

/-- Whether an item is the label of a state. -/
def isLabelOf (p : Program) (state : Nat) : Item → Bool
  | .label name => p.value name == state
  | _ => false

/-- The items that a `switch` statement goes to: those from the label of the state on, or else those
from `default` on. -/
def target (p : Program) (state : Nat) (items : List Item) : List Item :=
  if items.any (p.isLabelOf state) then items.dropWhile (!p.isLabelOf state ·)
  else items.dropWhile (· != .default)

/-- The memory after a call of the function with an input. -/
def call (p : Program) (memory : Memory) (input : Text → Bool) : Memory :=
  let memory := p.assignAll p.source.before memory
  p.perform input (p.target memory.state p.source.items) memory

/-- The memory before the first call: the first state, and whatever the output holds. -/
def initial (p : Program) (output : Text → Bool) : Memory :=
  ⟨p.value p.header.start.value, output⟩

/-- The memory after calls in a row. -/
def calls (p : Program) (memory : Memory) (inputs : List (Text → Bool)) : Memory :=
  inputs.foldl p.call memory

end Program

end Transducer.C
