import Transducer.Document.Value

/-!
# Values with their table

A value together with the collections that it refers to. Going to a part keeps the table, so a
collection that contains itself can be entered as often as one likes.
-/

namespace Transducer.Document

/-- A value and the table of the collections that it refers to. -/
structure Data where
  value : Value
  table : Array Value := #[]

/-- A value without references is data with an empty table. -/
instance : Coe Value Data := ⟨fun v => { value := v }⟩

namespace Data

/-- The value itself, where a reference stands for it. -/
def opened (d : Data) : Value :=
  match d.value with
  | .ref number => d.table.getD number .null
  | v => v

/-- What the data is, as far as messages tell. -/
def kind (d : Data) : Kind := d.opened.kind

/-- Whether the data says yes: an empty collection does not. -/
def isTrue (d : Data) : Bool := d.opened.isTrue

/-- A part of the data. -/
def part (d : Data) (v : Value) : Data := ⟨v, d.table⟩

/-- The entries of a mapping. -/
def entries? (d : Data) : Option (List (Scalar × Data)) :=
  match d.opened with
  | .mapping entries => some (entries.map fun entry => (entry.1, d.part entry.2))
  | _ => none

/-- The items of a list. -/
def items? (d : Data) : Option (List Data) :=
  match d.opened with
  | .list items => some (items.map d.part)
  | _ => none

/-- The text of a text value. -/
def text? (d : Data) : Option Text :=
  match d.value with
  | .scalar (.text s) => some s
  | _ => none

end Data

end Transducer.Document
