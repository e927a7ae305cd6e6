import Transducer.Text.CodePoint
import Transducer.Number.Binary64
import Transducer.Document.Calendar

/-!
# Document values

What a document holds: scalars, and collections of values. The keys of a mapping are scalars. A
collection that stands in several places, or in itself, is kept in a table under a number, and `ref`
stands for it.
-/

namespace Transducer.Document

open Number Text

/-- A value without parts. -/
inductive Scalar where
  | null
  | bool (b : Bool)
  | int (i : Int)
  | float (x : Binary64)
  | text (s : Text)
  | bytes (b : List UInt8)
  | date (d : Date)
  | moment (m : Moment)
  deriving DecidableEq, Repr

/-- A value of a document. -/
inductive Value where
  | scalar (s : Scalar)
  | list (items : List Value)
  /-- Keys and values in the order of their first appearance. -/
  | mapping (entries : List (Scalar × Value))
  | set (members : List Scalar)
  /-- An entry of an ordered list of pairs. -/
  | pair (first second : Value)
  /-- The collection with a number. -/
  | ref (number : Nat)
  deriving Repr

/-- The empty value stands where there is none. -/
instance : Inhabited Value := ⟨.scalar .null⟩

namespace Value

/-- The empty value. -/
abbrev null : Value := .scalar .null

/-- A text. -/
abbrev text (s : Text) : Value := .scalar (.text s)

/-- An integer. -/
abbrev int (i : Int) : Value := .scalar (.int i)

/-- A truth value. -/
abbrev bool (b : Bool) : Value := .scalar (.bool b)

/-- A list of texts. -/
def texts (items : List Text) : Value := .list (items.map .text)

/-- A mapping with text keys. -/
def record (fields : List (String × Value)) : Value :=
  .mapping (fields.map fun field => (.text field.1, field.2))

end Value

/-- What a value is, as far as messages tell. -/
inductive Kind where
  | null
  | bool
  | int
  | float
  | text
  | bytes
  | date
  | moment
  | list
  | mapping
  | set
  | pair
  deriving DecidableEq, Repr

/-- The name of a kind in messages. -/
def Kind.name : Kind → String
  | .null => "NoneType"
  | .bool => "bool"
  | .int => "int"
  | .float => "float"
  | .text => "str"
  | .bytes => "bytes"
  | .date => "date"
  | .moment => "datetime"
  | .list => "list"
  | .mapping => "dict"
  | .set => "set"
  | .pair => "tuple"

/-- The kind of a scalar. -/
def Scalar.kind : Scalar → Kind
  | .null => .null
  | .bool _ => .bool
  | .int _ => .int
  | .float _ => .float
  | .text _ => .text
  | .bytes _ => .bytes
  | .date _ => .date
  | .moment _ => .moment

/-- The kind of a value. -/
def Value.kind : Value → Kind
  | .scalar s => s.kind
  | .list _ => .list
  | .mapping _ => .mapping
  | .set _ => .set
  | .pair _ _ => .pair
  | .ref _ => .null

/-- The value of a text key among the entries of a mapping. -/
def lookup? (key : String) : List (Scalar × α) → Option α
  | [] => none
  | (k, v) :: rest => if k = .text key then some v else lookup? key rest

/-- Whether a scalar says yes: anything but the empty value, false, zero and empty text. -/
def Scalar.isTrue : Scalar → Bool
  | .null => false
  | .bool b => b
  | .int i => i != 0
  | .float x => !x.isZero
  | .text s => !s.isEmpty
  | .bytes b => !b.isEmpty
  | .date _ => true
  | .moment _ => true

/-- Whether a value says yes: an empty collection does not. -/
def Value.isTrue : Value → Bool
  | .scalar s => s.isTrue
  | .list items => !items.isEmpty
  | .mapping entries => !entries.isEmpty
  | .set members => !members.isEmpty
  | .pair _ _ => true
  | .ref _ => false

/-- Whether two scalars are one key: numbers and truth values by value, everything else only within
its kind. -/
def Scalar.sameKey : Scalar → Scalar → Bool
  | .bool a, .bool b => a == b
  | .bool a, .int i => i == a.toNat
  | .int i, .bool a => i == a.toNat
  | .int i, .int j => i == j
  | .float x, .int i => x.equalsInt i
  | .int i, .float x => x.equalsInt i
  | .float x, .bool a => x.equalsInt a.toNat
  | .bool a, .float x => x.equalsInt a.toNat
  | .float x, .float y => x.equals y
  | .moment a, .moment b => a.same b
  | a, b => a == b

/-- The entries with a value stored under a key; a key that is there keeps its place and its
spelling. -/
def putEntry (same : κ → κ → Bool) (key : κ) (value : α) : List (κ × α) → List (κ × α)
  | [] => [(key, value)]
  | (k, v) :: rest =>
    if same k key then (k, value) :: rest else (k, v) :: putEntry same key value rest

end Transducer.Document
