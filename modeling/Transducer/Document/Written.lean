import Transducer.Text.Quoted
import Transducer.Number.Shortest
import Transducer.Number.Literal
import Transducer.Document.Data
import Transducer.Document.Places

/-!
# The text of a value

A text on its own is written as it is; inside a collection it is quoted. The order of a set and the
depth that a collection may have depend on the run of the program: a writer says how they are.
-/

namespace Transducer.Document

open Number Text

/-- The text of a scalar inside a collection. -/
def Scalar.nestedText : Scalar → Text
  | .null => "None"
  | .bool b => if b then "True" else "False"
  | .int i => intText i
  | .float x => x.text
  | .text s => quote s
  | .bytes b => quoteBytes b
  | .date d => d.nestedText
  | .moment m => m.nestedText

/-- The text of a scalar on its own. -/
def Scalar.plainText : Scalar → Text
  | .text s => s
  | .date d => d.text
  | .moment m => m.text
  | s => s.nestedText

/-- Why a value cannot be written. -/
inductive Unwritable where
  /-- It holds an integer with too many digits. -/
  | longInteger
  /-- Its collections stand in each other too deep. -/
  | tooDeep
  deriving DecidableEq, Repr

/-- A scalar with its text, unless it is an integer with too many digits. -/
def Scalar.orUnwritable (s : Scalar) (text : Text) : Except Unwritable Text :=
  match s with
  | .int i => if i.natAbs < Nat.pow 10 digitLimit then .ok text else .error .longInteger
  | _ => .ok text

/-- How values are written in a run of the program. -/
structure Writer where
  /-- The marks of the scalars whose mark does not follow from their value. -/
  mark : Scalar → Int := fun _ => 79
  /-- The number of collections that may stand in each other in what is written. -/
  room : Nat := 986

namespace Value

/-- The text of a scalar inside a collection, if it can be written. -/
def scalarText (s : Scalar) : Except Unwritable Text := s.orUnwritable s.nestedText

/-- The text of a set. -/
def setText (members : List Text) : Text :=
  if members.isEmpty then "set()" else "\x7b" ++ Text.join ", " members ++ "\x7d"

/-- The text of a collection, given how its parts are written. -/
def collectionText (mark : Scalar → Int) (inner : Value → Except Unwritable Text) :
    Value → Except Unwritable Text
  | .list items => return "[" ++ Text.join ", " (← items.mapM inner) ++ "]"
  | .mapping entries => do
    let texts ← entries.mapM fun entry => return (← scalarText entry.1) ++ ": " ++ (← inner entry.2)
    return "\x7b" ++ Text.join ", " texts ++ "\x7d"
  | .set members => return setText (← (listed mark members).mapM scalarText)
  | .pair a b => return "(" ++ (← inner a) ++ ", " ++ (← inner b) ++ ")"
  | .scalar s => scalarText s
  | .ref _ => return []

/-- What stands for a collection inside itself. -/
def hint : Kind → Text
  | .mapping => "\x7b...\x7d"
  | _ => "[...]"

/-- The text of a value inside a collection. The first number is that of the collections that may
still stand in each other; `around` holds the numbers of the collections around the value, and one
of these inside itself is only hinted at. -/
def nestedText (mark : Scalar → Int) (table : Array Value) :
    Nat → List Nat → Value → Except Unwritable Text
  | _, _, .scalar s => scalarText s
  | 0, _, _ => .error .tooDeep
  | room + 1, around, .ref number =>
    let v := table.getD number .null
    if around.contains number then .ok (hint v.kind)
    else collectionText mark (nestedText mark table room (number :: around)) v
  | room + 1, around, v => collectionText mark (nestedText mark table room around) v

end Value

/-- The text of data on its own. -/
def Data.written (writer : Writer) (d : Data) : Except Unwritable Text :=
  match d.value with
  | .scalar s => s.orUnwritable s.plainText
  | v => v.nestedText writer.mark d.table writer.room []

end Transducer.Document
