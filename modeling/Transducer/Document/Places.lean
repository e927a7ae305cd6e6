import Transducer.Document.Value

/-!
# The order of a set

A set keeps its members in a row of places and lists them from the first place to the last. A member
has a mark, which is the same for equal members and says at which place to look first; if that place
is taken, the mark leads on to others. The mark of a number and of a moment of known instant follows
from its value. All other marks may be different in every run of the program.
-/

namespace Transducer.Document

/-- The modulus of marks: a prime by which every power of two has a remainder that is one. -/
def markModulus : Nat := Nat.pow 2 61 - 1

/-- A mark with a sign; minus one is no mark, and minus two is taken for it. -/
def signedMark (negative : Bool) (mark : Nat) : Int :=
  if !negative then mark else if mark = 1 then -2 else -(mark : Int)

/-- Takes one more number into the mark of a row of numbers. -/
def mixMark (mark : UInt64) (number : Nat) : UInt64 :=
  let sum := mark + .ofNat number * 14029467366897019727
  (sum <<< 31 ||| sum >>> 33) * 11400714785074694791

/-- The mark of a row of three numbers. -/
def rowMark (a b c : Nat) : Nat :=
  let start : UInt64 := 2870177450012600261
  ([a, b, c].foldl mixMark start + (3 ^^^ start ^^^ 3527539)).toNat

/-- The mark of a moment of known instant: that of the days, the seconds and the microseconds of the
instant. -/
def Moment.mark (m : Moment) : Nat :=
  let instant := m.instant + 86400
  rowMark (instant / 86400).toNat (instant % 86400).toNat m.microsecond

/-- The mark of a scalar, if it follows from its value. That of a number is its remainder by the
modulus, in which halving is multiplying by a power of two. -/
def Scalar.mark? : Scalar → Option Int
  | .moment m => if m.offset.isSome then some m.mark else none
  | .bool b => some b.toNat
  | .int i => some (signedMark (i < 0) (i.natAbs % markModulus))
  | .float (.finite negative mantissa exponent) =>
    some (signedMark negative (mantissa * Nat.pow 2 (exponent % 61).toNat % markModulus))
  | .float (.infinite negative) => some (signedMark negative 314159)
  | _ => none

/-- The number of places that a set has for its members: a power of two, eight or more, and more
than twice as many as there are members if these are five or more. -/
def placeCount (members : Nat) : Nat :=
  if members < 5 then 8 else Nat.pow 2 ((2 * members).log2 + 1)

/-- The places that are looked at together: ten in a row, or one where the row ends before. -/
def stretch (size place : Nat) : List Nat :=
  if place + 9 < size then List.range' place 10 else [place]

/-- The first free place from a place on; `mark` is what is left of the mark after the places
before. -/
def freePlace (size : Nat) (taken : List Nat) : Nat → Nat → Nat → Nat
  | 0, _, place => place
  | fuel + 1, mark, place =>
    match (stretch size place).find? (!taken.contains ·) with
    | some free => free
    | none => freePlace size taken fuel (mark / 32) ((5 * place + 1 + mark / 32) % size)

/-- The members, each at its place; `mark` gives the marks that do not follow from a value. A mark
of 64 bits is used up after thirteen looks, and from then on every place is looked at in turn. -/
def placed (mark : Scalar → Int) (size : Nat) (members : List Scalar) : List (Nat × Scalar) :=
  members.foldl
    (fun places member =>
      let own : Int := member.mark?.getD (mark member)
      let bits := (own % (Nat.pow 2 64 : Nat)).toNat
      let place := freePlace size (places.map Prod.fst) (size + 13) bits (bits % size)
      places ++ [(place, member)])
    []

/-- The members of a set as they are listed. -/
def listed (mark : Scalar → Int) (members : List Scalar) : List Scalar :=
  let places := placed mark (placeCount members.length) members
  (places.mergeSort fun a b => a.1 ≤ b.1).map Prod.snd

end Transducer.Document
