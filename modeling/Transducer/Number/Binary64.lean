/-!
# Binary floating point of 64 bits

A finite number is a signed mantissa below `2^53` times a power of two that is at least `2^-1074`.
Every operation computes the exact rational result and rounds it to the nearest number, a tie going
to the even mantissa.
-/

namespace Transducer.Number

/-- A floating-point number; the sign of a zero counts. -/
inductive Binary64 where
  | nan
  | infinite (negative : Bool)
  /-- The number `± mantissa * 2 ^ exponent`. -/
  | finite (negative : Bool) (mantissa : Nat) (exponent : Int)
  deriving DecidableEq, Repr

/-- The quotient rounded to the nearest whole number, a half to the even neighbour. -/
def roundDiv (n d : Nat) : Nat :=
  let q := n / d
  let r := n % d
  if 2 * r < d then q
  else if d < 2 * r then q + 1
  else if q % 2 = 0 then q else q + 1

/-- A ratio times two to the power `-e`, as a ratio again. -/
def unscale (num den : Nat) (e : Int) : Nat × Nat :=
  if 0 ≤ e then (num, den * Nat.pow 2 e.toNat) else (num * Nat.pow 2 (-e).toNat, den)

/-- The whole part of the binary logarithm of a positive ratio. -/
def log2Ratio (num den : Nat) : Int :=
  let guess : Int := (Nat.log2 num : Int) - Nat.log2 den
  let (n, d) := unscale num den guess
  if d ≤ n then guess else guess - 1

namespace Binary64

/-- Zero, with a sign. -/
def zero (negative : Bool) : Binary64 := .finite negative 0 (-1074)

/-- The number nearest to a ratio, which has to have a positive denominator. -/
def ofRatio (negative : Bool) (num den : Nat) : Binary64 :=
  if num = 0 then zero negative
  else
    let e := max (log2Ratio num den - 52) (-1074)
    let (n, d) := unscale num den e
    let m := roundDiv n d
    let (m, e) := if m = Nat.pow 2 53 then (Nat.pow 2 52, e + 1) else (m, e)
    if 971 < e then .infinite negative else .finite negative m e

/-- The number nearest to `digits * 10 ^ exponent`. Beyond four hundred places the outcome is an
infinity or a zero. -/
def ofDecimal (negative : Bool) (digits : Nat) (exponent : Int) : Binary64 :=
  let places : Int := (Nat.toDigits 10 digits).length + exponent
  if digits = 0 then zero negative
  else if 400 < places then .infinite negative
  else if places < -400 then zero negative
  else if 0 ≤ exponent then ofRatio negative (digits * Nat.pow 10 exponent.toNat) 1
  else ofRatio negative digits (Nat.pow 10 (-exponent).toNat)

/-- The number nearest to a natural number, none if it lies beyond the greatest one. -/
def ofNat? (n : Nat) : Option Binary64 :=
  match ofRatio false n 1 with
  | .finite s m e => some (.finite s m e)
  | _ => none

/-- Whether the sign is negative. -/
def isNegative : Binary64 → Bool
  | .nan => false
  | .infinite negative => negative
  | .finite negative _ _ => negative

/-- The number with the other sign. -/
def neg : Binary64 → Binary64
  | .nan => .nan
  | .infinite negative => .infinite !negative
  | .finite negative m e => .finite (!negative) m e

/-- Whether the number is a zero of either sign. -/
def isZero : Binary64 → Bool
  | .finite _ 0 _ => true
  | _ => false

/-- The product, rounded. -/
def mul : Binary64 → Binary64 → Binary64
  | .finite s m e, .finite t n f =>
    let (num, den) := unscale (m * n) 1 (-(e + f))
    ofRatio (s != t) num den
  | .nan, _ => .nan
  | _, .nan => .nan
  | x, y => if x.isZero || y.isZero then .nan else .infinite (x.isNegative != y.isNegative)

/-- The sum, rounded. -/
def add : Binary64 → Binary64 → Binary64
  | .finite s m e, .finite t n f =>
    let least := min e f
    let x : Int := (m * Nat.pow 2 (e - least).toNat : Nat)
    let y : Int := (n * Nat.pow 2 (f - least).toNat : Nat)
    let total := (if s then -x else x) + (if t then -y else y)
    let (num, den) := unscale total.natAbs 1 (-least)
    if total = 0 then zero (s && t) else ofRatio (decide (total < 0)) num den
  | .nan, _ => .nan
  | _, .nan => .nan
  | .infinite s, .infinite t => if s = t then .infinite s else .nan
  | .infinite s, _ => .infinite s
  | _, .infinite t => .infinite t

/-- The number rounded to three decimal places, a half of the exact value to the even digit. -/
def roundThousandths : Binary64 → Binary64
  | .finite s m e =>
    let (num, den) := unscale (m * 1000) 1 (-e)
    ofRatio s (roundDiv num den) 1000
  | x => x

/-- Whether the number equals an integer. -/
def equalsInt (x : Binary64) (i : Int) : Bool :=
  match x with
  | .finite s m e =>
    let (num, den) := unscale m 1 (-e)
    let signed : Int := if s then -(num : Int) else num
    signed == i * den
  | _ => false

/-- Equality of numbers: the two zeros are equal and no NaN equals anything. -/
def equals (x y : Binary64) : Bool :=
  match x, y with
  | .nan, _ => false
  | .finite _ 0 _, .finite _ 0 _ => true
  | x, y => x == y

end Binary64

end Transducer.Number
