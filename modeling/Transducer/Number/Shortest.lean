import Transducer.Number.Binary64

/-!
# The fewest digits that read back

A floating-point number is written with the fewest significant digits of which it is the nearest
number; of two such decimals the nearer one is taken.
-/

namespace Transducer.Number

/-- A decimal `digits * 10 ^ exponent`. -/
structure Decimal where
  digits : Nat
  exponent : Int
  deriving DecidableEq, Repr

/-- Ten to a power, as a ratio. -/
def tenPower (k : Int) : Nat × Nat :=
  if 0 ≤ k then (Nat.pow 10 k.toNat, 1) else (1, Nat.pow 10 (-k).toNat)

/-- The whole part of the decimal logarithm of a positive ratio. -/
def log10Ratio (num den : Nat) : Int :=
  if den ≤ num then (Nat.toDigits 10 (num / den)).length - 1
  else
    let d := (Nat.toDigits 10 (den / num)).length
    if den ≤ num * Nat.pow 10 (d - 1) then -((d : Int) - 1) else -(d : Int)

/-- Whether a decimal lies among the reals that round to `mantissa * 2 ^ exponent`. The ends of the
interval belong to it when the mantissa is even; below a power of two it reaches half as far. -/
def readsBack (mantissa : Nat) (exponent : Int) (d : Decimal) : Bool :=
  let (pn, pd) := tenPower d.exponent
  -- the decimal and the number, in quarters of the last binary place
  let (num, den) := unscale (4 * d.digits * pn) pd exponent
  let below := if mantissa = Nat.pow 2 52 && -1074 < exponent then 1 else 2
  let low := (4 * mantissa - below) * den
  let high := (4 * mantissa + 2) * den
  if mantissa % 2 = 0 then low ≤ num && num ≤ high else low < num && num < high

/-- The best decimal with `count` significant digits that reads back, if there is one. -/
def withDigits? (mantissa : Nat) (exponent : Int) (count : Nat) : Option Decimal :=
  let (num, den) := unscale mantissa 1 (-exponent)
  let place := log10Ratio num den - count + 1
  let (pn, pd) := tenPower place
  let n := num * pd
  let d := den * pn
  let below : Decimal := ⟨n / d, place⟩
  let above : Decimal := ⟨n / d + 1, place⟩
  let near : Decimal := ⟨roundDiv n d, place⟩
  if readsBack mantissa exponent near then some near
  else if readsBack mantissa exponent below then some below
  else if readsBack mantissa exponent above then some above
  else none

/-- Searches the digit counts from `count` on; seventeen digits always read back. -/
def searchShortest (mantissa : Nat) (exponent : Int) : Nat → Nat → Decimal
  | 0, count => (withDigits? mantissa exponent count).getD ⟨mantissa, 0⟩
  | fuel + 1, count =>
    match withDigits? mantissa exponent count with
    | some d => d
    | none => searchShortest mantissa exponent fuel (count + 1)

/-- The decimal without zeros at its end. -/
def Decimal.trim (d : Decimal) : Decimal :=
  let digits := Nat.toDigits 10 d.digits
  let zeros := (digits.reverse.takeWhile (· == '0')).length
  if d.digits = 0 then d else ⟨d.digits / Nat.pow 10 zeros, d.exponent + zeros⟩

/-- The shortest decimal that reads back as a positive number. -/
def shortest (mantissa : Nat) (exponent : Int) : Decimal :=
  (searchShortest mantissa exponent 16 1).trim

/-- The text of a decimal: positional from a ten-thousandth up to sixteen places before the point,
otherwise with an exponent of at least two digits. -/
def Decimal.text (d : Decimal) : String :=
  let digits := Nat.toDigits 10 d.digits
  let count := digits.length
  let point : Int := count + d.exponent
  if -4 < point && point ≤ 16 then
    if point ≤ 0 then
      String.ofList ('0' :: '.' :: List.replicate (-point).toNat '0' ++ digits)
    else
      let place := point.toNat
      if count ≤ place then
        String.ofList (digits ++ List.replicate (place - count) '0' ++ ['.', '0'])
      else String.ofList (digits.take place ++ '.' :: digits.drop place)
  else
    let power := point - 1
    let exponent := Nat.toDigits 10 power.natAbs
    let padded := List.replicate (2 - exponent.length) '0' ++ exponent
    let fraction := if count = 1 then [] else '.' :: digits.drop 1
    let sign := if power < 0 then '-' else '+'
    String.ofList (digits.take 1 ++ fraction ++ 'e' :: sign :: padded)

/-- The text of a floating-point number. -/
def Binary64.text : Binary64 → String
  | .nan => "nan"
  | .infinite negative => if negative then "-inf" else "inf"
  | .finite negative mantissa exponent =>
    let magnitude := if mantissa = 0 then "0.0" else (shortest mantissa exponent).text
    if negative then "-" ++ magnitude else magnitude

end Transducer.Number
