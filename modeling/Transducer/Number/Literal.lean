import Transducer.Text.Blank
import Transducer.Text.Digit
import Transducer.Number.Binary64

/-!
# Number literals

A literal may have blanks around it and a sign, and its digits may be those of any script. A
literal of base ten has at most `digitLimit` digits.
-/

namespace Transducer.Number

open Text

/-- The most digits a decimal integer may have, read or written. -/
def digitLimit : Nat := 4300

/-- Whether the character may stand around a literal: a blank of any script, the separators among
the ASCII controls excepted. -/
def isMargin (c : Char) : Bool := isAsciiBlank c || (0x7f ≤ c.toNat && isBlank c)

/-- The text without the blanks around it. -/
def stripBlanks (text : List Char) : List Char := strip isMargin text

/-- The value of a digit or letter in bases up to sixteen. -/
def digitValue? (c : Char) : Option Nat :=
  match decimalValue? c with
  | some value => some value
  | none =>
    let code := c.toLower.toNat
    if 0x61 ≤ code && code ≤ 0x66 then some (code - 0x61 + 10) else none

/-- A sign in front of a text, and what follows it. -/
def takeSign : List Char → Bool × List Char
  | '-' :: rest => (true, rest)
  | '+' :: rest => (false, rest)
  | rest => (false, rest)

/-- Reads digits of a base into a number, most significant first; none on any other character. -/
def readDigits? (base : Nat) (digits : List Char) : Option Nat :=
  digits.foldl
    (fun value c => do
      let value ← value
      let digit ← digitValue? c
      if digit < base then some (value * base + digit) else none)
    (some 0)

/-- The letter that may follow a zero to announce a base. -/
def baseMark : Nat → Option Char
  | 2 => some 'b'
  | 8 => some 'o'
  | 16 => some 'x'
  | _ => none

/-- The digits without the announcement of their base, if they have one. -/
def dropBaseMark (base : Nat) : List Char → List Char
  | '0' :: c :: rest => if baseMark base = some c.toLower then rest else '0' :: c :: rest
  | digits => digits

/-- Reads an integer literal of a base. -/
def readInt? (base : Nat) (text : List Char) : Option Int := do
  let (negative, body) := takeSign (stripBlanks text)
  let digits := dropBaseMark base body
  if digits.isEmpty || (base = 10 && digitLimit < digits.length) then none
  else
    let value ← readDigits? base digits
    some (if negative then -(value : Int) else value)

/-- A run of decimal digits at the start of a text: their number, their value and the rest. -/
def takeDecimals : List Char → Nat → Nat → Nat × Nat × List Char
  | [], count, value => (count, value, [])
  | c :: rest, count, value =>
    match decimalValue? c with
    | some digit => takeDecimals rest (count + 1) (value * 10 + digit)
    | none => (count, value, c :: rest)

/-- The exponent at the end of a floating-point literal, zero if there is none. -/
def readExponent? : List Char → Option Int
  | [] => some 0
  | c :: rest =>
    if c.toLower = 'e' then
      let (negative, body) := takeSign rest
      match takeDecimals body 0 0 with
      | (count, value, []) =>
        if count = 0 then none else some (if negative then -(value : Int) else value)
      | _ => none
    else none

/-- Reads the digits, the point and the exponent of a floating-point literal. -/
def readDecimal? (negative : Bool) (text : List Char) : Option Binary64 :=
  let (whole, value, rest) := takeDecimals text 0 0
  let (places, value, rest) :=
    match rest with
    | '.' :: rest => takeDecimals rest 0 value
    | rest => (0, value, rest)
  if whole + places = 0 then none
  else (readExponent? rest).map fun e => Binary64.ofDecimal negative value (e - places)

/-- The text without its underscores, each of which has to stand between two digits; `digit` says
whether a digit stands in front of the text. -/
def joinDigits? (digit : Bool) : List Char → Option (List Char)
  | [] => some []
  | '_' :: c :: rest =>
    if digit && (decimalValue? c).isSome then (joinDigits? true rest).map (c :: ·) else none
  | c :: rest =>
    if c = '_' then none else (joinDigits? (decimalValue? c).isSome rest).map (c :: ·)

/-- Reads a floating-point literal, of which the words for infinity and for no number are two
kinds. -/
def readFloat? (text : List Char) : Option Binary64 := do
  let joined ← joinDigits? false (stripBlanks text)
  let (negative, body) := takeSign joined
  let word := String.ofList (body.map Char.toLower)
  if word = "inf" || word = "infinity" then some (.infinite negative)
  else if word = "nan" then some .nan
  else readDecimal? negative body

/-- The decimal text of an integer. -/
def intText (i : Int) : String :=
  let digits := String.ofList (Nat.toDigits 10 i.natAbs)
  if i < 0 then "-" ++ digits else digits

end Transducer.Number
