import Transducer.Yaml.Source

/-!
# A place in a text

A cursor is the rest of a text together with the line and column it starts at. A line ends at a
line feed, a carriage return or both, a next-line control, a line separator or a paragraph
separator.
-/

namespace Transducer.Yaml

/-- Whether the character ends a line. -/
def isBreak (c : Char) : Bool :=
  c = '\n' || c = '\r' || c = '\x85' || c = '\u2028' || c = '\u2029'

/-- Whether the character is a space or a tab. -/
def isSpaceOrTab (c : Char) : Bool := c = ' ' || c = '\t'

/-- Whether a line ends before the character, or the text does. -/
def endsLine : Option Char → Bool
  | none => true
  | some c => isBreak c

/-- Whether a word that no tab can end ends before the character. -/
def endsField : Option Char → Bool
  | none => true
  | some c => c = ' ' || isBreak c

/-- Whether a word ends before the character. -/
def endsWord : Option Char → Bool
  | none => true
  | some c => isSpaceOrTab c || isBreak c

/-- Whether the character may stand in a name: an ASCII letter or digit, a hyphen or an
underscore. -/
def isNameChar (c : Char) : Bool := c.isAlphanum || c = '-' || c = '_'

/-- Whether the character is a digit of base sixteen. -/
def isHexDigit (c : Char) : Bool :=
  c.isDigit || ('a' ≤ c && c ≤ 'f') || ('A' ≤ c && c ≤ 'F')

/-- The value of a number written in base sixteen. -/
def hexValue (digits : List Char) : Nat :=
  digits.foldl
    (fun value c =>
      let code := c.toLower.toNat
      value * 16 + (if code < 0x61 then code - 0x30 else code - 0x61 + 10))
    0

/-- The rest of a text and where it starts. -/
structure Cursor where
  rest : List Char
  /-- At least the length of the rest: a bound for every loop from here on. -/
  bound : Nat
  index : Nat := 0
  line : Nat := 0
  column : Nat := 0
  /-- Why the text cannot be had beyond the rest, unless it ends there. -/
  wall : Option Failure := none

namespace Cursor

/-- The next character, none at the end of the text. -/
def peek? (c : Cursor) : Option Char := c.rest.head?

/-- The character `n` places further on. -/
def peekAt? (c : Cursor) (n : Nat) : Option Char := c.rest[n]?

/-- The cursor after one character. A byte order mark takes no column. -/
def step (c : Cursor) : Cursor :=
  match c.rest with
  | [] => c
  | ch :: rest =>
    if isBreak ch && !(ch = '\r' && rest.head? = some '\n') then
      ⟨rest, c.bound, c.index + 1, c.line + 1, 0, c.wall⟩
    else if ch = '\ufeff' then ⟨rest, c.bound, c.index + 1, c.line, c.column, c.wall⟩
    else ⟨rest, c.bound, c.index + 1, c.line, c.column + 1, c.wall⟩

/-- The cursor after `n` characters. -/
def advance : Nat → Cursor → Cursor
  | 0, c => c
  | n + 1, c => advance n c.step

/-- The longest run of characters of a class, and the cursor after it. -/
def span (p : Char → Bool) (c : Cursor) : List Char × Cursor :=
  let run := c.rest.takeWhile p
  (run, c.advance run.length)

/-- The cursor after the longest run of characters of a class. -/
def skip (p : Char → Bool) (c : Cursor) : Cursor := (c.span p).2

/-- The line break at the cursor, if any, in its normal form, and the cursor after it. A line or
paragraph separator stays what it is, every other break becomes a line feed. -/
def lineBreak (c : Cursor) : List Char × Cursor :=
  match c.rest with
  | '\r' :: '\n' :: _ => (['\n'], c.advance 2)
  | ch :: _ =>
    if ch = '\u2028' || ch = '\u2029' then ([ch], c.step)
    else if isBreak ch then (['\n'], c.step)
    else ([], c)
  | [] => ([], c)

/-- Whether three hyphens or three dots stand at the cursor as a word. -/
def atDocumentMark (c : Cursor) : Bool :=
  (c.rest.take 3 = ['-', '-', '-'] || c.rest.take 3 = ['.', '.', '.']) && endsWord (c.peekAt? 3)

/-- The cursor after a comment, if one starts there. -/
def skipComment (c : Cursor) : Cursor :=
  if c.peek? = some '#' then c.skip (!isBreak ·) else c

/-- Whether the text can be had no further, though it does not end there, and why. -/
def wall? (c : Cursor) : Option Failure := if c.rest.isEmpty then c.wall else none

/-- A failure at the cursor. -/
def fail (c : Cursor) (reason : String) : Except Failure α :=
  match c.wall? with
  | some why => .error why
  | none => .error (.malformed s!"line {c.line + 1}, column {c.column + 1}: {reason}")

/-- The cursor, unless it is at a wall. -/
def clear (c : Cursor) : Except Failure Cursor :=
  match c.wall? with
  | some why => .error why
  | none => .ok c

end Cursor

end Transducer.Yaml
