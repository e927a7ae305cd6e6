import Transducer.Text.Utf8
import Transducer.Yaml.Cursor

/-!
# The text of scalars

A scalar is written plainly, in single or double quotes, or as a block of lines. Each function
takes the cursor at the start of a scalar and gives its text and the cursor after it.
-/

namespace Transducer.Yaml

open Cursor

/-! ## Plain scalars -/

/-- Whether a colon before the character ends a plain scalar. -/
def endsAtColon (inFlow : Bool) (next : Option Char) : Bool :=
  endsWord next || (inFlow && next.any (",[]\x7b\x7d".toList.contains ·))

/-- The length of the run of characters of a plain scalar. In a flow collection the scalar also
ends at the characters that structure the collection. -/
def plainRun (inFlow : Bool) : List Char → Nat
  | [] => 0
  | c :: rest =>
    if endsWord (some c) then 0
    else if c = ':' && endsAtColon inFlow rest.head? then 0
    else if inFlow && ",?[]\x7b\x7d".toList.contains c then 0
    else plainRun inFlow rest + 1

/-- The line breaks and spaces after the first break inside a plain scalar: the breaks, the cursor,
and whether a document mark ended them. -/
def plainBreaks : Nat → Cursor → List Char × Cursor × Bool
  | 0, c => ([], c, false)
  | fuel + 1, c =>
    match c.peek? with
    | some ' ' => plainBreaks fuel c.step
    | ch =>
      if ch.any isBreak then
        let (first, c) := c.lineBreak
        if c.atDocumentMark then ([], c, true)
        else
          let (breaks, c, marked) := plainBreaks fuel c
          (first ++ breaks, c, marked)
      else ([], c, false)

/-- The space between two runs of a plain scalar: its text, the cursor after it and whether it holds
a line break. An empty text ends the scalar. -/
def plainSpace (c : Cursor) : List Char × Cursor × Bool :=
  let (spaces, c) := c.span (· = ' ')
  if c.peek?.any isBreak then
    let (first, c) := c.lineBreak
    if c.atDocumentMark then ([], c, true)
    else
      let (breaks, c, marked) := plainBreaks c.bound c
      if marked then ([], c, true)
      else if first ≠ ['\n'] then (first ++ breaks, c, true)
      else if breaks.isEmpty then ([' '], c, true)
      else (breaks, c, true)
  else (spaces, c, false)

/-- The runs of a plain scalar from the cursor on; `space` is the text before the next run and
`broken` says whether it holds a line break. -/
def plainRuns (inFlow : Bool) (indent : Int) :
    Nat → List Char → Bool → Cursor → List Char × Cursor × Bool
  | 0, _, broken, c => ([], c, broken)
  | fuel + 1, space, broken, c =>
    if c.peek? = some '#' then ([], c, broken)
    else
      let length := plainRun inFlow c.rest
      if length = 0 then ([], c, broken)
      else
        let run := c.rest.take length
        let (next, c, broken) := plainSpace (c.advance length)
        if next.isEmpty || c.peek? = some '#' || (!inFlow && c.column < indent) then
          (space ++ run, c, broken)
        else
          let (more, c, broken) := plainRuns inFlow indent fuel next broken c
          (space ++ run ++ more, c, broken)

/-- A plain scalar: its text, the cursor after it and whether a line break was read last. Lines
that belong to it start at column `indent` or further right. -/
def plainScalar (inFlow : Bool) (indent : Int) (c : Cursor) : Text × Cursor × Bool :=
  let (text, c, broken) := plainRuns inFlow indent (c.bound + 1) [] false c
  (Text.ofChars text, c, broken)

/-! ## Quoted scalars -/

/-- The character that a letter after a backslash stands for. -/
def escape? : Char → Option Char
  | '0' => some '\x00'
  | 'a' => some '\x07'
  | 'b' => some '\x08'
  | 't' => some '\t'
  | '\t' => some '\t'
  | 'n' => some '\n'
  | 'v' => some '\x0b'
  | 'f' => some '\x0c'
  | 'r' => some '\r'
  | 'e' => some '\x1b'
  | ' ' => some ' '
  | '"' => some '"'
  | '\\' => some '\\'
  | '/' => some '/'
  | 'N' => some '\x85'
  | '_' => some '\xa0'
  | 'L' => some '\u2028'
  | 'P' => some '\u2029'
  | _ => none

/-- The number of digits after a letter that announces a code point. -/
def escapeWidth? : Char → Option Nat
  | 'x' => some 2
  | 'u' => some 4
  | 'U' => some 8
  | _ => none

/-- An escaped code point. -/
def escapedCode (code : Nat) : Except Failure CodePoint :=
  if 0x80000000 ≤ code then .error (.fault .characterTooLarge)
  else if 0x110000 ≤ code then .error (.fault .character)
  else .ok (.ofCode code)

/-- The empty lines after a line break inside quotes. -/
def quotedBreaks : Nat → Cursor → Except Failure (List Char × Cursor)
  | 0, c => .ok ([], c)
  | fuel + 1, c =>
    if c.atDocumentMark then c.fail "a document mark inside quotes"
    else
      let c := c.skip isSpaceOrTab
      match c.lineBreak with
      | ([], c) => .ok ([], c)
      | (first, c) => do
        let (breaks, c) ← quotedBreaks fuel c
        return (first ++ breaks, c)

/-- What a backslash inside double quotes stands for, the cursor being after the backslash. -/
def escaped (c : Cursor) : Except Failure (Text × Cursor) :=
  match c.peek? with
  | none => c.fail "the text ends after a backslash"
  | some ch =>
    match escape? ch, escapeWidth? ch with
    | some char, _ => .ok ([.char char], c.step)
    | none, some width => do
      let digits := c.step.rest.take width
      if digits.length = width && digits.all isHexDigit then
        return ([← escapedCode (hexValue digits)], c.advance (width + 1))
      else c.fail "an escape without its digits"
    | none, none =>
      if isBreak ch then do
        let (breaks, c) ← quotedBreaks c.bound c.lineBreak.2
        return (Text.ofChars breaks, c)
      else c.fail "an unknown escape"

/-- Whether a run of ordinary characters inside quotes ends at the character. -/
def endsQuotedRun (c : Char) : Bool :=
  c = '\'' || c = '"' || c = '\\' || isSpaceOrTab c || isBreak c

/-- The characters inside quotes up to the next space, line break or end. -/
def quotedRun (double : Bool) : Nat → Cursor → Except Failure (Text × Cursor)
  | 0, c => .ok ([], c)
  | fuel + 1, c => do
    let (chars, c) := c.span (!endsQuotedRun ·)
    let run := Text.ofChars chars
    let continued (text : Text) (c : Cursor) : Except Failure (Text × Cursor) := do
      let (more, c) ← quotedRun double fuel c
      return (run ++ text ++ more, c)
    match c.peek? with
    | some '\'' =>
      if double then continued "'" c.step
      else if c.peekAt? 1 = some '\'' then continued "'" (c.advance 2)
      else return (run, c)
    | some '"' => if double then return (run, c) else continued "\"" c.step
    | some '\\' =>
      if double then
        let (text, c) ← escaped c.step
        continued text c
      else continued "\\" c.step
    | _ => return (run, c)

/-- The space between two words inside quotes; a line break becomes a space unless empty lines
follow it. -/
def quotedSpace (c : Cursor) : Except Failure (List Char × Cursor) := do
  let (spaces, c) := c.span isSpaceOrTab
  match c.peek? with
  | none => c.fail "the text ends inside quotes"
  | some ch =>
    if isBreak ch then
      let (first, c) := c.lineBreak
      let (breaks, c) ← quotedBreaks (c.bound + 1) c
      if first ≠ ['\n'] then return (first ++ breaks, c)
      else if breaks.isEmpty then return ([' '], c)
      else return (breaks, c)
    else return (spaces, c)

/-- The words inside quotes up to the closing quote. -/
def quotedWords (mark : Char) : Nat → Cursor → Except Failure (Text × Cursor)
  | 0, c => .ok ([], c)
  | fuel + 1, c =>
    if c.peek? = some mark then .ok ([], c.step)
    else do
      let (space, c) ← quotedSpace c
      let (word, c) ← quotedRun (mark = '"') (c.bound + 1) c
      let (more, c) ← quotedWords mark fuel c
      return (Text.ofChars space ++ word ++ more, c)

/-- A quoted scalar, the cursor being at its opening quote. -/
def quotedScalar (mark : Char) (c : Cursor) : Except Failure (Text × Cursor) := do
  let c := c.step
  let (word, c) ← quotedRun (mark = '"') (c.bound + 1) c
  let (more, c) ← quotedWords mark (c.bound + 1) c
  return (word ++ more, c)

/-! ## Block scalars -/

/-- What becomes of the line breaks at the end of a block: one is kept, none, or all. -/
inductive Chomping where
  | clip
  | strip
  | keep
  deriving DecidableEq, Repr

/-- The chomping that a sign asks for. -/
def chomping? : Char → Option Chomping
  | '+' => some .keep
  | '-' => some .strip
  | _ => none

/-- An indentation from one to nine after the cursor, if a digit is there. -/
def blockIncrement (c : Cursor) : Except Failure (Option Nat × Cursor) :=
  match c.peek? with
  | some '0' => c.fail "an indentation of zero"
  | some ch => if ch.isDigit then .ok (some (ch.toNat - 0x30), c.step) else .ok (none, c)
  | none => .ok (none, c)

/-- The signs after the indicator of a block scalar: the chomping and the indentation, in either
order. -/
def blockHeader (c : Cursor) : Except Failure (Chomping × Option Nat × Cursor) := do
  match c.peek?.bind chomping? with
  | some chomping =>
    let (increment, c) ← blockIncrement c.step
    return (chomping, increment, c)
  | none =>
    let (increment, c) ← blockIncrement c
    match increment, c.peek?.bind chomping? with
    | some n, some chomping => return (chomping, some n, c.step)
    | increment, _ => return (.clip, increment, c)

/-- The rest of a line that may hold only spaces and a comment. -/
def restOfLine (c : Cursor) : Except Failure Cursor :=
  let c := (c.skip (· = ' ')).skipComment
  if endsLine c.peek? then .ok c.lineBreak.2 else c.fail "text where a line should end"

/-- The empty lines before the first line of a block: their breaks, the widest indentation among
them and the cursor at the first other character. -/
def leadingLines : Nat → Nat → Cursor → List Char × Nat × Cursor
  | 0, widest, c => ([], widest, c)
  | fuel + 1, widest, c =>
    match c.peek? with
    | some ' ' => leadingLines fuel (max widest c.step.column) c.step
    | ch =>
      if ch.any isBreak then
        let (first, c) := c.lineBreak
        let (breaks, widest, c) := leadingLines fuel widest c
        (first ++ breaks, widest, c)
      else ([], widest, c)

/-- The cursor after the spaces of an indentation. -/
def skipIndent (indent : Nat) (c : Cursor) : Cursor :=
  let spaces := (c.rest.takeWhile (· = ' ')).length
  c.advance (min spaces (indent - c.column))

/-- The empty lines inside a block, and the cursor at the next line's text. -/
def blockBreaks (indent : Nat) : Nat → Cursor → List Char × Cursor
  | 0, c => ([], c)
  | fuel + 1, c =>
    let c := skipIndent indent c
    match c.lineBreak with
    | ([], c) => ([], c)
    | (first, c) =>
      let (breaks, c) := blockBreaks indent fuel c
      (first ++ breaks, c)

/-- The lines of a block: the text without what follows the last line, the break after the last
line, the empty lines after it and the cursor. -/
def blockLines (folded : Bool) (indent : Nat) :
    Nat → List Char → Cursor → List Char × List Char × List Char × Cursor
  | 0, breaks, c => ([], [], breaks, c)
  | fuel + 1, breaks, c =>
    if c.column ≠ indent || c.rest.isEmpty then ([], [], breaks, c)
    else
      let startsWithText := !c.peek?.any isSpaceOrTab
      let (line, c) := c.span (!isBreak ·)
      let (ending, c) := c.lineBreak
      let (next, c) := blockBreaks indent (c.bound + 1) c
      if c.column = indent && !c.rest.isEmpty then
        let joint :=
          if folded && ending = ['\n'] && startsWithText && !c.peek?.any isSpaceOrTab then
            if next.isEmpty then [' '] else []
          else ending
        let (more, ending, last, c) := blockLines folded indent fuel next c
        (breaks ++ line ++ joint ++ more, ending, last, c)
      else (breaks ++ line, ending, next, c)

/-- A block scalar, the cursor being at its indicator; `parent` is the indentation of the collection
around it. -/
def blockScalar (folded : Bool) (parent : Int) (c : Cursor) : Except Failure (Text × Cursor) := do
  let (chomping, increment, c) ← blockHeader c.step
  if !endsField c.peek? then c.fail "text after the indicator of a block"
  else
    let c ← restOfLine c
    let least := (max (parent + 1) 1).toNat
    let (breaks, indent, c) :=
      match increment with
      | some n =>
        let indent := least + n - 1
        let (breaks, c) := blockBreaks indent (c.bound + 1) c
        (breaks, indent, c)
      | none =>
        let (breaks, widest, c) := leadingLines (c.bound + 1) 0 c
        (breaks, max least widest, c)
    let (text, ending, last, c) := blockLines folded indent (c.bound + 1) breaks c
    let tail :=
      match chomping with
      | .strip => []
      | .clip => ending
      | .keep => ending ++ last
    return (Text.ofChars (text ++ tail), c)

end Transducer.Yaml
