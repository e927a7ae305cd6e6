import Transducer.Number.Literal
import Transducer.Yaml.ScalarText

/-!
# Tokens

The tokens of a document, and those of them that are read without regard to the layout around
them: directives, anchors and tags.
-/

namespace Transducer.Yaml

open Cursor

/-- A line before a document that says how to read it. -/
inductive Directive where
  | version (major minor : Nat)
  /-- A handle stands for the start of a tag. -/
  | handle (name uri : String)
  | other (name : String)
  deriving DecidableEq, Repr

/-- A piece of a document. -/
inductive Token where
  | directive (d : Directive)
  | documentStart
  | documentEnd
  | blockSequenceStart
  | blockMappingStart
  | blockEnd
  | flowSequenceStart
  | flowSequenceEnd
  | flowMappingStart
  | flowMappingEnd
  | flowEntry
  | blockEntry
  | key
  | value
  | alias (name : String)
  | anchor (name : String)
  | tag (handle : Option String) (suffix : String)
  | scalar (text : Text) (plain : Bool)
  /-- The text cannot be read beyond this point. -/
  | broken (why : Failure)
  deriving DecidableEq, Repr

/-! ## Tags -/

/-- Whether the character may stand in a tag. -/
def isUriChar (c : Char) : Bool := isNameChar c || ";/?:@&=+$,.!~*'()[]".toList.contains c

/-- The bytes of the escapes from the cursor on. -/
def uriBytes : Nat → Cursor → Except Failure (List UInt8 × Cursor)
  | 0, c => .ok ([], c)
  | fuel + 1, c =>
    if c.peek? = some '%' then
      let digits := c.step.rest.take 2
      if digits.length = 2 && digits.all isHexDigit then do
        let (bytes, c) ← uriBytes fuel (c.advance 3)
        return (UInt8.ofNat (hexValue digits) :: bytes, c)
      else c.fail "an escape in a tag without its digits"
    else .ok ([], c)

/-- The characters of a tag from the cursor on, escapes replaced by what they encode. -/
def uriChars : Nat → Cursor → Except Failure (List Char × Cursor)
  | 0, c => .ok ([], c)
  | fuel + 1, c =>
    if c.peek? = some '%' then do
      let (bytes, next) ← uriBytes fuel c
      match Text.Utf8.decode bytes with
      | .error why => c.fail why.message
      | .ok text =>
        let (more, c) ← uriChars fuel next
        return (text.toList ++ more, c)
    else
      match c.span isUriChar with
      | ([], c) => .ok ([], c)
      | (run, c) => do
        let (more, c) ← uriChars fuel c
        return (run ++ more, c)

/-- A tag or the start of one, of at least one character. -/
def uri (c : Cursor) : Except Failure (String × Cursor) := do
  if c.peek?.any fun ch => isUriChar ch || ch = '%' then
    let (text, c) ← uriChars (c.bound + 1) c
    return (String.ofList text, c)
  else c.fail "a tag without text"

/-- A handle: an exclamation mark alone before a space, or a name between two of them. -/
def tagHandle (c : Cursor) : Except Failure (String × Cursor) :=
  if c.peek? ≠ some '!' then c.fail "a handle without its mark"
  else if c.peekAt? 1 = some ' ' then .ok ("!", c.step)
  else
    let (name, next) := c.step.span isNameChar
    if next.peek? = some '!' then .ok (String.ofList ('!' :: name ++ ['!']), next.step)
    else next.fail "a handle without its closing mark"

/-- A tag, the cursor being at its exclamation mark. -/
def tagToken (c : Cursor) : Except Failure (Token × Cursor) := do
  let (token, c) ←
    if c.peekAt? 1 = some '<' then do
      let (suffix, c) ← uri (c.advance 2)
      if c.peek? = some '>' then pure (Token.tag none suffix, c.step)
      else c.fail "a tag without its closing bracket"
    else if endsWord (c.peekAt? 1) then pure (Token.tag none "!", c.step)
    else
      let word := c.step.rest.takeWhile fun ch => !endsField (some ch)
      let (handle, c) ← if word.contains '!' then tagHandle c else pure ("!", c.step)
      let (suffix, c) ← uri c
      pure (Token.tag (some handle) suffix, c)
  if endsField c.peek? then return (token, c) else c.fail "text directly after a tag"

/-! ## Anchors -/

/-- The name of an anchor or alias, the cursor being at its mark. -/
def anchorName (c : Cursor) : Except Failure (String × Cursor) :=
  let (name, c) := c.step.span isNameChar
  if name.isEmpty then c.fail "an anchor without a name"
  else if endsWord c.peek? || c.peek?.any ("?:,]\x7d%@`".toList.contains ·) then
    .ok (String.ofList name, c)
  else c.fail "text directly after an anchor"

/-! ## Directives -/

/-- A number of a version. -/
def versionNumber (c : Cursor) : Except Failure (Nat × Cursor) :=
  let (digits, next) := c.span Char.isDigit
  if digits.isEmpty then c.fail "a version without a number"
  else if Number.digitLimit < digits.length then .error (.fault .version)
  else .ok (digits.foldl (fun n d => n * 10 + (d.toNat - 0x30)) 0, next)

/-- The version that a directive gives. -/
def versionDirective (c : Cursor) : Except Failure (Directive × Cursor) := do
  let (major, c) ← versionNumber (c.skip (· = ' '))
  if c.peek? = some '.' then
    let (minor, c) ← versionNumber c.step
    if endsField c.peek? then return (.version major minor, c)
    else c.fail "text directly after a version"
  else c.fail "a version without its second number"

/-- The handle that a directive introduces. -/
def handleDirective (c : Cursor) : Except Failure (Directive × Cursor) := do
  let (name, c) ← tagHandle (c.skip (· = ' '))
  if c.peek? = some ' ' then
    let (text, c) ← uri (c.skip (· = ' '))
    if endsField c.peek? then return (.handle name text, c)
    else c.fail "text directly after a tag"
  else c.fail "text directly after a handle"

/-- A directive, the cursor being at its percent sign. -/
def directiveToken (c : Cursor) : Except Failure (Token × Cursor) := do
  let (name, c) := c.step.span isNameChar
  if name.isEmpty then c.fail "a directive without a name"
  else if !endsField c.peek? then c.fail "text directly after the name of a directive"
  else
    let name := String.ofList name
    let (directive, c) ←
      if name = "YAML" then versionDirective c
      else if name = "TAG" then handleDirective c
      else pure (.other name, c.skip (!isBreak ·))
    let c ← restOfLine c
    return (.directive directive, c)

end Transducer.Yaml
