import Transducer.Yaml.Token

/-!
# Layout

Indentation and the place of colons decide where collections begin and end. A token that may turn
out to be a key is remembered as a candidate until a colon follows it on the same line, within 1024
characters; the key is then marked in front of that token.
-/

namespace Transducer.Yaml

open Cursor

/-- A token that a colon would turn into a key: its number, whether it has to be one, and where it
starts. -/
structure Candidate where
  number : Nat
  required : Bool
  index : Nat
  line : Nat
  column : Nat

/-- A key found at a token; `opens` says whether a block mapping starts with it. -/
structure KeyMark where
  number : Nat
  opens : Bool

/-- The state of reading: the place in the text, the nesting of flow collections, the indentation of
the block collections, and what has been read. -/
structure Layout where
  cursor : Cursor
  /-- The number of flow collections around the cursor. -/
  flow : Nat := 0
  /-- The column of the innermost block collection, -1 outside all of them. -/
  indent : Int := -1
  /-- The columns of the block collections around it. -/
  outer : List Int := []
  /-- Whether a key may start at the cursor. -/
  keyAllowed : Bool := true
  /-- At most one candidate for each depth of flow collections. -/
  candidates : List (Nat × Candidate) := []
  /-- The tokens, the last one first. -/
  tokens : List Token := []
  /-- The number of tokens. -/
  count : Nat := 0
  /-- The keys found, the last one first. -/
  marks : List KeyMark := []
  /-- Whether the text has been read to its end. -/
  finished : Bool := false

namespace Layout

/-- Adds a token. -/
def emit (s : Layout) (token : Token) : Layout :=
  { s with tokens := token :: s.tokens, count := s.count + 1 }

/-- Whether a candidate can no longer become a key. -/
def isStale (s : Layout) (k : Candidate) : Bool :=
  k.line != s.cursor.line || 1024 < s.cursor.index - k.index

/-- Forgets the candidates that are too far away; a required one is a failure. -/
def dropStale (s : Layout) : Except Failure Layout :=
  if s.candidates.any fun k => s.isStale k.2 && k.2.required then
    s.cursor.fail "a key without its colon"
  else .ok { s with candidates := s.candidates.filter fun k => !s.isStale k.2 }

/-- Forgets the candidate of the current depth; a required one is a failure. -/
def dropCandidate (s : Layout) : Except Failure Layout :=
  if s.candidates.any fun k => k.1 = s.flow && k.2.required then
    s.cursor.fail "a key without its colon"
  else .ok { s with candidates := s.candidates.filter fun k => k.1 != s.flow }

/-- Makes the next token a candidate, if a key may stand here. -/
def addCandidate (s : Layout) : Except Failure Layout := do
  if s.keyAllowed then
    let required := s.flow = 0 && s.indent = s.cursor.column
    let s ← s.dropCandidate
    let candidate : Candidate :=
      ⟨s.count, required, s.cursor.index, s.cursor.line, s.cursor.column⟩
    return { s with candidates := (s.flow, candidate) :: s.candidates }
  else return s

/-- The block collections that end before a column: the indentation then, the columns around it and
the number of collections that ended. -/
def closed (column : Int) : Int → List Int → Int × List Int × Nat
  | indent, [] => (indent, [], 0)
  | indent, o :: outer =>
    if column < indent then
      let (indent, outer, n) := closed column o outer
      (indent, outer, n + 1)
    else (indent, o :: outer, 0)

/-- Ends the block collections that lie right of a column; inside a flow collection none ends. -/
def unwind (s : Layout) (column : Int) : Layout :=
  if s.flow = 0 then
    let (indent, outer, n) := closed column s.indent s.outer
    { s with
      indent := indent
      outer := outer
      tokens := List.replicate n .blockEnd ++ s.tokens
      count := s.count + n }
  else s

/-- Starts a block collection at a column, unless one is there already. -/
def indentTo (s : Layout) (column : Nat) : Bool × Layout :=
  if s.indent < column then (true, { s with outer := s.indent :: s.outer, indent := column })
  else (false, s)

/-- Starts a block collection at the cursor with the given token, unless one is there already. -/
def openBlock (s : Layout) (token : Token) : Layout :=
  match s.indentTo s.cursor.column with
  | (true, s) => s.emit token
  | (false, s) => s

/-- Skips spaces, comments and line breaks. After a line break outside flow collections a key may
start. -/
def toNextToken : Nat → Layout → Layout
  | 0, s => s
  | fuel + 1, s =>
    let c := (s.cursor.skip (· = ' ')).skipComment
    match c.lineBreak with
    | ([], c) => { s with cursor := c }
    | (_, c) => toNextToken fuel { s with cursor := c, keyAllowed := s.keyAllowed || s.flow = 0 }

/-- The end of the text ends every block collection. -/
def finish (s : Layout) : Except Failure Layout := do
  let s ← (s.unwind (-1)).dropCandidate
  return { s with finished := true }

/-- A directive. -/
def directive (s : Layout) : Except Failure Layout := do
  let s ← (s.unwind (-1)).dropCandidate
  let (token, c) ← directiveToken s.cursor
  return { s.emit token with cursor := c, keyAllowed := false }

/-- A mark between documents. -/
def documentMark (s : Layout) (token : Token) : Except Failure Layout := do
  let s ← (s.unwind (-1)).dropCandidate
  return { s.emit token with cursor := s.cursor.advance 3, keyAllowed := false }

/-- The start of a flow collection, which may be a key as a whole. -/
def openFlow (s : Layout) (token : Token) : Except Failure Layout := do
  let s ← s.addCandidate
  return { s.emit token with cursor := s.cursor.step, flow := s.flow + 1, keyAllowed := true }

/-- The end of a flow collection. -/
def closeFlow (s : Layout) (token : Token) : Except Failure Layout := do
  if s.flow = 0 then s.cursor.fail "the end of a collection that did not start"
  else
    let s ← s.dropCandidate
    return { s.emit token with cursor := s.cursor.step, flow := s.flow - 1, keyAllowed := false }

/-- A comma in a flow collection. -/
def flowEntry (s : Layout) : Except Failure Layout := do
  let s ← s.dropCandidate
  return { s.emit .flowEntry with cursor := s.cursor.step, keyAllowed := true }

/-- A hyphen before an item of a block sequence. -/
def blockEntry (s : Layout) : Except Failure Layout := do
  if s.flow = 0 && !s.keyAllowed then s.cursor.fail "an item where none may start"
  else
    let s := if s.flow = 0 then s.openBlock .blockSequenceStart else s
    let s ← s.dropCandidate
    return { s.emit .blockEntry with cursor := s.cursor.step, keyAllowed := true }

/-- A question mark before a key. -/
def explicitKey (s : Layout) : Except Failure Layout := do
  if s.flow = 0 && !s.keyAllowed then s.cursor.fail "a key where none may start"
  else
    let s := if s.flow = 0 then s.openBlock .blockMappingStart else s
    let s ← s.dropCandidate
    return { s.emit .key with cursor := s.cursor.step, keyAllowed := s.flow = 0 }

/-- A colon turns the candidate of the current depth into a key; without one it belongs to a key
that was marked as such. -/
def colon (s : Layout) : Except Failure Layout := do
  match s.candidates.lookup s.flow with
  | some k =>
    let (opens, s) := if s.flow = 0 then s.indentTo k.column else (false, s)
    let s := { s with
      candidates := s.candidates.filter fun k => k.1 != s.flow
      marks := ⟨k.number, opens⟩ :: s.marks
      keyAllowed := false }
    return { s.emit .value with cursor := s.cursor.step }
  | none =>
    if s.flow = 0 && !s.keyAllowed then s.cursor.fail "a value where none may start"
    else
      let s := if s.flow = 0 then s.openBlock .blockMappingStart else s
      let s ← s.dropCandidate
      return { s.emit .value with cursor := s.cursor.step, keyAllowed := s.flow = 0 }

/-- An anchor or alias. -/
def named (s : Layout) (token : String → Token) : Except Failure Layout := do
  let s ← s.addCandidate
  let (name, c) ← anchorName s.cursor
  return { s.emit (token name) with cursor := c, keyAllowed := false }

/-- A tag. -/
def tag (s : Layout) : Except Failure Layout := do
  let s ← s.addCandidate
  let (token, c) ← tagToken s.cursor
  return { s.emit token with cursor := c, keyAllowed := false }

/-- A block scalar. -/
def block (s : Layout) (folded : Bool) : Except Failure Layout := do
  let s ← s.dropCandidate
  let (text, c) ← blockScalar folded s.indent s.cursor
  return { s.emit (.scalar text false) with cursor := c, keyAllowed := true }

/-- A quoted scalar. -/
def quoted (s : Layout) (mark : Char) : Except Failure Layout := do
  let s ← s.addCandidate
  let (text, c) ← quotedScalar mark s.cursor
  return { s.emit (.scalar text false) with cursor := c, keyAllowed := false }

/-- A plain scalar; a key may follow it when it ends with a line break. -/
def plain (s : Layout) : Except Failure Layout := do
  let s ← s.addCandidate
  let (text, c, broken) := plainScalar (s.flow != 0) (s.indent + 1) s.cursor
  return { s.emit (.scalar text true) with cursor := c, keyAllowed := broken }

/-- Whether a plain scalar may start with the character before the given next one. -/
def startsPlain (s : Layout) (c : Char) (next : Option Char) : Bool :=
  !(endsWord (some c) || "-?:,[]\x7b\x7d#&*!|>'\"%@`".toList.contains c) ||
    (!endsWord next && (c = '-' || (s.flow = 0 && (c = '?' || c = ':'))))

/-- Reads the token that starts at the cursor. -/
def token (s : Layout) : Except Failure Layout :=
  let next := s.cursor.peekAt? 1
  match s.cursor.peek? with
  | none => s.finish
  | some c =>
    let lineStart := s.cursor.column = 0
    if c = '%' && lineStart then s.directive
    else if c = '-' && lineStart && s.cursor.atDocumentMark then s.documentMark .documentStart
    else if c = '.' && lineStart && s.cursor.atDocumentMark then s.documentMark .documentEnd
    else if c = '[' then s.openFlow .flowSequenceStart
    else if c = '\x7b' then s.openFlow .flowMappingStart
    else if c = ']' then s.closeFlow .flowSequenceEnd
    else if c = '\x7d' then s.closeFlow .flowMappingEnd
    else if c = ',' then s.flowEntry
    else if c = '-' && endsWord next then s.blockEntry
    else if c = '?' && (s.flow != 0 || endsWord next) then s.explicitKey
    else if c = ':' && (s.flow != 0 || endsWord next) then s.colon
    else if c = '*' then s.named .alias
    else if c = '&' then s.named .anchor
    else if c = '!' then s.tag
    else if c = '|' && s.flow = 0 then s.block false
    else if c = '>' && s.flow = 0 then s.block true
    else if c = '\'' || c = '"' then s.quoted c
    else if s.startsPlain c next then s.plain
    else s.cursor.fail "a character that starts no token"

/-- Reads the next token. The character after it has to be known. -/
def fetch (s : Layout) : Except Failure Layout := do
  let s := toNextToken (s.cursor.bound + 1) s
  let _ ← s.cursor.clear
  let s ← s.dropStale
  let s ← (s.unwind s.cursor.column).token
  let _ ← s.cursor.clear
  return s

/-- Reads tokens until the end of the text, or until reading fails. Each token takes at least one
character, so the length of the text bounds their number. -/
def fetchAll : Nat → Layout → Layout × Option Failure
  | 0, s => (s, none)
  | fuel + 1, s =>
    if s.finished then (s, none)
    else
      match s.fetch with
      | .error why => (s, some why)
      | .ok s => fetchAll fuel s

/-- The tokens that a mark puts in front of its token. -/
def markTokens (mark : KeyMark) : List Token :=
  if mark.opens then [.blockMappingStart, .key] else [.key]

/-- The tokens from the number `n` on, with the keys marked among them; the marks are in the order
of their numbers. -/
def withMarks : Nat → List KeyMark → List Token → List Token
  | _, _, [] => []
  | n, [], token :: rest => token :: withMarks (n + 1) [] rest
  | n, mark :: marks, token :: rest =>
    if mark.number = n then markTokens mark ++ token :: withMarks (n + 1) marks rest
    else token :: withMarks (n + 1) (mark :: marks) rest

/-- Puts a mark in front of those with greater numbers. -/
def insertMark (mark : KeyMark) : List KeyMark → List KeyMark
  | [] => [mark]
  | next :: rest =>
    if mark.number < next.number then mark :: next :: rest else next :: insertMark mark rest

/-- The marks in the order of their numbers. -/
def sortedMarks (marks : List KeyMark) : List KeyMark :=
  marks.foldl (fun sorted mark => insertMark mark sorted) []

/-- The tokens that are known before the text is read further. As long as a token may turn out to be
a key, neither it nor anything after it is known. -/
def known (s : Layout) : List Token :=
  let undecided := s.candidates.filter fun k => !s.isStale k.2
  let count := undecided.foldl (fun n k => min n k.2.number) s.count
  withMarks 0 (sortedMarks s.marks) (s.tokens.reverse.take count)

end Layout

/-- The tokens of a text. If the text cannot be read to its end, the last token says why. -/
def Token.ofSource (source : Source) : List Token :=
  let bound := source.chars.length
  let start : Cursor := { rest := source.chars, bound := bound, wall := source.wall }
  let start := if start.peek? = some '\ufeff' then start.step else start
  match Layout.fetchAll (bound + 2) { cursor := start } with
  | (s, none) => Layout.withMarks 0 (Layout.sortedMarks s.marks) s.tokens.reverse
  | (s, some why) => s.known ++ [.broken why]

end Transducer.Yaml
