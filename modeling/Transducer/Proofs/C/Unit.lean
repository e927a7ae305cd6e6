import Transducer.Proofs.C.Syntax

/-!
# Headers and sources

A header stands between the directives that keep it from being read twice. It declares the states as
an enumeration, the input and the output as structures of truth values, the first state as a
constant, and the function that makes a step. A source includes a header and defines the function.
-/

namespace Transducer.C

/-- `enum tag { names };`, with a comma after each name. -/
structure Enumeration where
  tag : Text
  names : List Text
  deriving DecidableEq, Repr

/-- `struct tag { fields };`, every field being a `bool`. -/
structure Record where
  tag : Text
  fields : List Text
  deriving DecidableEq, Repr

/-- `static const enum tag name = value;` -/
structure Constant where
  tag : Text
  name : Text
  value : Text
  deriving DecidableEq, Repr

/-- `void name (enum states *state, struct input input, struct output *output)` -/
structure Prototype where
  name : Text
  /-- The tag of the enumeration that `state` points to. -/
  states : Text
  /-- The tag of the structure that `input` is. -/
  input : Text
  /-- The tag of the structure that `output` points to. -/
  output : Text
  deriving DecidableEq, Repr

/-- A header. -/
structure Header where
  /-- The macro that tells whether the header has been read. -/
  guard : Text
  states : Enumeration
  input : Record
  output : Record
  start : Constant
  function : Prototype
  deriving DecidableEq, Repr

/-- A source: assignments and a `switch` on the state. -/
structure Source where
  /-- The name of the header. -/
  included : Text
  function : Prototype
  before : List Assignment
  items : List Item
  deriving DecidableEq, Repr

/-- The tokens of an enumerator. -/
def enumeratorTokens (name : Text) : List Token := [.word name, .mark .comma]

/-- The tokens of a field. -/
def fieldTokens (name : Text) : List Token := [.word "bool", .word name, .mark .semicolon]

/-- The tokens after the enumerators or the fields. -/
def closing : List Token := [.mark .closeBrace, .mark .semicolon]

/-- The tokens of an enumeration. -/
def Enumeration.tokens (e : Enumeration) : List Token :=
  .word "enum" :: .word e.tag :: .mark .openBrace :: (e.names.flatMap enumeratorTokens ++ closing)

/-- The tokens of a structure. -/
def Record.tokens (r : Record) : List Token :=
  .word "struct" :: .word r.tag :: .mark .openBrace :: (r.fields.flatMap fieldTokens ++ closing)

/-- The tokens of a constant. -/
def Constant.tokens (c : Constant) : List Token :=
  [.word "static", .word "const", .word "enum", .word c.tag, .word c.name, .mark .equals,
    .word c.value, .mark .semicolon]

/-- The tokens of a prototype. -/
def Prototype.tokens (p : Prototype) : List Token :=
  [.word "void", .word p.name, .mark .openParen,
    .word "enum", .word p.states, .mark .star, .word "state", .mark .comma,
    .word "struct", .word p.input, .word "input", .mark .comma,
    .word "struct", .word p.output, .mark .star, .word "output", .mark .closeParen]

/-- The tokens before the declarations. -/
def guardTokens (guard : Text) : List Token :=
  [.directive ("ifndef " ++ guard), .directive ("define " ++ guard),
    .directive "include <stdbool.h>"]

/-- The tokens after the declaration of the function. -/
def headerEnd : List Token := [.mark .semicolon, .directive "endif"]

/-- The tokens of a header. -/
def Header.tokens (h : Header) : List Token :=
  guardTokens h.guard ++ (h.states.tokens ++ (h.input.tokens ++ (h.output.tokens ++
    (h.start.tokens ++ (h.function.tokens ++ headerEnd)))))

/-- The tokens before the cases. -/
def switchStart : List Token :=
  [.word "switch", .mark .openParen, .mark .star, .word "state", .mark .closeParen,
    .mark .openBrace]

/-- The tokens after the cases. -/
def sourceEnd : List Token := [.mark .closeBrace, .mark .closeBrace]

/-- The tokens of a source. -/
def Source.tokens (s : Source) : List Token :=
  .directive ("include \"" ++ s.included ++ "\"") ::
    (s.function.tokens ++ .mark .openBrace :: (s.before.flatMap Assignment.tokens ++
      (switchStart ++ (s.items.flatMap Item.tokens ++ sourceEnd))))

/-- Reads an enumerator. -/
def readEnumerator : List Token → Option (Text × List Token)
  | .word name :: .mark .comma :: ts => some (name, ts)
  | _ => none

/-- Reads a field. -/
def readField : List Token → Option (Text × List Token)
  | .word type :: .word name :: .mark .semicolon :: ts =>
    if type = ("bool" : Text) then some (name, ts) else none
  | _ => none

/-- Reads the tag of an enumeration or a structure and the brace after it. -/
def readTag (keyword : Text) : List Token → Option (Text × List Token)
  | .word w :: .word tag :: .mark .openBrace :: ts => if w = keyword then some (tag, ts) else none
  | _ => none

/-- Reads an enumeration. -/
def Enumeration.read (ts : List Token) : Option (Enumeration × List Token) := do
  let (tag, ts) ← readTag "enum" ts
  let (names, ts) := many readEnumerator ts
  let ts ← strip closing ts
  return (⟨tag, names⟩, ts)

/-- Reads a structure. -/
def Record.read (ts : List Token) : Option (Record × List Token) := do
  let (tag, ts) ← readTag "struct" ts
  let (fields, ts) := many readField ts
  let ts ← strip closing ts
  return (⟨tag, fields⟩, ts)

/-- Reads a name. -/
def readName : List Token → Option (Text × List Token)
  | .word name :: ts => some (name, ts)
  | _ => none

/-- Reads a constant. -/
def Constant.read (ts : List Token) : Option (Constant × List Token) := do
  let ts ← strip [.word "static", .word "const", .word "enum"] ts
  let (tag, ts) ← readName ts
  let (name, ts) ← readName ts
  let ts ← strip [.mark .equals] ts
  let (value, ts) ← readName ts
  let ts ← strip [.mark .semicolon] ts
  return (⟨tag, name, value⟩, ts)

/-- Reads a prototype. -/
def Prototype.read (ts : List Token) : Option (Prototype × List Token) := do
  let ts ← strip [.word "void"] ts
  let (name, ts) ← readName ts
  let ts ← strip [.mark .openParen, .word "enum"] ts
  let (states, ts) ← readName ts
  let ts ← strip [.mark .star, .word "state", .mark .comma, .word "struct"] ts
  let (input, ts) ← readName ts
  let ts ← strip [.word "input", .mark .comma, .word "struct"] ts
  let (output, ts) ← readName ts
  let ts ← strip [.mark .star, .word "output", .mark .closeParen] ts
  return (⟨name, states, input, output⟩, ts)

/-- Reads the directives before a header. -/
def readGuard : List Token → Option (Text × List Token)
  | .directive line :: ts =>
    if line.take 7 = ("ifndef " : Text) then do
      let ts ← strip [.directive ("define " ++ line.drop 7), .directive "include <stdbool.h>"] ts
      return (line.drop 7, ts)
    else none
  | _ => none

/-- Reads a whole header. -/
def Header.read (ts : List Token) : Option Header := do
  let (guard, ts) ← readGuard ts
  let (states, ts) ← Enumeration.read ts
  let (input, ts) ← Record.read ts
  let (output, ts) ← Record.read ts
  let (start, ts) ← Constant.read ts
  let (function, ts) ← Prototype.read ts
  let ts ← strip headerEnd ts
  if ts = [] then return ⟨guard, states, input, output, start, function⟩ else none

/-- Reads the directive that includes a header. -/
def readInclude : List Token → Option (Text × List Token)
  | .directive line :: ts =>
    let file := (line.drop 9).dropLast
    if line = "include \"" ++ file ++ "\"" then some (file, ts) else none
  | _ => none

/-- Reads a whole source. -/
def Source.read (ts : List Token) : Option Source := do
  let (included, ts) ← readInclude ts
  let (function, ts) ← Prototype.read ts
  let ts ← strip [.mark .openBrace] ts
  let (before, ts) := many Assignment.read ts
  let ts ← strip switchStart ts
  let (items, ts) := many Item.read ts
  let ts ← strip sourceEnd ts
  if ts = [] then return ⟨included, function, before, items⟩ else none

/-- A field is read back. -/
theorem readField_tokens (name : Text) (ts : List Token) :
    readField (fieldTokens name ++ ts) = some (name, ts) := by
  rw [fieldTokens, List.cons_append, List.cons_append, List.cons_append, readField, if_pos rfl,
    List.nil_append]

/-- A tag is read back. -/
theorem readTag_cons (keyword tag : Text) (ts : List Token) :
    readTag keyword (.word keyword :: .word tag :: .mark .openBrace :: ts) = some (tag, ts) := by
  rw [readTag, if_pos rfl]

/-- An enumeration is read back. -/
@[simp]
theorem Enumeration.read_tokens (e : Enumeration) (ts : List Token) :
    Enumeration.read (e.tokens ++ ts) = some (e, ts) := by
  have htag : readTag "enum" (e.tokens ++ ts) =
      some (e.tag, e.names.flatMap enumeratorTokens ++ (closing ++ ts)) := by
    rw [← List.append_assoc]
    exact readTag_cons "enum" e.tag _
  have hmany : many readEnumerator (e.names.flatMap enumeratorTokens ++ (closing ++ ts)) =
      (e.names, closing ++ ts) :=
    many_flatMap' (fun _ _ => rfl) (by simp [enumeratorTokens]) rfl e.names
  simp only [Enumeration.read, htag, hmany, Option.bind_eq_bind, Option.bind_some, strip_append]
  rfl

/-- A structure is read back. -/
@[simp]
theorem Record.read_tokens (r : Record) (ts : List Token) :
    Record.read (r.tokens ++ ts) = some (r, ts) := by
  have htag : readTag "struct" (r.tokens ++ ts) =
      some (r.tag, r.fields.flatMap fieldTokens ++ (closing ++ ts)) := by
    rw [← List.append_assoc]
    exact readTag_cons "struct" r.tag _
  have hmany : many readField (r.fields.flatMap fieldTokens ++ (closing ++ ts)) =
      (r.fields, closing ++ ts) :=
    many_flatMap' readField_tokens (by simp [fieldTokens]) rfl r.fields
  simp only [Record.read, htag, hmany, Option.bind_eq_bind, Option.bind_some, strip_append]
  rfl

/-- A constant is read back. -/
@[simp]
theorem Constant.read_tokens (c : Constant) (ts : List Token) :
    Constant.read (c.tokens ++ ts) = some (c, ts) := by
  simp only [Constant.read, Constant.tokens, List.cons_append, List.nil_append, strip_cons,
    strip_nil, readName, Option.bind_eq_bind, Option.bind_some]
  rfl

/-- A prototype is read back. -/
@[simp]
theorem Prototype.read_tokens (p : Prototype) (ts : List Token) :
    Prototype.read (p.tokens ++ ts) = some (p, ts) := by
  simp only [Prototype.read, Prototype.tokens, List.cons_append, List.nil_append, strip_cons,
    strip_nil, readName, Option.bind_eq_bind, Option.bind_some]
  rfl

/-- The directives before a header are read back. -/
theorem readGuard_tokens (guard : Text) (ts : List Token) :
    readGuard (guardTokens guard ++ ts) = some (guard, ts) := by
  have htake : (("ifndef " : Text) ++ guard).take 7 = ("ifndef " : Text) := List.take_left' rfl
  have hdrop : (("ifndef " : Text) ++ guard).drop 7 = guard := List.drop_left' rfl
  rw [guardTokens, List.cons_append, readGuard, htake, hdrop, if_pos rfl, strip_append]
  rfl

/-- A header is read back. -/
theorem Header.read_tokens (h : Header) : Header.read h.tokens = some h := by
  have hend : strip headerEnd headerEnd = some [] := by
    simpa using strip_append headerEnd []
  simp only [Header.read, Header.tokens, readGuard_tokens, Enumeration.read_tokens,
    Record.read_tokens, Constant.read_tokens, Prototype.read_tokens, hend, Option.bind_eq_bind,
    Option.bind_some]
  rfl

/-- The directive that includes a header is read back. -/
theorem readInclude_directive (file : Text) (ts : List Token) :
    readInclude (.directive ("include \"" ++ file ++ "\"") :: ts) = some (file, ts) := by
  have hdrop : (("include \"" : Text) ++ file ++ "\"").drop 9 = file ++ "\"" := by
    rw [List.append_assoc]
    exact List.drop_left' rfl
  have hfile : (file ++ ("\"" : Text)).dropLast = file := List.dropLast_concat
  rw [readInclude, hdrop, hfile, if_pos rfl]

/-- A source is read back. -/
theorem Source.read_tokens (s : Source) : Source.read s.tokens = some s := by
  have hbefore := Assignment.many_tokens s.before
    (switchStart ++ (s.items.flatMap Item.tokens ++ sourceEnd)) rfl
  have hitems : many Item.read (s.items.flatMap Item.tokens ++ sourceEnd) = (s.items, sourceEnd) :=
    Item.many_tokens s.items [.mark .closeBrace]
  have hend : strip sourceEnd sourceEnd = some [] := by
    simpa using strip_append sourceEnd []
  simp only [Source.read, Source.tokens, readInclude_directive, Prototype.read_tokens, strip_cons,
    strip_nil, hbefore, strip_append, hitems, hend, Option.bind_eq_bind, Option.bind_some]
  rfl

/-- The header that a text is. -/
def Header.ofText? (text : Text) : Option Header := (tokens? text).bind Header.read

/-- The source that a text is. -/
def Source.ofText? (text : Text) : Option Source := (tokens? text).bind Source.read

/-- A text with the tokens of a header is that header. -/
theorem Header.ofText?_of_lexes {text : Text} {h : Header}
    (hlex : Lexes .newLine text h.tokens .newLine) : Header.ofText? text = some h := by
  unfold Header.ofText?
  rw [tokens?_of_lexes hlex, Option.bind_some, Header.read_tokens]

/-- A text with the tokens of a source is that source. -/
theorem Source.ofText?_of_lexes {text : Text} {s : Source}
    (hlex : Lexes .newLine text s.tokens .newLine) : Source.ofText? text = some s := by
  unfold Source.ofText?
  rw [tokens?_of_lexes hlex, Option.bind_some, Source.read_tokens]

end Transducer.C
