import Transducer.Disk.TextFile
import Transducer.Log.Logged
import Transducer.Text.Blank

/-!
# Templates

A template is a text with tokens: a name between double braces, with blanks around it or not. A text
falls into tokens and single code points from left to right, and filling a template replaces every
token once.
-/

namespace Transducer

open Document Log

namespace Template

/-- A part of a template. -/
inductive Piece where
  /-- A code point that stands for itself. -/
  | literal (p : CodePoint)
  /-- A token, with its text and the name in it. -/
  | token (source name : Text)
  deriving DecidableEq, Repr

/-- Whether a name can start with the character. -/
def isNameStart (c : Char) : Bool := c.isAlpha || c = '_'

/-- Whether a name can go on with the character. -/
def isNamePart (c : Char) : Bool := c.isAlphanum || c = '_'

/-- The name and the length of the token that a text starts with. -/
def tokenAt? (text : Text) : Option (Text × Nat) :=
  match text with
  | .char '\x7b' :: .char '\x7b' :: rest =>
    let before := rest.takeWhile (·.isIn Text.isBlank)
    let opened := rest.dropWhile (·.isIn Text.isBlank)
    match opened with
    | p :: _ =>
      if p.isIn isNameStart then
        let name := opened.takeWhile (·.isIn isNamePart)
        let after := opened.dropWhile (·.isIn isNamePart)
        let blanks := after.takeWhile (·.isIn Text.isBlank)
        match after.dropWhile (·.isIn Text.isBlank) with
        | .char '\x7d' :: .char '\x7d' :: _ =>
          some (name, before.length + name.length + blanks.length + 4)
        | _ => none
      else none
    | [] => none
  | _ => none

/-- The pieces of a text of which the first `skip` code points belong to a token before it. -/
def piecesFrom : Nat → Text → List Piece
  | _, [] => []
  | skip + 1, _ :: rest => piecesFrom skip rest
  | 0, p :: rest =>
    match tokenAt? (p :: rest) with
    | some (name, length) => .token ((p :: rest).take length) name :: piecesFrom (length - 1) rest
    | none => .literal p :: piecesFrom 0 rest

/-- The pieces of a template. -/
def pieces (template : Text) : List Piece := piecesFrom 0 template

/-- The name of a piece that is a token. -/
def Piece.name? : Piece → Option Text
  | .literal _ => none
  | .token _ name => some name

/-- The names in the tokens of a template, each once, in the order of their first appearance. This
is `find_tokens`. -/
def tokens (template : Text) : List Text := ((pieces template).filterMap Piece.name?).eraseDups

/-- The text of a piece, a token being replaced by its value. -/
def Piece.fill (values : List (Text × Text)) : Piece → Text
  | .literal p => [p]
  | .token source name => (values.lookup name).getD source

/-- The names in the tokens of a template that have no value. -/
def unknown (values : List (Text × Text)) (template : Text) : List Text :=
  (tokens template).filter fun name => (values.lookup name).isNone

/-- The template with every token replaced by its value. -/
def fill (values : List (Text × Text)) (template : Text) : Text :=
  (pieces template).flatMap (Piece.fill values)

/-- The logger of the templates. -/
def loggerName : String := "generator.templates"

/-- Fills a template; `title` is its name in reports. This is `render_template`. -/
def render (title template : Text) (values : List (Text × Text)) : Stage Report Text := do
  let missing := unknown values template
  if missing.isEmpty then return fill values template
  else
    event .error loggerName "template_tokens_unresolved"
      [("template", .text title), ("tokens", .texts missing)]
    throw (.template title "has unresolved placeholders" missing)

end Template

/-- The two templates of the generated code. -/
structure Templates where
  header : Text
  source : Text
  deriving DecidableEq, Repr

namespace Templates

/-- A text of whole lines. -/
def ofLines (lines : List String) : String := String.join (lines.map (· ++ "\n"))

/-- The header template that is used unless another one is given. -/
def headerLines : List String :=
  ["#ifndef SM_\x7b\x7bname\x7d\x7d_H",
    "#define SM_\x7b\x7bname\x7d\x7d_H",
    "",
    "#include <stdbool.h>",
    "",
    "enum SMStates_\x7b\x7bname\x7d\x7d",
    "\x7b",
    "\x7b\x7bstates\x7d\x7d",
    "\x7d;",
    "",
    "struct SMInput_\x7b\x7bname\x7d\x7d",
    "\x7b",
    "\x7b\x7binputs\x7d\x7d",
    "\x7d;",
    "",
    "struct SMOutput_\x7b\x7bname\x7d\x7d",
    "\x7b",
    "\x7b\x7boutputs\x7d\x7d",
    "\x7d;",
    "",
    "static const enum SMStates_\x7b\x7bname\x7d\x7d SMStart_\x7b\x7bname\x7d\x7d" ++
      " = \x7b\x7bstart_state\x7d\x7d;",
    "",
    "void sm_\x7b\x7bname\x7d\x7d (enum SMStates_\x7b\x7bname\x7d\x7d *state,",
    "    struct SMInput_\x7b\x7bname\x7d\x7d input,",
    "    struct SMOutput_\x7b\x7bname\x7d\x7d *output);",
    "",
    "#endif"]

/-- The source template that is used unless another one is given. -/
def sourceLines : List String :=
  ["#include \"\x7b\x7bname\x7d\x7d.h\"",
    "",
    "void sm_\x7b\x7bname\x7d\x7d (enum SMStates_\x7b\x7bname\x7d\x7d *state,",
    "    struct SMInput_\x7b\x7bname\x7d\x7d input,",
    "    struct SMOutput_\x7b\x7bname\x7d\x7d *output)",
    "\x7b",
    "\x7b\x7breset_outputs\x7d\x7d",
    "",
    "    switch (*state)",
    "    \x7b",
    "\x7b\x7bstate_cases\x7d\x7d",
    "    default:",
    "        break;",
    "    \x7d",
    "\x7d"]

/-- The templates that are used unless others are given. -/
def embedded : Templates := ⟨ofLines headerLines, ofLines sourceLines⟩

/-- The name of the file with the header template. -/
def headerFile : String := "header.h.tmpl"

/-- The name of the file with the source template. -/
def sourceFile : String := "source.c.tmpl"

/-- Reads one template. -/
def readOne (disk : Disk) (path : Path) : Stage Halt Text := do
  match disk.readText path with
  | .ok text => return text
  | .error e =>
    let halt := e.halt (.template path.text ("could not be read (" ++ e.message ++ ")"))
    match halt with
    | .defect _ => throw halt
    | .report _ =>
      event .error Template.loggerName "template_read_failed"
        [("path", .text path.text), ("error", .text e.message)]
      throw halt

/-- Reads the templates of a directory. This is `load_templates`. -/
def ofDirectory (disk : Disk) (directory : Path) : Stage Halt Templates := do
  let header ← readOne disk (directory.join (.ofText headerFile))
  let source ← readOne disk (directory.join (.ofText sourceFile))
  event .debug Template.loggerName "templates_loaded" [("path", .text directory.text)]
  return ⟨header, source⟩

end Templates

end Transducer
