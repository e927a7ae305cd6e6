import Transducer.Machine.Select

/-!
# Blocks of code

The lists of states, fields, assignments and cases that the templates have room for.
-/

namespace Transducer.Code

/-- One level of indentation. -/
def indent : Text := "    "

/-- The field of a structure that would otherwise be empty. -/
def unusedField : Text := "_unused"

/-- The condition under which a transition is taken: all its inputs are true. This is
`format_guard`. -/
def guardText (symbols : List Text) : Text :=
  if symbols.isEmpty then "true"
  else Text.join " && " (symbols.map ("input." ++ ·))

/-- Lines, with a line break between any two. -/
def joinLines (lines : List Text) : Text := Text.join "\n" lines

/-- The list of states. This is `_state_enum_block`. -/
def stateBlock (m : Moore) : Text := joinLines (m.states.map fun state => indent ++ state ++ ",")

/-- The fields of a structure of signals. This is `_field_block`. -/
def fieldBlock (symbols : List Text) : Text :=
  if symbols.isEmpty then indent ++ "bool " ++ unusedField ++ ";"
  else joinLines (symbols.map fun symbol => indent ++ "bool " ++ symbol ++ ";")

/-- The assignments that make every output false. This is `_reset_block`. -/
def resetBlock (m : Moore) : Text :=
  joinLines (m.outputs.map fun symbol => indent ++ "output->" ++ symbol ++ " = false;")

/-- A transition in the case of its state. -/
structure Branch where
  guard : List Text
  target : Text
  deriving DecidableEq, Repr

/-- What the code does in one state. -/
structure Case where
  state : Text
  /-- The output that becomes true. -/
  output : Option Text
  /-- The transitions, of which the first whose guard holds is taken. -/
  branches : List Branch
  deriving DecidableEq, Repr

/-- The case of a state. -/
def caseOf (m : Moore) (state : Text) : Case where
  state := state
  output := (OutputRule.select? state m.outputRules).map OutputRule.output
  branches := (MooreTransition.select state m.transitions).map fun t => ⟨t.guard, t.target⟩

/-- The cases of a machine, one for every state. -/
def cases (m : Moore) : List Case := m.states.map (caseOf m)

/-- The lines of a branch after the word that starts it. -/
def Branch.lines (keyword : Text) (b : Branch) : List Text :=
  let body := indent ++ indent
  [body ++ keyword ++ " (" ++ guardText b.guard ++ ")",
    body ++ "\x7b",
    body ++ indent ++ "*state = " ++ b.target ++ ";",
    body ++ "\x7d"]

/-- The lines of the branches of a case; all but the first are alternatives. -/
def branchLines : List Branch → List Text
  | [] => []
  | first :: rest => first.lines "if" ++ rest.flatMap (Branch.lines "else if")

/-- The line that makes the output of a state true. -/
def outputLines (output : Option Text) : List Text :=
  output.toList.map fun symbol => indent ++ indent ++ "output->" ++ symbol ++ " = true;"

/-- The lines of a case. -/
def Case.lines (c : Case) : List Text :=
  (indent ++ "case " ++ c.state ++ ":") ::
    (outputLines c.output ++ branchLines c.branches ++ [indent ++ indent ++ "break;"])

/-- The text of a case, with a line break at its end. This is `_state_case`. -/
def Case.text (c : Case) : Text := joinLines c.lines ++ "\n"

/-- The cases of a machine, with an empty line between any two. -/
def caseBlock (m : Moore) : Text := joinLines ((cases m).map Case.text)

end Transducer.Code
