import Transducer.Proofs.C.Unit
import Transducer.Proofs.Code.Rendered

/-!
# The generated code as a header and a source

If the names of a machine are names of C, the generated code is a header and a source of the grammar
in `C/Unit.lean`: its text has their tokens, line by line, and so it is read back as them
(`ofText?_header`, `ofText?_source`). The header and the source are given first, as what the machine
asks for.
-/

namespace Transducer.Code

open C (Token Lexes)

/-! ## The header and the source of a machine -/

/-- The names that the code of a machine can hold. -/
def usedNames (m : Moore) : List Text :=
  m.start :: (m.states ++ m.inputs ++ m.outputs ++
    m.transitions.flatMap (fun t => t.source :: t.target :: t.guard) ++
    m.outputRules.flatMap fun rule => [rule.state, rule.output])

/-- The macro of the header. -/
def guardName (name : Text) : Text := "SM_" ++ name ++ "_H"

/-- The function, with the types of its parameters. -/
def prototypeOf (name : Text) : C.Prototype :=
  ⟨"sm_" ++ name, "SMStates_" ++ name, "SMInput_" ++ name, "SMOutput_" ++ name⟩

/-- The fields of a structure of signals. -/
def fieldsOf (symbols : List Text) : List Text :=
  if symbols.isEmpty then [unusedField] else symbols

/-- The header of a machine. -/
def headerOf (name : Text) (m : Moore) : C.Header where
  guard := guardName name
  states := ⟨"SMStates_" ++ name, m.states⟩
  input := ⟨"SMInput_" ++ name, fieldsOf m.inputs⟩
  output := ⟨"SMOutput_" ++ name, fieldsOf m.outputs⟩
  start := ⟨"SMStates_" ++ name, "SMStart_" ++ name, m.start⟩
  function := prototypeOf name

/-- The condition under which a transition is taken. -/
def conditionOf : List Text → C.Condition
  | [] => ⟨.always, []⟩
  | symbol :: rest => ⟨.input symbol, rest.map .input⟩

/-- A transition as a branch of the code. -/
def branchOf (b : Branch) : C.Branch := ⟨conditionOf b.guard, [.state b.target]⟩

/-- The transitions of a state as an item. -/
def choiceItems : List Branch → List C.Item
  | [] => []
  | first :: rest => [.choice (branchOf first) (rest.map branchOf)]

/-- The items of a case after its label. -/
def bodyItems (c : Case) : List C.Item :=
  c.output.toList.map (fun symbol => C.Item.assign (.output symbol true)) ++
    (choiceItems c.branches ++ [C.Item.exit])

/-- The items of a case. -/
def caseItems (c : Case) : List C.Item := .label c.state :: bodyItems c

/-- The source of a machine. -/
def sourceOf (name : Text) (m : Moore) : C.Source where
  included := name ++ ".h"
  function := prototypeOf name
  before := m.outputs.map fun symbol => .output symbol false
  items := (cases m).flatMap caseItems ++ [C.Item.default, .exit]

/-! ## Lexing lines -/

section Lines

variable {s s' : C.Pending} {a b w : Text} {ts us : List Token}

/-- A name that goes on with a word that the text before it has begun. -/
theorem lexes_suffix {v : Text} (ha : Lexes s a ts (.word w)) (hv : Text.isName v = true)
    (hb : Lexes (.word (w ++ v)) b us s') : Lexes s (a ++ v ++ b) (ts ++ us) s' := by
  have hword := ha.append (.extend w v (Text.isName_all hv))
  rw [List.append_nil] at hword
  exact hword.append hb

/-- A name between two texts. -/
theorem lexes_name (ha : Lexes s a ts .between) (hw : Text.isName w = true)
    (hb : Lexes (.word w) b us s') : Lexes s (a ++ w ++ b) (ts ++ us) s' := by
  have hword := ha.append (.name (.inr rfl) hw)
  rw [List.append_nil] at hword
  exact hword.append hb

/-- A name inside a directive, which ends with the line. -/
theorem lexes_directive {v : Text} {line rest : Text} (ha : Lexes s a [] (.directive line))
    (hv : Text.isName v = true) (hrest : .char '\n' ∉ rest) :
    Lexes s (a ++ v ++ (rest ++ "\n")) [.directive (line ++ v ++ rest)] .newLine := by
  have hline : .char '\n' ∉ v := Text.not_mem_of_isName hv (.inl (by decide))
  have hend : Lexes (.directive (line ++ v ++ rest)) "\n" [.directive (line ++ v ++ rest)]
      .newLine := .literal rfl
  exact (ha.append (.directive line v hline)).append ((C.Lexes.directive _ rest hrest).append hend)

/-- Texts in a row, between each of which the lexer is in one state. -/
theorem lexes_flatMap {α : Type} {text : α → Text} {tokens : α → List Token} (xs : List α)
    (h : ∀ x ∈ xs, Lexes s (text x) (tokens x) s) :
    Lexes s (xs.flatMap text) (xs.flatMap tokens) s := by
  induction xs with
  | nil => rfl
  | cons x xs ih =>
    rw [List.forall_mem_cons] at h
    exact h.1.append (ih h.2)

/-- Texts with a separator: the first, and the others each with the separator in front. -/
theorem join_cons (separator text : Text) (texts : List Text) :
    Text.join separator (text :: texts) = text ++ texts.flatMap (separator ++ ·) := by
  unfold Text.join
  induction texts generalizing text with
  | nil => simp [List.intercalate]
  | cons next texts ih =>
    have hstep : List.intercalate separator (text :: next :: texts) =
        text ++ (separator ++ List.intercalate separator (next :: texts)) := by
      simp [List.intercalate]
    rw [hstep, ih, List.flatMap_cons, List.append_assoc]

/-- Lines with a line break between any two and after the last are whole lines. -/
theorem joinLines_append (line : Text) (lines : List Text) :
    joinLines (line :: lines) ++ "\n" =
      (line :: lines).flatMap fun l => l ++ ("\n" : Text) := by
  unfold joinLines
  rw [join_cons, List.flatMap_cons, List.append_assoc, List.append_assoc]
  congr 1
  induction lines with
  | nil => rfl
  | cons next lines ih =>
    simp only [List.flatMap_cons, List.append_assoc] at ih ⊢
    rw [ih]

/-- The lines of a block, of which there may be none. -/
theorem lexes_block {α : Type} {text : α → Text} {tokens : α → List Token} (xs : List α)
    (h : ∀ x ∈ xs, Lexes .newLine (text x ++ "\n") (tokens x) .newLine) :
    Lexes .newLine (joinLines (xs.map text) ++ "\n") (xs.flatMap tokens) .newLine := by
  cases xs with
  | nil => exact .literal rfl
  | cons x xs =>
    rw [List.map_cons, joinLines_append, ← List.map_cons, List.flatMap_map]
    exact lexes_flatMap (x :: xs) h

/-! The texts that many lines share. -/

/-- An indentation is no token. -/
theorem lexes_indent : Lexes .newLine indent [] .newLine := .literal rfl

/-- An empty line is no token. -/
theorem lexes_blank : Lexes .newLine "\n" [] .newLine := .literal rfl

/-- The end of a line is no token. -/
theorem lexes_end : Lexes .between "\n" [] .newLine := .literal rfl

/-- A line that opens a block. -/
theorem lexes_open : Lexes .newLine "\x7b\n" [.mark .openBrace] .newLine := .literal rfl

/-- A line that closes a type. -/
theorem lexes_close : Lexes .newLine "\x7d;\n" [.mark .closeBrace, .mark .semicolon] .newLine :=
  .literal rfl

/-- The front of an output. -/
theorem lexes_arrow : Lexes .newLine "output->" [.word "output", .mark .arrow] .between :=
  .literal rfl

/-- The front of an input. -/
theorem lexes_input : Lexes .between "input." [.word "input", .mark .dot] .between := .literal rfl

/-- A word ends with its line. -/
theorem lexes_endWord (w : Text) : Lexes (.word w) "\n" [.word w] .newLine := .literal rfl

end Lines

/-! ## The declarations -/

variable {name : Text} {m : Moore}

/-- The directives before the declarations. -/
theorem lexes_guard (hname : Text.isName name = true) :
    Lexes .newLine
      ("#ifndef SM_" ++ name ++ "_H\n" ++ ("#define SM_" ++ name ++ "_H\n" ++
        ("\n" ++ ("#include <stdbool.h>\n" ++ "\n"))))
      [.directive ("ifndef " ++ guardName name), .directive ("define " ++ guardName name),
        .directive "include <stdbool.h>"] .newLine := by
  have hif : Lexes .newLine "#ifndef SM_" [] (.directive "ifndef SM_") := .literal rfl
  have hdefine : Lexes .newLine "#define SM_" [] (.directive "define SM_") := .literal rfl
  have hinclude : Lexes .newLine "#include <stdbool.h>\n" [.directive "include <stdbool.h>"]
      .newLine := .literal rfl
  have hend : .char '\n' ∉ ("_H" : Text) := by decide
  have hguards := (lexes_directive hif hname hend).append (lexes_directive hdefine hname hend)
  have hlines := hguards.append (lexes_blank.append (hinclude.append lexes_blank))
  rw [List.append_assoc] at hlines
  -- The lexer has read the start of the macro with the word before it.
  have hguard (word : String) : Text.ofString (word ++ "SM_") ++ name ++ "_H" =
      word ++ guardName name := by
    simp [guardName]
  rw [← hguard "ifndef ", ← hguard "define "]
  exact hlines

/-- The declaration of the states. -/
theorem lexes_states (hname : Text.isName name = true)
    (hstates : ∀ state ∈ m.states, Text.isName state = true) :
    Lexes .newLine
      ("enum SMStates_" ++ name ++ "\n" ++ ("\x7b\n" ++ (stateBlock m ++ "\n" ++
        ("\x7d;\n" ++ "\n"))))
      (headerOf name m).states.tokens .newLine := by
  have htag : Lexes .newLine "enum SMStates_" [.word "enum"] (.word "SMStates_") := .literal rfl
  have hline : ∀ state ∈ m.states, Lexes .newLine (indent ++ state ++ "," ++ "\n")
      (C.enumeratorTokens state) .newLine := by
    intro state hstate
    have hcomma : Lexes (.word state) "," [.word state, .mark .comma] .between := .literal rfl
    have hword : Lexes .newLine state [] (.word state) := .name (.inl rfl) (hstates state hstate)
    exact ((lexes_indent.append hword).append hcomma).append lexes_end
  have hblock := lexes_block m.states hline
  exact (lexes_suffix htag hname (lexes_endWord _)).append (lexes_open.append (hblock.append
    (lexes_close.append lexes_blank)))

/-- The fields of a structure are declared line by line. -/
theorem fieldBlock_eq (symbols : List Text) :
    fieldBlock symbols =
      joinLines ((fieldsOf symbols).map fun symbol => indent ++ "bool " ++ symbol ++ ";") := by
  cases symbols with
  | nil => rfl
  | cons symbol symbols => rfl

/-- The fields of a structure have names if its signals do. -/
theorem isName_of_mem_fieldsOf {symbols : List Text}
    (h : ∀ symbol ∈ symbols, Text.isName symbol = true) :
    ∀ symbol ∈ fieldsOf symbols, Text.isName symbol = true := by
  cases symbols with
  | nil =>
    intro symbol hsymbol
    obtain rfl := List.mem_singleton.1 hsymbol
    decide
  | cons symbol symbols => exact h

/-- The declaration of a structure, after the line with its tag. -/
theorem lexes_record {symbols : List Text} {line tag : Text}
    (hline : Lexes .newLine line [.word "struct", .word tag] .newLine)
    (hsymbols : ∀ symbol ∈ symbols, Text.isName symbol = true) :
    Lexes .newLine
      (line ++ ("\x7b\n" ++ (fieldBlock symbols ++ "\n" ++ ("\x7d;\n" ++ "\n"))))
      (C.Record.tokens ⟨tag, fieldsOf symbols⟩) .newLine := by
  have hfield : ∀ symbol ∈ fieldsOf symbols, Lexes .newLine
      (indent ++ "bool " ++ symbol ++ ";" ++ "\n") (C.fieldTokens symbol) .newLine := by
    intro symbol hsymbol
    have htype : Lexes .newLine "bool " [.word "bool"] .between := .literal rfl
    have hsemicolon : Lexes (.word symbol) ";" [.word symbol, .mark .semicolon] .between :=
      .literal rfl
    exact (lexes_name (lexes_indent.append htype) (isName_of_mem_fieldsOf hsymbols symbol hsymbol)
      hsemicolon).append lexes_end
  have hblock := lexes_block (fieldsOf symbols) hfield
  rw [← fieldBlock_eq] at hblock
  exact hline.append (lexes_open.append (hblock.append (lexes_close.append lexes_blank)))

/-- The declaration of the first state. -/
theorem lexes_start (hname : Text.isName name = true) (hstart : Text.isName m.start = true) :
    Lexes .newLine
      ("static const enum SMStates_" ++ name ++ " SMStart_" ++ name ++ " = " ++ m.start ++ ";\n" ++
        "\n")
      (headerOf name m).start.tokens .newLine := by
  have htag : Lexes .newLine "static const enum SMStates_"
      [.word "static", .word "const", .word "enum"] (.word "SMStates_") := .literal rfl
  have hconstant : Lexes (.word ("SMStates_" ++ name)) " SMStart_" [.word ("SMStates_" ++ name)]
      (.word "SMStart_") := .literal rfl
  have hequals : Lexes (.word ("SMStart_" ++ name)) " = "
      [.word ("SMStart_" ++ name), .mark .equals] .between := .literal rfl
  have hend : Lexes (.word m.start) ";\n" [.word m.start, .mark .semicolon] .newLine := .literal rfl
  exact (lexes_name (lexes_suffix (lexes_suffix htag hname hconstant) hname hequals) hstart
    hend).append lexes_blank

/-- The declaration of the function up to its closing bracket, in whatever way the line goes on. -/
theorem lexes_prototype (hname : Text.isName name = true) {rest : Text} {ts : List Token}
    (hrest : Lexes .between rest ts .newLine) :
    Lexes .newLine
      ("void sm_" ++ name ++ " (enum SMStates_" ++ name ++ " *state,\n" ++
        ("    struct SMInput_" ++ name ++ " input,\n" ++
          ("    struct SMOutput_" ++ name ++ (" *output)" ++ rest))))
      ((prototypeOf name).tokens ++ ts) .newLine := by
  have hfunction : Lexes .newLine "void sm_" [.word "void"] (.word "sm_") := .literal rfl
  have hstates : Lexes (.word ("sm_" ++ name)) " (enum SMStates_"
      [.word ("sm_" ++ name), .mark .openParen, .word "enum"] (.word "SMStates_") := .literal rfl
  have hstate : Lexes (.word ("SMStates_" ++ name)) " *state,\n"
      [.word ("SMStates_" ++ name), .mark .star, .word "state", .mark .comma] .newLine :=
    .literal rfl
  have hinputs : Lexes .newLine "    struct SMInput_" [.word "struct"] (.word "SMInput_") :=
    .literal rfl
  have hinput : Lexes (.word ("SMInput_" ++ name)) " input,\n"
      [.word ("SMInput_" ++ name), .word "input", .mark .comma] .newLine := .literal rfl
  have houtputs : Lexes .newLine "    struct SMOutput_" [.word "struct"] (.word "SMOutput_") :=
    .literal rfl
  have houtput : Lexes (.word ("SMOutput_" ++ name)) " *output)"
      [.word ("SMOutput_" ++ name), .mark .star, .word "output", .mark .closeParen] .between :=
    .literal rfl
  exact (lexes_suffix (lexes_suffix hfunction hname hstates) hname hstate).append
    ((lexes_suffix hinputs hname hinput).append
      (lexes_suffix houtputs hname (houtput.append hrest)))

/-- The declarations of the types. -/
theorem lexes_types (hname : Text.isName name = true)
    (hm : ∀ w ∈ m.states ++ m.inputs ++ m.outputs, Text.isName w = true) :
    Lexes .newLine
      (("enum SMStates_" ++ name ++ "\n" ++ ("\x7b\n" ++ (stateBlock m ++ "\n" ++
        ("\x7d;\n" ++ "\n")))) ++
        (("struct SMInput_" ++ name ++ "\n" ++ ("\x7b\n" ++ (fieldBlock m.inputs ++ "\n" ++
          ("\x7d;\n" ++ "\n")))) ++
        ("struct SMOutput_" ++ name ++ "\n" ++ ("\x7b\n" ++ (fieldBlock m.outputs ++ "\n" ++
          ("\x7d;\n" ++ "\n"))))))
      ((headerOf name m).states.tokens ++ ((headerOf name m).input.tokens ++
        (headerOf name m).output.tokens)) .newLine := by
  have hinput : Lexes .newLine ("struct SMInput_" ++ name ++ "\n")
      [.word "struct", .word ("SMInput_" ++ name)] .newLine := by
    have htag : Lexes .newLine "struct SMInput_" [.word "struct"] (.word "SMInput_") := .literal rfl
    exact lexes_suffix htag hname (lexes_endWord _)
  have houtput : Lexes .newLine ("struct SMOutput_" ++ name ++ "\n")
      [.word "struct", .word ("SMOutput_" ++ name)] .newLine := by
    have htag : Lexes .newLine "struct SMOutput_" [.word "struct"] (.word "SMOutput_") :=
      .literal rfl
    exact lexes_suffix htag hname (lexes_endWord _)
  exact (lexes_states hname fun w hw => hm w (by simp [hw])).append
    ((lexes_record hinput fun w hw => hm w (by simp [hw])).append
      (lexes_record houtput fun w hw => hm w (by simp [hw])))

/-- The text of the header has the tokens of the header. -/
theorem lexes_header (hname : Text.isName name = true)
    (hm : ∀ w ∈ usedNames m, Text.isName w = true) :
    Lexes .newLine (embeddedCode name m).header (headerOf name m).tokens .newLine := by
  have hstart : Text.isName m.start = true := hm _ (by simp [usedNames])
  have htypes := lexes_types hname fun w hw => hm w (by
    simp only [usedNames, List.mem_cons, List.mem_append] at hw ⊢
    exact .inr (.inl (.inl hw)))
  have hend : Lexes .between (";\n" ++ ("\n" ++ "#endif\n"))
      [.mark .semicolon, .directive "endif"] .newLine := by
    have hline : Lexes .between ";\n" [.mark .semicolon] .newLine := .literal rfl
    have hendif : Lexes .newLine "#endif\n" [.directive "endif"] .newLine := .literal rfl
    exact hline.append (lexes_blank.append hendif)
  have hparts := (lexes_guard hname).append (htypes.append
    ((lexes_start hname hstart).append (lexes_prototype hname hend)))
  -- A literal of the template is cut where the function has been declared.
  have hsplit : (" *output);\n" : Text) = " *output)" ++ ";\n" := rfl
  simp only [embeddedCode, headerTexts, C.Header.tokens, List.flatten_cons, List.flatten_nil,
    List.append_nil, List.append_assoc, hsplit] at hparts ⊢
  exact hparts

/-! ## The cases -/

/-- A further input of a condition. -/
def conjunct (v : Text) : Text := " && " ++ ("input." ++ v)

/-- The further inputs of a condition, up to its closing bracket. -/
theorem lexes_conjuncts (w : Text) {rest : List Text}
    (hrest : ∀ v ∈ rest, Text.isName v = true) :
    Lexes (.word w) (rest.flatMap conjunct ++ ")")
      (.word w :: (rest.flatMap (fun v => Token.mark .and :: (C.Atom.input v).tokens) ++
        [Token.mark .closeParen])) .between := by
  -- The lexer gives a name only when it sees what follows, so `w` runs over the names.
  induction rest generalizing w with
  | nil => exact .literal rfl
  | cons v rest ih =>
    rw [List.forall_mem_cons] at hrest
    have hand : Lexes (.word w) " && " [.word w, .mark .and] .between := .literal rfl
    have hname : Lexes .between v [] (.word v) := .name (.inr rfl) hrest.1
    have hparts := (hand.append (lexes_input.append hname)).append (ih v hrest.2)
    rw [List.flatMap_cons, List.append_assoc]
    exact hparts

/-- The condition of a transition, up to its closing bracket. -/
theorem lexes_guardText {guard : List Text} (h : ∀ v ∈ guard, Text.isName v = true) :
    Lexes .between (guardText guard ++ ")") ((conditionOf guard).tokens ++ [Token.mark .closeParen])
      .between := by
  cases guard with
  | nil =>
    have htrue : Lexes .between "true" [] (.word "true") := .literal rfl
    have hclose : Lexes (.word "true") ")" [.word "true", .mark .closeParen] .between :=
      .literal rfl
    exact htrue.append hclose
  | cons v rest =>
    rw [List.forall_mem_cons] at h
    have htext : guardText (v :: rest) = "input." ++ v ++ rest.flatMap conjunct := by
      rw [guardText, List.isEmpty_cons, if_neg (by decide), List.map_cons, join_cons,
        List.flatMap_map]
      rfl
    have htokens : (conditionOf (v :: rest)).tokens ++ [Token.mark .closeParen] =
        .word "input" :: .mark .dot :: (.word v ::
          (rest.flatMap (fun v => Token.mark .and :: (C.Atom.input v).tokens) ++
            [Token.mark .closeParen])) := by
      simp [conditionOf, C.Condition.tokens, C.Atom.tokens, List.flatMap_map]
    rw [htext, htokens, List.append_assoc]
    exact lexes_name lexes_input h.1 (lexes_conjuncts v h.2)

/-- The lines of a branch after its keyword. -/
theorem lexes_branch {b : Branch} {keyword : Text} {ts : List Token}
    (hkeyword : Lexes .newLine (indent ++ indent ++ keyword ++ " (") (ts ++ [Token.mark .openParen])
      .between)
    (htarget : Text.isName b.target = true) (hguard : ∀ v ∈ b.guard, Text.isName v = true) :
    Lexes .newLine ((b.lines keyword).flatMap fun line => line ++ ("\n" : Text))
      (ts ++ (branchOf b).tokens) .newLine := by
  have hopen : Lexes .newLine "\x7b" [.mark .openBrace] .between := .literal rfl
  have hstate : Lexes .newLine "*state = " [.mark .star, .word "state", .mark .equals] .between :=
    .literal rfl
  have hsemicolon : Lexes (.word b.target) ";" [.word b.target, .mark .semicolon] .between :=
    .literal rfl
  have hclose : Lexes .newLine "\x7d" [.mark .closeBrace] .between := .literal rfl
  have hcondition := (hkeyword.append (lexes_guardText hguard)).append lexes_end
  have hopenLine := ((lexes_indent.append lexes_indent).append hopen).append lexes_end
  have hassign := ((lexes_indent.append lexes_indent).append lexes_indent).append hstate
  have hstateLine := (lexes_name hassign htarget hsemicolon).append lexes_end
  have hcloseLine := ((lexes_indent.append lexes_indent).append hclose).append lexes_end
  have hlines := hcondition.append (hopenLine.append (hstateLine.append hcloseLine))
  simp only [Branch.lines, List.flatMap_cons, List.flatMap_nil, branchOf, C.Branch.tokens,
    C.Assignment.tokens, List.append_assoc, List.append_nil, List.nil_append, List.cons_append]
    at hlines ⊢
  exact hlines

/-- The lines of the branches of a case. -/
theorem lexes_branches {branches : List Branch}
    (h : ∀ b ∈ branches, ∀ v ∈ b.target :: b.guard, Text.isName v = true) :
    Lexes .newLine ((branchLines branches).flatMap fun line => line ++ ("\n" : Text))
      ((choiceItems branches).flatMap C.Item.tokens) .newLine := by
  have hif : Lexes .newLine (indent ++ indent ++ "if" ++ " (")
      ([Token.word "if"] ++ [Token.mark .openParen]) .between := by
    have hword : Lexes .newLine "if" [] (.word "if") := .literal rfl
    have hopen : Lexes (.word "if") " (" [.word "if", .mark .openParen] .between := .literal rfl
    exact ((lexes_indent.append lexes_indent).append hword).append hopen
  have helse : Lexes .newLine (indent ++ indent ++ "else if" ++ " (")
      ([Token.word "else", .word "if"] ++ [Token.mark .openParen]) .between := by
    have hword : Lexes .newLine "else if" [.word "else"] (.word "if") := .literal rfl
    have hopen : Lexes (.word "if") " (" [.word "if", .mark .openParen] .between := .literal rfl
    exact ((lexes_indent.append lexes_indent).append hword).append hopen
  cases branches with
  | nil => rfl
  | cons first rest =>
    rw [List.forall_mem_cons] at h
    simp only [List.forall_mem_cons] at h
    have hfirst := lexes_branch hif h.1.1 h.1.2
    have hrest := lexes_flatMap rest fun b hb => lexes_branch helse (h.2 b hb).1 (h.2 b hb).2
    have hlines := hfirst.append hrest
    rw [branchLines, List.flatMap_append, List.flatMap_assoc]
    simpa [choiceItems, C.Item.tokens, List.flatMap_map, C.Branch.elseTokens] using hlines

/-- The names in a case. -/
def Case.names (c : Case) : List Text :=
  c.state :: (c.output.toList ++ c.branches.flatMap fun b => b.target :: b.guard)

/-- The line that makes the output of a case true. -/
theorem lexes_outputLines {output : Option Text} (h : ∀ v ∈ output.toList, Text.isName v = true) :
    Lexes .newLine ((outputLines output).flatMap fun line => line ++ ("\n" : Text))
      ((output.toList.map fun symbol => C.Item.assign (.output symbol true)).flatMap C.Item.tokens)
      .newLine := by
  rw [outputLines, List.flatMap_map, List.flatMap_map]
  refine lexes_flatMap output.toList fun symbol hsymbol => ?_
  have htrue : Lexes (.word symbol) " = true;"
      [.word symbol, .mark .equals, .word "true", .mark .semicolon] .between := .literal rfl
  have hassign := (lexes_indent.append lexes_indent).append lexes_arrow
  exact (lexes_name hassign (h symbol hsymbol) htrue).append lexes_end

/-- The label of a case. -/
theorem lexes_label {state : Text} (h : Text.isName state = true) :
    Lexes .newLine (indent ++ "case " ++ state ++ ":" ++ "\n") (C.Item.label state).tokens
      .newLine := by
  have hcase : Lexes .newLine "case " [.word "case"] .between := .literal rfl
  have hcolon : Lexes (.word state) ":" [.word state, .mark .colon] .between := .literal rfl
  exact (lexes_name (lexes_indent.append hcase) h hcolon).append lexes_end

/-- The text of a case, with the empty line after it. -/
theorem lexes_case {c : Case} (h : ∀ v ∈ c.names, Text.isName v = true) :
    Lexes .newLine (c.text ++ "\n") ((caseItems c).flatMap C.Item.tokens) .newLine := by
  have hstate : Text.isName c.state = true := h _ (by simp [Case.names])
  have houtput : ∀ v ∈ c.output.toList, Text.isName v = true := by
    intro v hv
    exact h v (List.mem_cons_of_mem _ (List.mem_append_left _ hv))
  have hbranches : ∀ b ∈ c.branches, ∀ v ∈ b.target :: b.guard, Text.isName v = true := by
    intro b hb v hv
    exact h v (List.mem_cons_of_mem _ (List.mem_append_right _ (List.mem_flatMap.2 ⟨b, hb, hv⟩)))
  have hbreak : Lexes .newLine "break;" [.word "break", .mark .semicolon] .between := .literal rfl
  have hexit := ((lexes_indent.append lexes_indent).append hbreak).append lexes_end
  have hlines := ((lexes_label hstate).append ((lexes_outputLines houtput).append
    ((lexes_branches hbranches).append hexit))).append lexes_blank
  rw [Case.text, Case.lines, joinLines_append]
  simp only [caseItems, bodyItems, List.flatMap_cons, List.flatMap_append, List.flatMap_nil,
    List.append_nil, List.append_assoc, C.Item.tokens, List.nil_append, List.cons_append]
    at hlines ⊢
  exact hlines

/-- The names in the case of a state are names of the machine. -/
theorem names_caseOf_subset {state : Text} (hstate : state ∈ m.states) :
    ∀ v ∈ (caseOf m state).names, v ∈ usedNames m := by
  intro v hv
  simp only [Case.names, caseOf, List.mem_cons, List.mem_append, Option.mem_toList,
    Option.map_eq_some_iff, List.mem_flatMap, List.mem_map, OutputRule.select?] at hv
  rcases hv with rfl | ⟨rule, hrule, rfl⟩ | ⟨b, ⟨t, ht, rfl⟩, hv⟩
  · simp [usedNames, hstate]
  · have hmem := List.mem_of_find?_eq_some hrule
    simp only [usedNames, List.mem_cons, List.mem_append, List.mem_flatMap]
    exact .inr (.inr ⟨rule, hmem, .inr (.inl rfl)⟩)
  · have hmem : t ∈ m.transitions := (List.mem_filter.1 ht).1
    simp only [usedNames, List.mem_cons, List.mem_append, List.mem_flatMap]
    exact .inr (.inl (.inr ⟨t, hmem, .inr hv⟩))

/-- The directive that includes the header. -/
theorem lexes_include (hname : Text.isName name = true) :
    Lexes .newLine ("#include \"" ++ name ++ (".h\"" ++ "\n"))
      [.directive ("include \"" ++ (name ++ ".h") ++ "\"")] .newLine := by
  have hstart : Lexes .newLine "#include \"" [] (.directive "include \"") := .literal rfl
  have hrest : .char '\n' ∉ (".h\"" : Text) := by decide
  have hsplit : (".h\"" : Text) = ".h" ++ "\"" := rfl
  have htoken : "include \"" ++ (name ++ ".h") ++ "\"" =
      "include \"" ++ name ++ (".h\"" : Text) := by
    rw [hsplit]
    simp
  rw [htoken]
  exact lexes_directive hstart hname hrest

/-- The assignments that make every output false. -/
theorem lexes_resets (houtputs : ∀ symbol ∈ m.outputs, Text.isName symbol = true) :
    Lexes .newLine (resetBlock m ++ "\n")
      ((m.outputs.map fun symbol => C.Assignment.output symbol false).flatMap C.Assignment.tokens)
      .newLine := by
  rw [List.flatMap_map]
  refine lexes_block m.outputs fun symbol hsymbol => ?_
  have hfalse : Lexes (.word symbol) " = false;"
      [.word symbol, .mark .equals, .word "false", .mark .semicolon] .between := .literal rfl
  have hassign := lexes_indent.append lexes_arrow
  exact (lexes_name hassign (houtputs symbol hsymbol) hfalse).append lexes_end

/-- The cases of a machine. -/
theorem lexes_cases (hm : ∀ w ∈ usedNames m, Text.isName w = true) :
    Lexes .newLine (caseBlock m ++ "\n") (((cases m).flatMap caseItems).flatMap C.Item.tokens)
      .newLine := by
  rw [List.flatMap_assoc]
  refine lexes_block (cases m) fun c hc => ?_
  obtain ⟨state, hstate, rfl⟩ := List.mem_map.1 hc
  exact lexes_case fun v hv => hm v (names_caseOf_subset hstate v hv)

/-- The text of the source has the tokens of the source. -/
theorem lexes_source (hname : Text.isName name = true)
    (hm : ∀ w ∈ usedNames m, Text.isName w = true) :
    Lexes .newLine (embeddedCode name m).source (sourceOf name m).tokens .newLine := by
  have houtputs : ∀ w ∈ m.outputs, Text.isName w = true :=
    fun w hw => hm w (by simp [usedNames, hw])
  have hswitch : Lexes .newLine "    switch (*state)\n"
      [.word "switch", .mark .openParen, .mark .star, .word "state", .mark .closeParen] .newLine :=
    .literal rfl
  have hopenSwitch : Lexes .newLine "    \x7b\n" [.mark .openBrace] .newLine := .literal rfl
  have hdefault : Lexes .newLine "    default:\n" [.word "default", .mark .colon] .newLine :=
    .literal rfl
  have hbreak : Lexes .newLine "        break;\n" [.word "break", .mark .semicolon] .newLine :=
    .literal rfl
  have hcloseSwitch : Lexes .newLine "    \x7d\n" [.mark .closeBrace] .newLine := .literal rfl
  have hclose : Lexes .newLine "\x7d\n" [.mark .closeBrace] .newLine := .literal rfl
  have hhead := (lexes_include hname).append (lexes_blank.append
    ((lexes_prototype hname lexes_end).append lexes_open))
  have hbody := (lexes_resets houtputs).append (lexes_blank.append (hswitch.append
    (hopenSwitch.append (lexes_cases hm))))
  have hrest := hdefault.append (hbreak.append (hcloseSwitch.append hclose))
  have hparts := hhead.append (hbody.append hrest)
  -- Two literals of the template are cut where the lexer stands between two tokens.
  have hquote : (".h\"\n" : Text) = ".h\"" ++ "\n" := rfl
  have hsplit : (" *output)\n" : Text) = " *output)" ++ "\n" := rfl
  simp only [embeddedCode, sourceTexts, List.flatten_cons, List.flatten_nil, List.append_nil,
    List.append_assoc, List.nil_append, List.cons_append, hsplit, hquote, sourceOf,
    C.Source.tokens, List.flatMap_append, List.flatMap_cons, List.flatMap_nil, C.Item.tokens]
    at hparts ⊢
  exact hparts

/-- The header of a machine is read back from its text. -/
theorem ofText?_header (hname : Text.isName name = true)
    (hm : ∀ w ∈ usedNames m, Text.isName w = true) :
    C.Header.ofText? (embeddedCode name m).header = some (headerOf name m) :=
  C.Header.ofText?_of_lexes (lexes_header hname hm)

/-- The source of a machine is read back from its text. -/
theorem ofText?_source (hname : Text.isName name = true)
    (hm : ∀ w ∈ usedNames m, Text.isName w = true) :
    C.Source.ofText? (embeddedCode name m).source = some (sourceOf name m) :=
  C.Source.ofText?_of_lexes (lexes_source hname hm)

end Transducer.Code
