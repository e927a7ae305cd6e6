import Transducer.Code.Generate
import Transducer.Proofs.Code.Template

/-!
# The text of the generated code

The embedded templates, line by line: each line is made of parts, and every slot is for a value that
the machine has. So the code of every Moore machine can be generated, and its header and its source
are the lines given here (`ofMoore_embedded`).
-/

namespace Transducer.Code

open Log Template

/-! ## The lines of the templates -/

/-- The lines of the header template, by their parts. -/
def headerParts : List (List Part) :=
  [[.text "#ifndef SM_", .slot "name", .text "_H\n"],
    [.text "#define SM_", .slot "name", .text "_H\n"],
    [.text "\n"],
    [.text "#include <stdbool.h>\n"],
    [.text "\n"],
    [.text "enum SMStates_", .slot "name", .text "\n"],
    [.text "\x7b\n"],
    [.slot "states", .text "\n"],
    [.text "\x7d;\n"],
    [.text "\n"],
    [.text "struct SMInput_", .slot "name", .text "\n"],
    [.text "\x7b\n"],
    [.slot "inputs", .text "\n"],
    [.text "\x7d;\n"],
    [.text "\n"],
    [.text "struct SMOutput_", .slot "name", .text "\n"],
    [.text "\x7b\n"],
    [.slot "outputs", .text "\n"],
    [.text "\x7d;\n"],
    [.text "\n"],
    [.text "static const enum SMStates_", .slot "name", .text " SMStart_", .slot "name",
      .text " = ", .slot "start_state", .text ";\n"],
    [.text "\n"],
    [.text "void sm_", .slot "name", .text " (enum SMStates_", .slot "name", .text " *state,\n"],
    [.text "    struct SMInput_", .slot "name", .text " input,\n"],
    [.text "    struct SMOutput_", .slot "name", .text " *output);\n"],
    [.text "\n"],
    [.text "#endif\n"]]

/-- The lines of the source template, by their parts. -/
def sourceParts : List (List Part) :=
  [[.text "#include \"", .slot "name", .text ".h\"\n"],
    [.text "\n"],
    [.text "void sm_", .slot "name", .text " (enum SMStates_", .slot "name", .text " *state,\n"],
    [.text "    struct SMInput_", .slot "name", .text " input,\n"],
    [.text "    struct SMOutput_", .slot "name", .text " *output)\n"],
    [.text "\x7b\n"],
    [.slot "reset_outputs", .text "\n"],
    [.text "\n"],
    [.text "    switch (*state)\n"],
    [.text "    \x7b\n"],
    [.slot "state_cases", .text "\n"],
    [.text "    default:\n"],
    [.text "        break;\n"],
    [.text "    \x7d\n"],
    [.text "\x7d\n"]]

/-- The embedded header template has the lines of `headerParts`. -/
theorem embedded_header :
    Templates.embedded.header = (headerParts.map (List.flatMap Part.source)).flatten := by
  unfold Templates.embedded
  dsimp only
  rw [ofString_ofLines]
  refine congrArg List.flatten ?_
  simp only [headerParts, Templates.headerLines, List.map_cons, List.map_nil, List.flatMap_cons,
    List.flatMap_nil, Part.source, Text.ofString_append]
  repeat rw [Text.ofString_ofList]
  rfl

/-- The embedded source template has the lines of `sourceParts`. -/
theorem embedded_source :
    Templates.embedded.source = (sourceParts.map (List.flatMap Part.source)).flatten := by
  unfold Templates.embedded
  dsimp only
  rw [ofString_ofLines]
  refine congrArg List.flatten ?_
  simp only [sourceParts, Templates.sourceLines, List.map_cons, List.map_nil, List.flatMap_cons,
    List.flatMap_nil, Part.source]
  repeat rw [Text.ofString_ofList]
  rfl

/-! ## The lines of the code -/

/-- The lines of the header of a machine. -/
def headerTexts (name : Text) (m : Moore) : List Text :=
  ["#ifndef SM_" ++ name ++ "_H\n",
    "#define SM_" ++ name ++ "_H\n",
    "\n",
    "#include <stdbool.h>\n",
    "\n",
    "enum SMStates_" ++ name ++ "\n",
    "\x7b\n",
    stateBlock m ++ "\n",
    "\x7d;\n",
    "\n",
    "struct SMInput_" ++ name ++ "\n",
    "\x7b\n",
    fieldBlock m.inputs ++ "\n",
    "\x7d;\n",
    "\n",
    "struct SMOutput_" ++ name ++ "\n",
    "\x7b\n",
    fieldBlock m.outputs ++ "\n",
    "\x7d;\n",
    "\n",
    "static const enum SMStates_" ++ name ++ " SMStart_" ++ name ++ " = " ++ m.start ++ ";\n",
    "\n",
    "void sm_" ++ name ++ " (enum SMStates_" ++ name ++ " *state,\n",
    "    struct SMInput_" ++ name ++ " input,\n",
    "    struct SMOutput_" ++ name ++ " *output);\n",
    "\n",
    "#endif\n"]

/-- The lines of the source of a machine. -/
def sourceTexts (name : Text) (m : Moore) : List Text :=
  ["#include \"" ++ name ++ ".h\"\n",
    "\n",
    "void sm_" ++ name ++ " (enum SMStates_" ++ name ++ " *state,\n",
    "    struct SMInput_" ++ name ++ " input,\n",
    "    struct SMOutput_" ++ name ++ " *output)\n",
    "\x7b\n",
    resetBlock m ++ "\n",
    "\n",
    "    switch (*state)\n",
    "    \x7b\n",
    caseBlock m ++ "\n",
    "    default:\n",
    "        break;\n",
    "    \x7d\n",
    "\x7d\n"]

/-- The values for the header template, one by one. -/
theorem lookup_headerValues (name : Text) (m : Moore) :
    (headerValues name m).lookup ("name" : Text) = some name ∧
      (headerValues name m).lookup ("states" : Text) = some (stateBlock m) ∧
      (headerValues name m).lookup ("inputs" : Text) = some (fieldBlock m.inputs) ∧
      (headerValues name m).lookup ("outputs" : Text) = some (fieldBlock m.outputs) ∧
      (headerValues name m).lookup ("start_state" : Text) = some m.start := by
  simp [headerValues, List.lookup_cons]

/-- The values for the source template, one by one. -/
theorem lookup_sourceValues (name : Text) (m : Moore) :
    (sourceValues name m).lookup ("name" : Text) = some name ∧
      (sourceValues name m).lookup ("reset_outputs" : Text) = some (resetBlock m) ∧
      (sourceValues name m).lookup ("state_cases" : Text) = some (caseBlock m) := by
  simp [sourceValues, List.lookup_cons]

/-- Every part of a line of the header template is proper. -/
theorem headerParts_isProper : ∀ line ∈ headerParts, line.all Part.isProper = true := by
  unfold headerParts
  repeat rw [Text.ofString_ofList]
  decide

/-- Every part of a line of the source template is proper. -/
theorem sourceParts_isProper : ∀ line ∈ sourceParts, line.all Part.isProper = true := by
  unfold sourceParts
  repeat rw [Text.ofString_ofList]
  decide

/-- Every part of a line of the header template has a value. -/
theorem headerParts_isFilledBy (name : Text) (m : Moore) :
    ∀ line ∈ headerParts, line.all (Part.isFilledBy (headerValues name m)) = true := by
  simp only [headerParts, List.forall_mem_cons, List.not_mem_nil, false_implies, implies_true,
    List.all_cons, List.all_nil, Part.isFilledBy, lookup_headerValues, Option.isSome_some,
    Bool.and_self, and_self]

/-- Every part of a line of the source template has a value. -/
theorem sourceParts_isFilledBy (name : Text) (m : Moore) :
    ∀ line ∈ sourceParts, line.all (Part.isFilledBy (sourceValues name m)) = true := by
  simp only [sourceParts, List.forall_mem_cons, List.not_mem_nil, false_implies, implies_true,
    List.all_cons, List.all_nil, Part.isFilledBy, lookup_sourceValues, Option.isSome_some,
    Bool.and_self, and_self]

/-- The lines of the header template with their values. -/
theorem headerParts_fill (name : Text) (m : Moore) :
    headerParts.map (List.flatMap (Part.fill (headerValues name m))) = headerTexts name m := by
  simp only [headerParts, headerTexts, List.map_cons, List.map_nil, List.flatMap_cons,
    List.flatMap_nil, Part.fill, lookup_headerValues, Option.getD_some, List.append_nil,
    List.append_assoc]

/-- The lines of the source template with their values. -/
theorem sourceParts_fill (name : Text) (m : Moore) :
    sourceParts.map (List.flatMap (Part.fill (sourceValues name m))) = sourceTexts name m := by
  simp only [sourceParts, sourceTexts, List.map_cons, List.map_nil, List.flatMap_cons,
    List.flatMap_nil, Part.fill, lookup_sourceValues, Option.getD_some, List.append_nil,
    List.append_assoc]

/-- The embedded header template can be filled for every machine. -/
theorem render_embedded_header (title name : Text) (m : Moore) :
    (render title Templates.embedded.header (headerValues name m)).outcome =
      .ok (headerTexts name m).flatten := by
  rw [embedded_header, ← headerParts_fill]
  exact render_lines title headerParts_isProper (headerParts_isFilledBy name m)

/-- The embedded source template can be filled for every machine. -/
theorem render_embedded_source (title name : Text) (m : Moore) :
    (render title Templates.embedded.source (sourceValues name m)).outcome =
      .ok (sourceTexts name m).flatten := by
  rw [embedded_source, ← sourceParts_fill]
  exact render_lines title sourceParts_isProper (sourceParts_isFilledBy name m)

/-- The code of a Moore machine, whatever its names are. -/
def embeddedCode (name : Text) (m : Moore) : Generated where
  header := (headerTexts name m).flatten
  source := (sourceTexts name m).flatten

/-- If both templates can be filled, they are the code. -/
theorem ofMoore_of_render {templates : Templates} {name : Text} {m : Moore} {header source : Text}
    (hheader : (render (name ++ ".h") templates.header (headerValues name m)).outcome = .ok header)
    (hsource : (render (name ++ ".c") templates.source (sourceValues name m)).outcome =
      .ok source) :
    (ofMoore templates name m).outcome = .ok ⟨header, source⟩ := by
  unfold Stage.outcome at hheader hsource ⊢
  simp only [ofMoore, ExceptT.run_mk, bind, hheader, hsource]
  rfl

/-- With the embedded templates, the code of every Moore machine can be generated. -/
theorem ofMoore_embedded (name : Text) (m : Moore) :
    (ofMoore .embedded name m).outcome = .ok (embeddedCode name m) :=
  ofMoore_of_render (render_embedded_header _ name m) (render_embedded_source _ name m)

end Transducer.Code
