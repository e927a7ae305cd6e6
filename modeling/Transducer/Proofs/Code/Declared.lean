import Transducer.Proofs.Code.Emission
import Transducer.Proofs.Code.Program
import Transducer.Proofs.Code.Warning

/-!
# Names that the code uses and declares

The guards of the case blocks refer to inputs (`references`), and the header declares the states,
the fields of the input and the first state (`header_embeddedCode`); all of it is spelled out here
for names of any kind.

The log is warned of undeclared inputs while the transitions are gone through in their order, but
guards are emitted state by state. `filter_undeclaredGuards_perm` compares the two as multisets, and
`undeclared_warnings_agree` says that the warnings tell exactly which names the header lacks.
-/

namespace Transducer.Code

open Log

/-! ## What the header declares -/

/-- The enumeration of the states. -/
def enumText (name : Text) (enumerators : List Text) : Text :=
  "enum SMStates_" ++ name ++ "\n" ++ "\x7b\n" ++
    joinLines (enumerators.map fun state => indent ++ state ++ ",") ++ "\n" ++ "\x7d;\n"

/-- The structure of the inputs. -/
def inputText (name : Text) (fields : List Text) : Text :=
  "struct SMInput_" ++ name ++ "\n" ++ "\x7b\n" ++
    joinLines (fields.map fun symbol => indent ++ "bool " ++ symbol ++ ";") ++ "\n" ++ "\x7d;\n"

/-- The constant for the first state. -/
def startText (name initialiser : Text) : Text :=
  "static const enum SMStates_" ++ name ++ " SMStart_" ++ name ++ " = " ++ initialiser ++ ";\n"

/-- The header declares the states, a field for every input, and the first state, in this order. -/
theorem header_embeddedCode (name : Text) (m : Moore) :
    ∃ a b c d, (embeddedCode name m).header =
      a ++ enumText name m.states ++ b ++ inputText name (fieldsOf m.inputs) ++ c ++
        startText name m.start ++ d := by
  refine ⟨((headerTexts name m).take 5).flatten, "\n",
    (((headerTexts name m).drop 14).take 6).flatten, ((headerTexts name m).drop 21).flatten, ?_⟩
  simp only [embeddedCode, headerTexts, List.take_succ_cons, List.take_zero, List.drop_succ_cons,
    List.drop_zero, List.flatten_cons, List.flatten_nil, List.append_nil, List.append_assoc,
    enumText, inputText, startText, stateBlock, fieldBlock_eq]

/-- A field of the input that is none of the inputs stands in for a structure without fields. -/
theorem mem_fieldsOf_iff (symbols : List Text) (symbol : Text) :
    symbol ∈ fieldsOf symbols ↔ symbol ∈ symbols ∨ symbols = [] ∧ symbol = unusedField := by
  cases symbols with
  | nil => simp [fieldsOf]
  | cons first rest => simp [fieldsOf]

/-! ## What the source refers to -/

/-- The references to inputs in the guard of a transition: the label of the case, and the input. -/
def Shown.references (s : Shown) : List (Text × Text) := s.guard.map (s.label, ·)

/-- The references to inputs in the case blocks, in the order of the code. -/
def references (m : Moore) : List (Text × Text) :=
  (cases m).flatMap fun c => c.shown.flatMap Shown.references

/-- The text of a guard with the given references. -/
def referencesText (references : List (Text × Text)) : Text :=
  if references.isEmpty then "true"
  else Text.join " && " (references.map fun r => "input." ++ r.2)

/-- The lines of a transition, by the references in its guard. -/
theorem Shown.lines_eq (s : Shown) :
    s.lines =
      [indent ++ indent ++ s.keyword ++ " (" ++ referencesText s.references ++ ")",
        indent ++ indent ++ "\x7b",
        indent ++ indent ++ indent ++ "*state = " ++ s.target ++ ";",
        indent ++ indent ++ "\x7d"] := by
  have hguard : guardText s.guard = referencesText s.references := by
    simp only [guardText, referencesText, Shown.references, List.isEmpty_map, List.map_map,
      Function.comp_def]
  rw [Shown.lines, Branch.lines, hguard]

/-! ## Warnings about undeclared names -/

/-- What the log is told of a guard on a signal that is no input. -/
def undeclaredEvent (state symbol : Text) : Event :=
  ⟨.warning, loggerName, "guard_symbol_undeclared",
    [("state", .text state), ("symbol", .text symbol)]⟩

/-- What the log is told of a first state that is no state. -/
def startEvent (start : Text) : Event :=
  ⟨.warning, loggerName, "start_state_undeclared", [("start_state", .text start)]⟩

/-- The warnings about guards. -/
theorem filter_warnings_undeclared (m : Moore) :
    (warnings m).filter (fun e : Event => e.name = "guard_symbol_undeclared") =
      (undeclaredGuards m).map fun pair => undeclaredEvent pair.1 pair.2 := by
  unfold warnings
  dsimp only
  rw [List.filter_append, List.filter_append]
  simp [undeclaredEvent, List.filter_map, Function.comp_def]

/-- The warning about the first state. -/
theorem filter_warnings_start (m : Moore) :
    (warnings m).filter (fun e : Event => e.name = "start_state_undeclared") =
      if m.start ∈ m.states then [] else [startEvent m.start] := by
  unfold warnings
  dsimp only
  rw [List.filter_append, List.filter_append]
  by_cases hstart : m.start ∈ m.states
  · simp [hstart, List.filter_map, Function.comp_def]
  · simp [hstart, startEvent, List.filter_map, Function.comp_def]

/-- The guards of a transition on signals that are no inputs, with the state that it leaves. -/
def undeclaredOf (m : Moore) (t : MooreTransition) : List (Text × Text) :=
  (t.guard.filter fun symbol => !m.inputs.contains symbol).map (t.source, ·)

/-- A guard on an undeclared signal is kept with its transition. -/
theorem filter_undeclaredGuards (m : Moore) :
    (undeclaredGuards m).filter (fun pair => pair.1 ∈ m.states) =
      (m.transitions.filter fun t => t.source ∈ m.states).flatMap (undeclaredOf m) := by
  have hkept (t : MooreTransition) : (undeclaredOf m t).filter (fun pair => pair.1 ∈ m.states) =
      if t.source ∈ m.states then undeclaredOf m t else [] := by
    unfold undeclaredOf
    rw [List.filter_map]
    by_cases hsource : t.source ∈ m.states
    · simp [hsource, Function.comp_def]
    · simp [hsource, Function.comp_def]
  change (m.transitions.flatMap (undeclaredOf m)).filter _ = _
  -- All pairs of a transition have its source, so that it keeps all of them or none.
  rw [List.filter_flatMap]
  simp only [hkept]
  induction m.transitions with
  | nil => rfl
  | cons t rest ih =>
    rw [List.flatMap_cons, ih]
    by_cases hsource : t.source ∈ m.states
    · simp [hsource]
    · simp [hsource]

/-- An undeclared reference is found with the transition that is shown. -/
theorem filter_references (m : Moore) :
    (references m).filter (fun r => r.2 ∉ m.inputs) =
      ((shown m).map Shown.transition).flatMap (undeclaredOf m) := by
  rw [references, ← List.flatMap_assoc, List.filter_flatMap, List.flatMap_map]
  refine List.flatMap_congr fun s _ => ?_
  rw [Shown.references, List.filter_map]
  simp [undeclaredOf, Shown.transition, Function.comp_def]

/-- The guards on undeclared signals that leave a declared state are those that the case blocks
refer to, each as often. -/
theorem filter_undeclaredGuards_perm {m : Moore} (hstates : m.states.Nodup) :
    ((undeclaredGuards m).filter fun pair => pair.1 ∈ m.states).Perm
      ((references m).filter fun r => r.2 ∉ m.inputs) := by
  rw [filter_undeclaredGuards, filter_references]
  -- Both go through the transitions of declared states, and only the order differs.
  exact ((map_transition_shown_perm hstates).flatMap_right (undeclaredOf m)).symm

/-! ## Warnings and code -/

/-- A header and a source, by the names that they declare and refer to: the enumerators, the fields
of the input and the first state in the header, and the references in the guards of each case block
in the source. -/
structure Spells (name : Text) (m : Moore) (code : Generated) : Prop where
  header : ∃ a b c d, code.header = a ++ enumText name m.states ++ b ++
    inputText name (fieldsOf m.inputs) ++ c ++ startText name m.start ++ d
  source : ∃ before, code.source = before ++ switchText (joinLines ((cases m).map Case.text))
  block : ∀ c ∈ cases m, c.text = joinLines ((indent ++ "case " ++ c.state ++ ":") ::
    (outputLines c.output ++ c.shown.flatMap Shown.lines ++ [indent ++ indent ++ "break;"])) ++ "\n"
  guard : ∀ c ∈ cases m, ∀ s ∈ c.shown, s.label = c.state ∧ s.lines =
    [indent ++ indent ++ s.keyword ++ " (" ++ referencesText s.references ++ ")",
      indent ++ indent ++ "\x7b",
      indent ++ indent ++ indent ++ "*state = " ++ s.target ++ ";",
      indent ++ indent ++ "\x7d"]

/-- The generated code, by its names. -/
theorem spells_embeddedCode (name : Text) (m : Moore) :
    Spells name m (embeddedCode name m) where
  header := header_embeddedCode name m
  source := source_embeddedCode name m
  block := fun c _ => by rw [Case.text, Case.lines_eq]
  guard := by
    intro c _ s hs
    obtain ⟨i, hi, rfl⟩ := List.mem_mapIdx.1 hs
    exact ⟨rfl, Shown.lines_eq _⟩

/-- The events with a name that the log is told while the code of a machine is generated. -/
def eventsOf (event : Text) (name : Text) (m : Moore) (bundle : Bundle) : List Event :=
  eventsNamed event (generate .embedded name (.moore m) bundle).told

/-- The warnings about guards while code is generated. -/
theorem eventsOf_undeclared (name : Text) (m : Moore) (bundle : Bundle) :
    eventsOf "guard_symbol_undeclared" name m bundle =
      (undeclaredGuards m).map fun pair => undeclaredEvent pair.1 pair.2 := by
  rw [eventsOf, eventsNamed_generate _ _ _ _ (by decide) (by decide), filter_warnings_undeclared]

/-- The warning about the first state while code is generated. -/
theorem eventsOf_start (name : Text) (m : Moore) (bundle : Bundle) :
    eventsOf "start_state_undeclared" name m bundle =
      if m.start ∈ m.states then [] else [startEvent m.start] := by
  rw [eventsOf, eventsNamed_generate _ _ _ _ (by decide) (by decide), filter_warnings_start]

/-- Generating the code of a machine whose names are all different warns of exactly those references
of the case blocks that have no field of their own in the header, each as often as it is emitted,
and besides only of guards of undeclared states. It warns of the first state exactly if the header
does not list it. So, without a warning, the header declares every input that the source uses, and
the first state. -/
theorem undeclared_warnings_agree (name : Text) (m : Moore) (bundle : Bundle)
    (hunique : (Check.rule .uniqueNames m.toSignature).outcome = .ok ()) :
    ∃ (code : Generated) (pairs : List (Text × Text)),
      (generate .embedded name (.moore m) bundle).outcome =
        .ok ((bundle.add (name ++ ".h") code.header).add (name ++ ".c") code.source) ∧
      Spells name m code ∧
      (∀ symbol, symbol ∈ fieldsOf m.inputs ↔
        symbol ∈ m.inputs ∨ m.inputs = [] ∧ symbol = unusedField) ∧
      eventsOf "guard_symbol_undeclared" name m bundle =
        pairs.map (fun pair => undeclaredEvent pair.1 pair.2) ∧
      (pairs.filter fun pair => pair.1 ∈ m.states).Perm
        ((references m).filter fun r => r.2 ∉ m.inputs) ∧
      (eventsOf "start_state_undeclared" name m bundle ≠ [] ↔ m.start ∉ m.states) ∧
      (eventsOf "guard_symbol_undeclared" name m bundle = [] →
        eventsOf "start_state_undeclared" name m bundle = [] →
        (∀ r ∈ references m, r.2 ∈ fieldsOf m.inputs) ∧ m.start ∈ m.states) := by
  have hstates : m.states.Nodup :=
    Check.nodup_states_of_names (Check.nodup_names_of_rule hunique)
  have hperm := filter_undeclaredGuards_perm hstates
  have hstart : eventsOf "start_state_undeclared" name m bundle ≠ [] ↔ m.start ∉ m.states := by
    rw [eventsOf_start]
    split
    · simp [*]
    · simp [*]
  refine ⟨embeddedCode name m, undeclaredGuards m, generate_embedded name m bundle,
    spells_embeddedCode name m, mem_fieldsOf_iff m.inputs, eventsOf_undeclared name m bundle, hperm,
    hstart, ?_⟩
  intro hguards hfirst
  refine ⟨?_, not_not.1 (hstart.not.1 (not_not.2 hfirst))⟩
  intro r hr
  rw [eventsOf_undeclared, List.map_eq_nil_iff] at hguards
  rw [hguards, List.filter_nil, List.nil_perm, List.filter_eq_nil_iff] at hperm
  have hinput : r.2 ∈ m.inputs := by simpa using hperm r hr
  exact mem_fieldsOf hinput

/-- A gate. One guard asks twice for a signal that the gate does not have, and so does a guard of a
state that it does not have; its first state is undeclared too. -/
def gate : Moore where
  states := ["Open", "Shut"]
  inputs := ["push"]
  outputs := []
  start := "Ajar"
  ends := []
  transitions :=
    [⟨"Shut", ["push", "bell", "bell"], "Open"⟩, ⟨"Gone", ["bell"], "Shut"⟩,
      ⟨"Open", ["push"], "Shut"⟩]
  outputRules := []

/-- The code of the gate refers to the bell twice, which the log is warned of, as it is of the first
state. -/
theorem undeclared_warnings_gate :
    (Check.rule .uniqueNames gate.toSignature).outcome = .ok () ∧
    (∃ pairs : List (Text × Text),
      eventsOf "guard_symbol_undeclared" "gate" gate ⟨.ofText "out", []⟩ =
        pairs.map (fun pair => undeclaredEvent pair.1 pair.2) ∧
      (pairs.filter fun pair => pair.1 ∈ gate.states).Perm
        (List.replicate 2 (("Shut" : Text), ("bell" : Text)))) ∧
    eventsOf "start_state_undeclared" "gate" gate ⟨.ofText "out", []⟩ ≠ [] := by
  have hunique : (Check.rule .uniqueNames gate.toSignature).outcome = .ok () := by decide
  have hreferences : (references gate).filter (fun r => r.2 ∉ gate.inputs) =
      List.replicate 2 (("Shut" : Text), ("bell" : Text)) := by decide
  obtain ⟨-, pairs, -, -, -, hevents, hperm, hstart, -⟩ :=
    undeclared_warnings_agree "gate" gate ⟨.ofText "out", []⟩ hunique
  rw [hreferences] at hperm
  exact ⟨hunique, ⟨pairs, hevents, hperm⟩, hstart.2 (by decide)⟩

end Transducer.Code
