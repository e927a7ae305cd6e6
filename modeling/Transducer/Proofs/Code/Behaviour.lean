import Mathlib.Data.List.Basic
import Transducer.Proofs.Code.Generation
import Transducer.Proofs.Code.Program

/-!
# What the generated code does

A call of the generated function makes a step of the machine. It makes every output false, goes to
the case of the state, where the output of the state becomes true, and takes the first branch whose
condition holds (`call_programOf`). So calls in a row make a run of the machine.
-/

namespace Transducer.Code

open C (Memory Program)

/-! ## Statements -/

section Statements

variable (p : Program) (input : Text → Bool)

/-- Making outputs false changes nothing else. -/
theorem assignAll_reset (symbols : List Text) (memory : Memory) :
    p.assignAll (symbols.map fun symbol => .output symbol false) memory =
      { memory with output := fun symbol => !symbols.contains symbol && memory.output symbol } := by
  unfold Program.assignAll
  induction symbols generalizing memory with
  | nil => simp
  | cons first rest ih =>
    rw [List.map_cons, List.foldl_cons, ih]
    simp only [Program.assign, Memory.mk.injEq, true_and]
    funext symbol
    by_cases heq : symbol = first
    · simp [heq]
    · simp [heq]

/-- The condition of a transition holds if all its inputs are true. -/
theorem holds_conditionOf (guard : List Text) :
    (conditionOf guard).holds input = guard.all input := by
  cases guard with
  | nil => rfl
  | cons symbol rest => simp [conditionOf, C.Condition.holds, C.Atom.holds, Function.comp_def]

/-- The state of a case, after the first of its branches whose inputs are all true. -/
theorem choose_branchOf (branches : List Branch) (memory : Memory) :
    p.choose input (branches.map branchOf) memory =
      match branches.find? fun b => b.guard.all input with
      | some b => { memory with state := p.value b.target }
      | none => memory := by
  have hfind : (branches.map branchOf).find? (fun b => b.condition.holds input) =
      (branches.find? fun b => b.guard.all input).map branchOf := by
    rw [List.find?_map]
    simp [Function.comp_def, branchOf, holds_conditionOf]
  unfold Program.choose
  rw [hfind]
  cases branches.find? fun b => b.guard.all input with
  | none => rfl
  | some b => rfl

/-- The memory after the output of a case has become true. -/
def withOutput (output : Option Text) (memory : Memory) : Memory :=
  { memory with output := fun symbol => output == some symbol || memory.output symbol }

/-- The output of a case is made true by an assignment, if there is one. -/
theorem perform_output (output : Option Text) (items : List C.Item) (memory : Memory) :
    p.perform input
      (output.toList.map (fun symbol => .assign (.output symbol true)) ++ items) memory =
      p.perform input items (withOutput output memory) := by
  cases output with
  | none => simp [withOutput]
  | some symbol =>
    have hassign : p.assign memory (.output symbol true) = withOutput (some symbol) memory := by
      simp only [Program.assign, withOutput, Memory.mk.injEq, true_and]
      funext name
      by_cases heq : name = symbol
      · simp [heq]
      · simp [heq, Ne.symm heq]
    simp [Program.perform, hassign]

/-- The branches of a case are tried, and then the case is left. -/
theorem perform_choiceItems (branches : List Branch) (rest : List C.Item) (memory : Memory) :
    p.perform input (choiceItems branches ++ .exit :: rest) memory =
      p.choose input (branches.map branchOf) memory := by
  cases branches with
  | nil => rfl
  | cons first branches => rfl

/-- A case makes its output true and takes a branch, whatever follows it. -/
theorem perform_caseItems (c : Case) (rest : List C.Item) (memory : Memory) :
    p.perform input (caseItems c ++ rest) memory =
      p.choose input (c.branches.map branchOf) (withOutput c.output memory) := by
  rw [caseItems, bodyItems, List.cons_append, Program.perform, List.append_assoc, perform_output,
    List.append_assoc, List.singleton_append, perform_choiceItems]

/-- The case of a state holds no label of another state. -/
theorem isLabelOf_caseItems (c : Case) {state : Nat} (hstate : p.value c.state ≠ state) :
    ∀ i ∈ caseItems c, p.isLabelOf state i = false := by
  intro i hi
  rcases List.mem_cons.1 hi with rfl | hbody
  · simpa [Program.isLabelOf] using hstate
  · rcases of_mem_bodyItems hbody with ⟨a, rfl⟩ | ⟨first, rest, rfl⟩ | rfl
    · rfl
    · rfl
    · rfl

end Statements

/-! ## Steps -/

section Steps

variable {name : Text} {m : Moore} (h : Compilable name m)

/-- Different states are different integers. -/
theorem value_ne {s t : Text} (hs : s ∈ m.states) (hne : s ≠ t) :
    (programOf h).value s ≠ (programOf h).value t := by
  intro heq
  exact hne ((List.idxOf_inj hs).1 heq)

/-- The cases of states, from the label of one of them on. -/
theorem dropWhile_cases {state : Text} {states : List Text} (hstate : state ∈ states)
    (hstates : ∀ s ∈ states, s ∈ m.states) (tail : List C.Item) :
    ∃ rest, (states.flatMap (fun s => caseItems (caseOf m s)) ++ tail).dropWhile
        (fun i => !(programOf h).isLabelOf ((programOf h).value state) i) =
      caseItems (caseOf m state) ++ rest := by
  induction states with
  | nil => cases hstate
  | cons first states ih =>
    rw [List.forall_mem_cons] at hstates
    rw [List.flatMap_cons, List.append_assoc]
    by_cases heq : first = state
    · -- The label of this case is the one that is looked for.
      refine ⟨states.flatMap (fun s => caseItems (caseOf m s)) ++ tail, ?_⟩
      subst heq
      simp [caseItems, caseOf, Program.isLabelOf]
    · -- The whole case is passed, since its state stands for another integer.
      have hmem : state ∈ states := by
        rcases List.mem_cons.1 hstate with rfl | hmem
        · exact absurd rfl heq
        · exact hmem
      have hskip := isLabelOf_caseItems (programOf h) (caseOf m first)
        (value_ne h hstates.1 heq)
      rw [List.dropWhile_append_of_pos (by simpa using hskip)]
      exact ih hmem hstates.2

/-- The `switch` statement goes to the case of the state. -/
theorem target_programOf {state : Text} (hstate : state ∈ m.states) :
    ∃ rest, (programOf h).target ((programOf h).value state) (programOf h).source.items =
      caseItems (caseOf m state) ++ rest := by
  have hitems : (programOf h).source.items =
      m.states.flatMap (fun s => caseItems (caseOf m s)) ++ [C.Item.default, .exit] := by
    simp [programOf, sourceOf, cases, List.flatMap_map]
  have hany : (programOf h).source.items.any
      ((programOf h).isLabelOf ((programOf h).value state)) = true := by
    rw [hitems, List.any_append, List.any_flatMap, Bool.or_eq_true, List.any_eq_true]
    exact .inl ⟨state, hstate, by simp [caseItems, caseOf, Program.isLabelOf]⟩
  rw [Program.target, if_pos hany, hitems]
  exact dropWhile_cases h hstate (fun _ hs => hs) _

/-- The branch that is taken is the transition that the machine takes. -/
theorem find?_branches (state : Text) (input : Text → Bool) :
    ((caseOf m state).branches.find? fun b => b.guard.all input) =
      (m.transitions.find? fun t => t.source = state && t.guard.all input).map
        fun t => ⟨t.guard, t.target⟩ := by
  rw [caseOf, List.find?_map, MooreTransition.select, List.find?_filter]
  refine congrArg (Option.map _) (congrArg (List.find? · m.transitions) ?_)
  funext t
  rw [Bool.eq_iff_iff]
  simp

/-- A call makes a step of the machine: it goes to the next state, and of the outputs only that of
the state before is true. -/
theorem call_programOf {state : Text} (hstate : state ∈ m.states) {memory : Memory}
    (hmemory : memory.state = (programOf h).value state) (input : Text → Bool) :
    (programOf h).call memory input =
      { state := (programOf h).value (m.step state input)
        output := fun symbol => m.output? state == some symbol ||
          (!m.outputs.contains symbol && memory.output symbol) } := by
  obtain ⟨rest, hrest⟩ := target_programOf h hstate
  have hbefore : (programOf h).source.before = m.outputs.map fun symbol => .output symbol false :=
    rfl
  rw [Program.call, hbefore, assignAll_reset, hmemory, hrest, perform_caseItems, choose_branchOf,
    find?_branches, Moore.step]
  -- The code and the machine now look for the same transition.
  cases m.transitions.find? fun t => t.source = state && t.guard.all input with
  | none => rfl
  | some t => rfl

/-- Calls in a row make steps in a row, from a state to a state. -/
theorem calls_programOf (inputs : List (Text → Bool)) {state : Text} (hstate : state ∈ m.states)
    {memory : Memory} (hmemory : memory.state = (programOf h).value state) :
    ((programOf h).calls memory inputs).state = (programOf h).value (inputs.foldl m.step state) ∧
      inputs.foldl m.step state ∈ m.states := by
  induction inputs generalizing state memory with
  | nil => exact ⟨hmemory, hstate⟩
  | cons input inputs ih =>
    have hcall := call_programOf h hstate hmemory input
    exact ih (Moore.step_mem h.closed hstate input) (by rw [hcall])

end Steps

/-- The generated code implements the machine: its header and its source are a program, and after
every call, from whatever the output holds before the first one, the state is the next state of the
machine and the outputs that are true are those of the state before the call. -/
theorem generate_implements_machine (name : Text) (m : Moore) (bundle : Bundle)
    (hname : Text.isName name = true) (hcheck : (Check.all m.toSignature).outcome = .ok ())
    (husable : Usable name m) (hclosed : m.Closed) :
    ∃ (code : Generated) (p : Program),
      (generate .embedded name (.moore m) bundle).outcome =
        .ok ((bundle.add (name ++ ".h") code.header).add (name ++ ".c") code.source) ∧
      p.Of (name ++ ".h") code.header code.source ∧
      p.source.function.name = "sm_" ++ name ∧ p.header.states.names = m.states ∧
      ∀ (output : Text → Bool) (inputs : List (Text → Bool)) (input : Text → Bool),
        let before := p.calls (p.initial output) inputs
        let after := p.call before input
        m.states[before.state]? = some (m.run inputs) ∧
          m.states[after.state]? = some (m.step (m.run inputs) input) ∧
          ∀ symbol ∈ m.outputs,
            after.output symbol = true ↔ m.output? (m.run inputs) = some symbol := by
  have h : Compilable name m := ⟨hname, hcheck, husable, hclosed⟩
  refine ⟨embeddedCode name m, programOf h, generate_embedded name m bundle, programOf_of h, rfl,
    rfl, ?_⟩
  intro output inputs input before after
  -- The integer of a state is its place, so that the place gives the state back.
  have hplace {state : Text} (hstate : state ∈ m.states) :
      m.states[(programOf h).value state]? = some state := List.getElem?_idxOf hstate
  have hinitial : ((programOf h).initial output).state = (programOf h).value m.start := rfl
  obtain ⟨hbefore, hrun⟩ := calls_programOf h inputs hclosed.start hinitial
  have hafter : after = _ := call_programOf h hrun hbefore input
  refine ⟨?_, ?_, ?_⟩
  · rw [hbefore]
    exact hplace hrun
  · rw [hafter]
    exact hplace (Moore.step_mem hclosed hrun input)
  · intro symbol hsymbol
    rw [hafter]
    simp [hsymbol, Moore.run]

/-- A turnstile. A coin unlocks it, unless somebody pushes at the same time. -/
def turnstile : Moore where
  states := ["Locked", "Unlocked"]
  inputs := ["coin", "push"]
  outputs := ["open"]
  start := "Locked"
  ends := []
  transitions :=
    [⟨"Locked", ["coin", "push"], "Locked"⟩, ⟨"Locked", ["coin"], "Unlocked"⟩,
      ⟨"Unlocked", ["push"], "Locked"⟩]
  outputRules := [⟨"Unlocked", "open"⟩]

/-- After a coin and a push the turnstile is locked again, and the second call opens it. -/
theorem generate_implements_turnstile :
    ∃ (code : Generated) (p : Program),
      (generate .embedded "gate" (.moore turnstile) ⟨.ofText "out", []⟩).outcome =
        .ok ⟨.ofText "out", [("gate.h", code.header), ("gate.c", code.source)]⟩ ∧
      p.Of "gate.h" code.header code.source ∧
      ∀ output : Text → Bool,
        let before := p.calls (p.initial output) [fun symbol => symbol == ("coin" : Text)]
        let after := p.call before fun symbol => symbol == ("push" : Text)
        turnstile.states[before.state]? = some ("Unlocked" : Text) ∧
          turnstile.states[after.state]? = some ("Locked" : Text) ∧
          after.output "open" = true := by
  have hcheck : (Check.all turnstile.toSignature).outcome = .ok () := by decide
  have husable : Usable "gate" turnstile := ⟨by decide, by decide, by decide⟩
  have hclosed : turnstile.Closed := ⟨by decide, by decide, by decide, by decide⟩
  obtain ⟨code, p, hcode, hp, -, -, hcalls⟩ := generate_implements_machine "gate" turnstile
    ⟨.ofText "out", []⟩ (by decide) hcheck husable hclosed
  refine ⟨code, p, hcode, hp, fun output => ?_⟩
  obtain ⟨hbefore, hafter, houtput⟩ := hcalls output [fun symbol => symbol == ("coin" : Text)]
    fun symbol => symbol == ("push" : Text)
  exact ⟨hbefore, hafter, (houtput "open" (by decide)).2 (by decide)⟩

end Transducer.Code
