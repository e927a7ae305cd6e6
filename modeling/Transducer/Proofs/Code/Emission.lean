import Mathlib.Data.List.Perm.Basic
import Transducer.Proofs.Code.Generation
import Transducer.Proofs.Machine.Checked

/-!
# The transitions in the generated code

The `switch` statement has a case for every state, which shows the transitions that leave the state
as a chain: an `if`, and an `else if` for each further one. Going through the states in their order
shows each transition of a declared state once, since no state is declared twice
(`flatMap_filter_perm`). So the code neither loses nor repeats a transition, and keeps the order
among those of one state (`switch_shows_transitions`).
-/

namespace Transducer.Code

open Log

/-! ## Chains of transitions -/

/-- A transition as a case shows it. -/
structure Shown where
  /-- The label of the case. -/
  label : Text
  /-- The word in front of the condition. -/
  keyword : Text
  guard : List Text
  target : Text
  deriving DecidableEq, Repr

namespace Shown

/-- The transition that is shown. -/
def transition (s : Shown) : MooreTransition := ⟨s.label, s.guard, s.target⟩

/-- The lines of a transition. -/
def lines (s : Shown) : List Text := Branch.lines s.keyword ⟨s.guard, s.target⟩

end Shown

/-- The word in front of the condition at a place of a chain. -/
def keywordAt (i : Nat) : Text := if i = 0 then "if" else "else if"

/-- What a case shows, in its order. -/
def Case.shown (c : Case) : List Shown :=
  c.branches.mapIdx fun i b => ⟨c.state, keywordAt i, b.guard, b.target⟩

/-- What the cases of a machine show, in their order. -/
def shown (m : Moore) : List Shown := (cases m).flatMap Case.shown

/-- The lines of a chain, one after the other. -/
theorem branchLines_eq (branches : List Branch) :
    branchLines branches = (branches.mapIdx fun i b => b.lines (keywordAt i)).flatten := by
  cases branches with
  | nil => rfl
  | cons first rest =>
    have hrest : (rest.mapIdx fun i b => b.lines (keywordAt (i + 1))) =
        rest.map (Branch.lines "else if") := by
      rw [List.mapIdx_eq_iff]
      intro i
      rw [List.getElem?_map]
      rfl
    rw [List.mapIdx_cons, hrest, branchLines, List.flatten_cons, List.flatMap_def]
    rfl

/-- The lines of a case: its label, its output, its chain and the `break`. -/
theorem Case.lines_eq (c : Case) :
    c.lines = (indent ++ "case " ++ c.state ++ ":") ::
      (outputLines c.output ++ c.shown.flatMap Shown.lines ++ [indent ++ indent ++ "break;"]) := by
  have hmap : c.shown.map Shown.lines = c.branches.mapIdx fun i b => b.lines (keywordAt i) := by
    rw [eq_comm, List.mapIdx_eq_iff]
    intro i
    rw [List.getElem?_map, Case.shown, List.getElem?_mapIdx, Option.map_map]
    rfl
  rw [Case.lines, branchLines_eq, ← hmap, List.flatMap_def]

/-- The case of a state shows the transitions that leave it, in their order. -/
theorem map_transition_caseOf (m : Moore) (state : Text) :
    (caseOf m state).shown.map Shown.transition =
      m.transitions.filter fun t => t.source = state := by
  -- A case holds no source; its label stands for it.
  have hsource : ∀ t ∈ m.transitions.filter (fun t => t.source = state),
      MooreTransition.mk state t.guard t.target = t := by
    intro t ht
    have heq : t.source = state := of_decide_eq_true (List.mem_filter.1 ht).2
    rw [← heq]
  have hmap : (caseOf m state).shown.map Shown.transition =
      (m.transitions.filter fun t => t.source = state).map fun t =>
        MooreTransition.mk state t.guard t.target := by
    refine List.ext_getElem? fun i => ?_
    simp [caseOf, Case.shown, MooreTransition.select, Shown.transition, Function.comp_def]
  rw [hmap, List.map_congr_left hsource, List.map_id']

/-! ## All transitions -/

/-- Going through different keys and picking what has each of them picks everything that has one of
them, once. -/
theorem flatMap_filter_perm {α : Type} (key : α → Text) {keys : List Text}
    (hkeys : keys.Nodup) (l : List α) :
    (keys.flatMap fun k => l.filter fun a => key a = k).Perm
      (l.filter fun a => key a ∈ keys) := by
  induction keys with
  | nil => simp
  | cons k keys ih =>
    obtain ⟨hk, hkeys⟩ := List.nodup_cons.1 hkeys
    -- What has one of the keys is split by whether that is the first one.
    have hfirst : (l.filter fun a => key a ∈ k :: keys).filter (fun a => key a = k) =
        l.filter fun a => key a = k := by
      rw [List.filter_filter]
      refine List.filter_congr fun a _ => ?_
      by_cases heq : key a = k
      · simp [heq]
      · simp [heq]
    have hothers : (l.filter fun a => key a ∈ k :: keys).filter (fun a => !decide (key a = k)) =
        l.filter fun a => key a ∈ keys := by
      rw [List.filter_filter]
      refine List.filter_congr fun a _ => ?_
      by_cases heq : key a = k
      · simp [heq, hk]
      · simp [heq]
    have hsplit := List.filter_append_perm (fun a => decide (key a = k))
      (l.filter fun a => key a ∈ k :: keys)
    rw [hfirst, hothers] at hsplit
    rw [List.flatMap_cons]
    exact ((ih hkeys).append_left _).trans hsplit

/-- The cases show the transitions of the declared states, each as often as it is declared. -/
theorem map_transition_shown_perm {m : Moore} (hstates : m.states.Nodup) :
    ((shown m).map Shown.transition).Perm (m.transitions.filter fun t => t.source ∈ m.states) := by
  have hshown : (shown m).map Shown.transition =
      m.states.flatMap fun state => m.transitions.filter fun t => t.source = state := by
    rw [shown, cases, List.flatMap_map, List.map_flatMap]
    simp only [map_transition_caseOf]
  rw [hshown]
  exact flatMap_filter_perm MooreTransition.source hstates m.transitions

/-! ## The source -/

/-- The `switch` statement around the text of the cases, up to the end of the source. -/
def switchText (blocks : Text) : Text :=
  "    switch (*state)\n" ++ "    \x7b\n" ++ blocks ++ "\n" ++ "    default:\n" ++
    "        break;\n" ++ "    \x7d\n" ++ "\x7d\n"

/-- The source ends with the `switch` statement. -/
theorem source_embeddedCode (name : Text) (m : Moore) :
    ∃ before, (embeddedCode name m).source = before ++ switchText (caseBlock m) := by
  have hend : ((sourceTexts name m).drop 8).flatten = switchText (caseBlock m) := by
    simp only [sourceTexts, List.drop_succ_cons, List.drop_zero, List.flatten_cons,
      List.flatten_nil, List.append_nil, switchText, List.append_assoc]
  refine ⟨((sourceTexts name m).take 8).flatten, ?_⟩
  rw [← hend, ← List.flatten_append, List.take_append_drop]
  rfl

/-- The code of a machine whose names are all different has one case for each state, in their order.
Together the cases show exactly the transitions of the declared states, each as often as it is
declared; each stands in the case of its own state, in the order of declaration, the first one with
an `if` and every other one with an `else if`, as a condition on its inputs and a block that sets
the state. A transition of an undeclared state is not shown. -/
theorem switch_shows_transitions (name : Text) (m : Moore) (bundle : Bundle)
    (hunique : (Check.rule .uniqueNames m.toSignature).outcome = .ok ()) :
    (∃ header before, (generate .embedded name (.moore m) bundle).outcome =
      .ok ((bundle.add (name ++ ".h") header).add (name ++ ".c")
        (before ++ switchText (joinLines ((cases m).map Case.text))))) ∧
    (∀ c ∈ cases m, c.text = joinLines ((indent ++ "case " ++ c.state ++ ":") ::
      (outputLines c.output ++ c.shown.flatMap Shown.lines ++
        [indent ++ indent ++ "break;"])) ++ "\n") ∧
    (cases m).map Case.state = m.states ∧
    ((shown m).map Shown.transition).Perm (m.transitions.filter fun t => t.source ∈ m.states) ∧
    (∀ c ∈ cases m, c.shown.map Shown.transition =
      m.transitions.filter fun t => t.source = c.state) ∧
    (∀ c ∈ cases m, ∀ i s, c.shown[i]? = some s →
      s.label = c.state ∧ s.keyword = (if i = 0 then "if" else "else if" : Text) ∧
      s.lines =
        [indent ++ indent ++ s.keyword ++ " (" ++ (if s.guard.isEmpty then "true"
            else Text.join " && " (s.guard.map fun symbol => "input." ++ symbol)) ++ ")",
          indent ++ indent ++ "\x7b",
          indent ++ indent ++ indent ++ "*state = " ++ s.target ++ ";",
          indent ++ indent ++ "\x7d"]) ∧
    ∀ t ∈ m.transitions, t.source ∉ m.states → t ∉ (shown m).map Shown.transition := by
  have hstates : m.states.Nodup :=
    Check.nodup_states_of_names (Check.nodup_names_of_rule hunique)
  have hperm := map_transition_shown_perm hstates
  refine ⟨?_, ?_, ?_, hperm, ?_, ?_, ?_⟩
  · obtain ⟨before, hsource⟩ := source_embeddedCode name m
    refine ⟨(embeddedCode name m).header, before, ?_⟩
    rw [generate_embedded, hsource, caseBlock]
  · intro c _
    rw [Case.text, Case.lines_eq]
  · rw [cases, List.map_map]
    exact List.map_id m.states
  · intro c hc
    obtain ⟨state, -, rfl⟩ := List.mem_map.1 hc
    exact map_transition_caseOf m state
  · intro c _ i s hs
    rw [Case.shown, List.getElem?_mapIdx, Option.map_eq_some_iff] at hs
    obtain ⟨b, -, rfl⟩ := hs
    exact ⟨rfl, rfl, rfl⟩
  · intro t _ hsource hmem
    have hkept := hperm.mem_iff.1 hmem
    exact hsource (of_decide_eq_true (List.mem_filter.1 hkept).2)

/-- A door. The transitions of its states are declared in turns, one of them twice, and one belongs
to a state that the door does not have. -/
def door : Moore where
  states := ["Open", "Shut"]
  inputs := ["push"]
  outputs := []
  start := "Shut"
  ends := []
  transitions :=
    [⟨"Shut", ["push"], "Open"⟩, ⟨"Gone", [], "Shut"⟩, ⟨"Open", [], "Shut"⟩,
      ⟨"Shut", ["push"], "Open"⟩]
  outputRules := []

/-- The code of the door shows three of its four transitions. -/
theorem switch_shows_door :
    (Check.rule .uniqueNames door.toSignature).outcome = .ok () ∧
    ((shown door).map Shown.transition).Perm
      [⟨"Shut", ["push"], "Open"⟩, ⟨"Open", [], "Shut"⟩, ⟨"Shut", ["push"], "Open"⟩] ∧
    ⟨"Gone", [], "Shut"⟩ ∉ (shown door).map Shown.transition := by
  have hunique : (Check.rule .uniqueNames door.toSignature).outcome = .ok () := by decide
  obtain ⟨-, -, -, hperm, -, -, hundeclared⟩ :=
    switch_shows_transitions "door" door ⟨.ofText "out", []⟩ hunique
  exact ⟨hunique, hperm, hundeclared _ (by decide) (by decide)⟩

end Transducer.Code
