import Mathlib.Data.List.FinRange
import Mathlib.Data.List.Forall2
import Transducer.Proofs.Code.Generation

/-!
# Warnings and what they are about

Generating the code of a machine tells the log its warnings first, and events with other names
afterwards (`told_ofMoore`), so that the warnings of a kind can be read off what the log is told.

The warnings about output rules come from one pass over the rules, which remembers the rules in
force; the code comes from a look-up for each state. Both agree: a rule finds another one in force
when it is met (`inForce?`) exactly if the look-up for its state stops at an earlier place, and what
it finds is what the look-up gives. So each rule is either in force or told to be ignored
(`ignored_outputs_partition`).
-/

namespace Transducer.Code

open Document Log

/-! ## What the log is told -/

/-- The events with a name among what the log is told, in order. -/
def eventsNamed (name : Text) (entries : List Entry) : List Event :=
  entries.filterMap fun
    | .event e => if e.name = name then some e else none
    | _ => none

/-- The events with a name among events. -/
theorem eventsNamed_events (name : Text) (events : List Event) :
    eventsNamed name (events.map Entry.event) = events.filter fun e => e.name = name := by
  rw [eventsNamed, List.filterMap_map, ← List.filterMap_eq_filter]
  refine List.filterMap_congr fun e _ => ?_
  simp [Option.guard]

/-- Filling a template tells the log of the tokens without a value, if of anything. -/
theorem told_render (title template : Text) (values : List (Text × Text)) :
    ∃ events : List Event,
      (Template.render title template values).told = events.map Entry.event ∧
      ∀ e ∈ events, e.name = "template_tokens_unresolved" := by
  unfold Template.render
  dsimp only
  split
  · exact ⟨[], rfl, fun e he => absurd he List.not_mem_nil⟩
  · exact ⟨[_], rfl, fun e he => by rw [List.mem_singleton.1 he]⟩

/-- What the log is told of code that is complete. -/
def generatedEvent (name : Text) (m : Moore) : Event :=
  ⟨.info, loggerName, "code_generated",
    [("name", .text name), ("states", .int m.states.length),
      ("transitions", .int m.transitions.length)]⟩

/-- The log is told the warnings first. What follows has other names. -/
theorem told_ofMoore (templates : Templates) (name : Text) (m : Moore) :
    ∃ events : List Event,
      (ofMoore templates name m).told = (warnings m ++ events).map Entry.event ∧
      ∀ e ∈ events, e.name = "template_tokens_unresolved" ∨ e.name = "code_generated" := by
  obtain ⟨header, hheader, hnames⟩ :=
    told_render (name ++ ".h") templates.header (headerValues name m)
  obtain ⟨source, hsource, hnames'⟩ :=
    told_render (name ++ ".c") templates.source (sourceValues name m)
  have hboth : ∀ e ∈ header ++ source,
      e.name = "template_tokens_unresolved" ∨ e.name = "code_generated" := by
    intro e he
    exact .inl ((List.mem_append.1 he).elim (hnames e) (hnames' e))
  unfold Stage.told at hheader hsource ⊢
  simp only [ofMoore, ExceptT.run_mk]
  rw [Logged.entries_bind, Logged.entries_bind, Logged.entries_bind, hheader, hsource]
  -- Only code that is complete is an event of its own.
  rcases (Template.render (name ++ ".h") templates.header (headerValues name m)).run.value with
    report | headerText
  · refine ⟨header ++ source, ?_, hboth⟩
    simp [tellAll, pure]
  · rcases (Template.render (name ++ ".c") templates.source (sourceValues name m)).run.value with
      report | sourceText
    · refine ⟨header ++ source, ?_, hboth⟩
      simp [tellAll, pure]
    · refine ⟨header ++ source ++ [generatedEvent name m], ?_, ?_⟩
      · simp only [tellAll, List.map_append, List.append_assoc]
        rfl
      · intro e he
        rcases List.mem_append.1 he with he | he
        · exact hboth e he
        · exact .inr (by rw [List.mem_singleton.1 he]; rfl)

/-- Adding the code to a bundle tells the log nothing. -/
theorem told_generate (templates : Templates) (name : Text) (machine : Machine) (bundle : Bundle) :
    (generate templates name machine bundle).told = (ofMachine templates name machine).told := by
  unfold generate generateInto
  rcases ofMachine templates name machine with ⟨entries, report | code⟩
  · calc _ = ((entries ++ []) ++ []) ++ [] := rfl
      _ = entries := by simp
  · calc _ = ((entries ++ []) ++ []) ++ [] := rfl
      _ = entries := by simp

/-- Generating code tells the log the warnings with a name, if no other event has that name. -/
theorem eventsNamed_generate (templates : Templates) (name : Text) (m : Moore) (bundle : Bundle)
    {event : Text} (hunresolved : event ≠ "template_tokens_unresolved")
    (hgenerated : event ≠ "code_generated") :
    eventsNamed event (generate templates name (.moore m) bundle).told =
      (warnings m).filter fun e => e.name = event := by
  obtain ⟨events, htold, hnames⟩ := told_ofMoore templates name m
  have hother : events.filter (fun e => e.name = event) = [] := by
    rw [List.filter_eq_nil_iff]
    intro e he heq
    rw [← of_decide_eq_true heq] at hunresolved hgenerated
    exact (hnames e he).elim hunresolved hgenerated
  rw [told_generate, ofMachine, htold, eventsNamed_events, List.filter_append, hother,
    List.append_nil]

/-! ## Rules that are ignored -/

/-- What the log is told of a rule that is ignored, with the output that is kept instead. -/
def ignoredEvent (rule : OutputRule) (kept : Text) : Event :=
  ⟨.warning, loggerName, "output_entry_ignored",
    [("state", .text rule.state), ("output_symbol", .text rule.output), ("kept", .text kept)]⟩

/-- The warnings about ignored rules. -/
theorem filter_warnings_ignored (m : Moore) :
    (warnings m).filter (fun e : Event => e.name = "output_entry_ignored") =
      (ignoredOutputs m).map fun ignored => ignoredEvent ignored.1 ignored.2 := by
  -- The three kinds of warnings have names of their own.
  unfold warnings
  dsimp only
  rw [List.filter_append, List.filter_append]
  simp [ignoredEvent, List.filter_map, Function.comp_def]

/-! ## The rule in force -/

/-- A rule for a state that has one already is not looked at. -/
theorem select?_append_cons {rule first : OutputRule} {kept : List OutputRule}
    (h : OutputRule.select? rule.state kept = some first) (state : Text)
    (rest : List OutputRule) :
    OutputRule.select? state (kept ++ rule :: rest) = OutputRule.select? state (kept ++ rest) := by
  unfold OutputRule.select? at h ⊢
  rw [List.find?_append, List.find?_append, List.find?_cons]
  by_cases heq : rule.state = state
  · rw [heq] at h
    rw [h]
    rfl
  · simp [heq]

/-- The rule in force for the state of a rule when it is met, after others that are in force. -/
def inForce? (kept rules : List OutputRule) (i : Fin rules.length) : Option OutputRule :=
  OutputRule.select? rules[i].state (kept ++ rules.take i.val)

/-- The rules that are ignored are those that find another one in force. -/
theorem ignoredFrom_eq (kept rules : List OutputRule) :
    ignoredFrom kept rules = (List.finRange rules.length).filterMap fun i =>
      (inForce? kept rules i).map fun first => (rules[i], first.output) := by
  induction rules generalizing kept with
  | nil => simp [ignoredFrom]
  | cons rule rest ih =>
    have hrange : List.finRange (rule :: rest).length =
        0 :: (List.finRange rest.length).map Fin.succ := List.finRange_succ
    have hfirst : inForce? kept (rule :: rest) 0 = OutputRule.select? rule.state kept := by
      simp [inForce?]
    -- All further rules go through the list that the first one leaves.
    have hothers (kept' : List OutputRule) (h : ∀ i : Fin rest.length,
        inForce? kept (rule :: rest) i.succ = inForce? kept' rest i) :
        (List.finRange rest.length).filterMap ((fun i => (inForce? kept (rule :: rest) i).map
          fun first => ((rule :: rest)[i], first.output)) ∘ Fin.succ) =
          ignoredFrom kept' rest := by
      rw [ih]
      refine List.filterMap_congr fun i _ => ?_
      rw [Function.comp_apply, h]
      rfl
    rw [hrange, List.filterMap_cons, List.filterMap_map, ignoredFrom, hfirst]
    cases hselect : OutputRule.select? rule.state kept with
    | none =>
      rw [hothers (kept ++ [rule]) fun i => by simp [inForce?]]
      rfl
    | some first =>
      rw [hothers kept fun i => select?_append_cons hselect rest[i].state (rest.take i.val)]
      rfl

/-- A rule has an earlier one for its state. -/
def Ignored (rules : List OutputRule) (i : Fin rules.length) : Prop :=
  ∃ j < i, rules[j].state = rules[i].state

/-- Whether a rule is ignored can be decided. -/
instance (rules : List OutputRule) (i : Fin rules.length) : Decidable (Ignored rules i) :=
  inferInstanceAs (Decidable (∃ j < i, rules[j].state = rules[i].state))

/-- The place of the rule that is in force in a state. -/
def place? (state : Text) (rules : List OutputRule) : Option Nat :=
  rules.findIdx? fun rule => rule.state = state

/-- The rule in force stands at its place. -/
theorem select?_eq_place (state : Text) (rules : List OutputRule) :
    OutputRule.select? state rules = (place? state rules).bind fun i => rules[i]? :=
  List.find?_eq_bind_findIdx?_getElem?

variable (rules : List OutputRule) (i : Fin rules.length)

/-- A rule is in force for its state unless it is ignored. -/
theorem place?_eq_some_iff : place? rules[i].state rules = some i.val ↔ ¬ Ignored rules i := by
  rw [place?, List.findIdx?_eq_some_iff_getElem]
  constructor
  · rintro ⟨_, _, hearlier⟩ ⟨j, hj, heq⟩
    exact hearlier j.val hj (decide_eq_true heq)
  · intro hnot
    refine ⟨i.isLt, decide_eq_true rfl, ?_⟩
    intro j hj heq
    exact hnot ⟨⟨j, hj.trans i.isLt⟩, hj, of_decide_eq_true heq⟩

/-- A rule that is ignored finds the one in force, which stays in force. -/
theorem inForce?_of_ignored (h : Ignored rules i) : ∃ first,
    inForce? [] rules i = some first ∧ OutputRule.select? rules[i].state rules = some first := by
  obtain ⟨j, hj, heq⟩ := h
  have hmem : rules[j] ∈ rules.take i.val :=
    List.mem_take_iff_getElem.2 ⟨j.val, by omega, rfl⟩
  have hsome : (inForce? [] rules i).isSome = true := by
    rw [inForce?, List.nil_append, OutputRule.select?, List.find?_isSome]
    exact ⟨rules[j], hmem, decide_eq_true heq⟩
  obtain ⟨first, hfirst⟩ := Option.isSome_iff_exists.1 hsome
  exact ⟨first, hfirst, (List.take_prefix i.val rules).find?_eq_some hfirst⟩

/-- A rule that is not ignored finds none in force. -/
theorem inForce?_of_not_ignored (h : ¬ Ignored rules i) : inForce? [] rules i = none := by
  rw [inForce?, List.nil_append, OutputRule.select?, List.find?_eq_none]
  intro rule hrule heq
  obtain ⟨j, hj, rfl⟩ := List.mem_take_iff_getElem.1 hrule
  have hlt : j < i.val := by omega
  exact h ⟨⟨j, hlt.trans i.isLt⟩, hlt, of_decide_eq_true heq⟩

/-! ## Ignored rules and rules in force -/

/-- The places of the rules that are ignored. -/
def ignoredPlaces (rules : List OutputRule) : List (Fin rules.length) :=
  (List.finRange rules.length).filter fun i => Ignored rules i

/-- The places of the rules that are in force. -/
def selectedPlaces (rules : List OutputRule) : List (Fin rules.length) :=
  (List.finRange rules.length).filter fun i => !decide (Ignored rules i)

/-- The places of ignored rules. -/
theorem mem_ignoredPlaces (rules : List OutputRule) (i : Fin rules.length) :
    i ∈ ignoredPlaces rules ↔ Ignored rules i := by
  simp [ignoredPlaces, List.mem_finRange]

/-- A rule is in force at its place if it is not ignored. -/
theorem mem_selectedPlaces (rules : List OutputRule) (i : Fin rules.length) :
    i ∈ selectedPlaces rules ↔ ¬ Ignored rules i := by
  simp [selectedPlaces, List.mem_finRange]

/-- What is picked from a list answers, one by one, to what is made of it. -/
theorem forall₂_filter_filterMap {α β : Type} {R : α → β → Prop} {p : α → Bool}
    {f : α → Option β} (l : List α) (hpicked : ∀ a, p a = true → ∃ b, f a = some b ∧ R a b)
    (hleft : ∀ a, p a = false → f a = none) :
    List.Forall₂ R (l.filter p) (l.filterMap f) := by
  induction l with
  | nil => exact .nil
  | cons a l ih =>
    cases hp : p a with
    | true =>
      obtain ⟨b, hb, hr⟩ := hpicked a hp
      rw [List.filter_cons_of_pos hp, List.filterMap_cons_some hb]
      exact .cons hr ih
    | false =>
      rw [List.filter_cons_of_neg (by simp [hp]), List.filterMap_cons_none (hleft a hp)]
      exact ih

/-- The rules that are ignored are at their places, each with the one that is in force. -/
theorem forall₂_ignoredOutputs (m : Moore) :
    List.Forall₂ (fun i ignored => ∃ kept,
      OutputRule.select? m.outputRules[i].state m.outputRules = some kept ∧
        ignored = (m.outputRules[i], kept.output))
      (ignoredPlaces m.outputRules) (ignoredOutputs m) := by
  rw [ignoredOutputs, ignoredFrom_eq]
  refine forall₂_filter_filterMap _ ?_ ?_
  · intro i hi
    obtain ⟨kept, hforce, hselect⟩ := inForce?_of_ignored _ i (of_decide_eq_true hi)
    exact ⟨(m.outputRules[i], kept.output), by rw [hforce]; rfl, kept, hselect, rfl⟩
  · intro i hi
    rw [inForce?_of_not_ignored _ i (of_decide_eq_false hi)]
    rfl

/-- Every state with a rule has one in force. -/
theorem exists_selected (rules : List OutputRule) {rule : OutputRule} (hrule : rule ∈ rules) :
    ∃ i ∈ selectedPlaces rules, rules[i].state = rule.state := by
  have hsome : (place? rule.state rules).isSome = true := by
    rw [place?, List.findIdx?_isSome, List.any_eq_true]
    exact ⟨rule, hrule, decide_eq_true rfl⟩
  obtain ⟨n, hn⟩ := Option.isSome_iff_exists.1 hsome
  obtain ⟨hlt, hstate, -⟩ := List.findIdx?_eq_some_iff_getElem.1 hn
  have heq : rules[n].state = rule.state := of_decide_eq_true hstate
  refine ⟨⟨n, hlt⟩, ?_, heq⟩
  rw [mem_selectedPlaces, ← place?_eq_some_iff]
  rw [← heq] at hn
  exact hn

/-- A state has no two rules in force. -/
theorem nodup_selected (rules : List OutputRule) :
    ((selectedPlaces rules).map fun i => rules[i].state).Nodup := by
  have hordered : (selectedPlaces rules).Pairwise (· < ·) :=
    (List.pairwise_lt_finRange _).filter _
  rw [List.Nodup, List.pairwise_map]
  refine hordered.imp_of_mem ?_
  intro i j _ hj hlt heq
  exact (mem_selectedPlaces rules j).1 hj ⟨i, hlt, heq⟩

/-- The log is told of exactly those rules that are not looked at, in their order and with the
output that counts instead; these are the rules with an earlier one for the same state. Together
with the rules in force, one for each state that has a rule, they are all rules, each once. -/
theorem ignored_outputs_partition (templates : Templates) (name : Text) (m : Moore)
    (bundle : Bundle) :
    ∃ ignored selected : List (Fin m.outputRules.length),
      List.Forall₂ (fun i event => ∃ kept,
        OutputRule.select? m.outputRules[i].state m.outputRules = some kept ∧
          event = ignoredEvent m.outputRules[i] kept.output) ignored
        (eventsNamed "output_entry_ignored"
          (generate templates name (.moore m) bundle).told) ∧
      ignored.Pairwise (· < ·) ∧
      (∀ state, OutputRule.select? state m.outputRules =
        (place? state m.outputRules).bind fun i => m.outputRules[i]?) ∧
      (∀ i, i ∈ ignored ↔ place? m.outputRules[i].state m.outputRules ≠ some i.val) ∧
      (∀ i, i ∈ ignored ↔ ∃ j < i, m.outputRules[j].state = m.outputRules[i].state) ∧
      (∀ i ∈ selected,
        OutputRule.select? m.outputRules[i].state m.outputRules = some m.outputRules[i]) ∧
      (selected.map fun i => m.outputRules[i].state).Nodup ∧
      (∀ rule ∈ m.outputRules, ∃ i ∈ selected, m.outputRules[i].state = rule.state) ∧
      (ignored ++ selected).Perm (List.finRange m.outputRules.length) := by
  refine ⟨ignoredPlaces m.outputRules, selectedPlaces m.outputRules, ?_,
    (List.pairwise_lt_finRange _).filter _, fun state => select?_eq_place state _, ?_,
    mem_ignoredPlaces _, ?_, nodup_selected _, fun rule hrule => exists_selected _ hrule,
    List.filter_append_perm _ _⟩
  · rw [eventsNamed_generate _ _ _ _ (by decide) (by decide), filter_warnings_ignored,
      List.forall₂_map_right_iff]
    refine (forall₂_ignoredOutputs m).imp ?_
    rintro i ignored ⟨kept, hselect, rfl⟩
    exact ⟨kept, hselect, rfl⟩
  · intro i
    rw [mem_ignoredPlaces, ne_eq, place?_eq_some_iff, not_not]
  · intro i hi
    have hplace := (place?_eq_some_iff _ i).2 ((mem_selectedPlaces _ i).1 hi)
    rw [select?_eq_place, hplace]
    exact List.getElem?_eq_getElem i.isLt

end Transducer.Code
