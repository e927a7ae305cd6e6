import Transducer.Proofs.List.Appearance
import Transducer.Proofs.Machine.Checked

/-!
# The verdict on a machine and its protocol

What the rules ask is said here without the checks that decide it (`Signature.Keeps`), and so is
what a violation tells of a machine (`Signature.Tells`). The check of all rules ends with the first
rule that is broken, and the log is told of the rules before it and of the violation
(`all_verdict`).
-/

namespace Transducer

/-- A name that the generated code can use: it has a first character, which is no digit. -/
def Legal (name : Text) : Prop :=
  ∃ first rest, name = first :: rest ∧ first.isIn Text.isDigit = false

namespace Signature

/-- What a rule asks of a machine. -/
def Keeps (s : Signature) : Rule → Prop
  | .uniqueNames => (s.states ++ s.inputs ++ s.outputs).Nodup
  | .knownEndStates => ∀ name ∈ s.ends, name ∈ s.states
  | .legalNames => ∀ name ∈ s.states ++ s.inputs ++ s.outputs, Legal name

/-- What a violation of a rule tells of a machine: all names that stand more than once; all end
states that are no states, by their first appearance; or the first name that is not legal, with what
it stands for. -/
def Tells (s : Signature) : Rule → Violation → Prop
  | .uniqueNames, .repeated names =>
    names.Nodup ∧ ∀ name, name ∈ names ↔ 2 ≤ (s.states ++ s.inputs ++ s.outputs).count name
  | .knownEndStates, .unknownEnds names => ListsOnce (· ∉ s.states) s.ends names
  | .legalNames, .illegal role name =>
    ¬ Legal name ∧ ∃ before after,
      s.roles = before ++ (role, name) :: after ∧ ∀ entry ∈ before, Legal entry.2
  | _, _ => False

end Signature

namespace Check

open Document Log

/-! ## The three rules -/

/-- The test for legal names decides what they are. -/
theorem isLegal_iff (name : Text) : isLegal name = true ↔ Legal name := by
  cases name with
  | nil => simp [isLegal, Legal]
  | cons first rest =>
    rw [isLegal, Bool.not_eq_true']
    constructor
    · exact fun h => ⟨first, rest, rfl, h⟩
    · rintro ⟨first', rest', heq, h⟩
      obtain ⟨rfl, rfl⟩ := List.cons.inj heq
      exact h

/-- A name is found exactly if it was found before, or is met twice from here on, counting once that
it was met before. -/
theorem mem_repeatedFrom_iff (seen found names : List Text) (name : Text)
    (hfound : ∀ x ∈ found, x ∈ seen) :
    name ∈ repeatedFrom seen found names ↔
      name ∈ found ∨ 2 ≤ names.count name + if name ∈ seen then 1 else 0 := by
  -- The cases are whether the first name is the one in question, and whether it is found now.
  induction names generalizing seen found with
  | nil =>
    simp only [repeatedFrom, List.count_nil]
    split <;> simp
  | cons first rest ih =>
    have hcons : ∀ x ∈ found, x ∈ first :: seen := fun x hx => List.mem_cons_of_mem _ (hfound x hx)
    have hconcat : ∀ x ∈ found ++ [first], x ∈ first :: seen := by
      intro x hx
      rcases List.mem_append.1 hx with hx | hx
      · exact hcons x hx
      · exact List.mem_cons.2 (.inl (List.mem_singleton.1 hx))
    rw [repeatedFrom]
    by_cases heq : name = first
    · subst heq
      rw [List.count_cons_self]
      split
      · rename_i h
        rw [Bool.and_eq_true, List.contains_iff_mem] at h
        rw [ih _ _ hconcat]
        simp only [List.mem_append, List.mem_singleton, or_true, true_or, true_iff, h.1, if_true]
        exact .inr (by omega)
      · rename_i h
        rw [ih _ _ hcons]
        simp only [List.mem_cons, true_or, if_true]
        by_cases hseen : name ∈ seen
        · -- A name that was met and is not found now was found before.
          have hold : name ∈ found := by
            by_contra hnot
            exact h (by simp [hseen, hnot])
          simp [hold]
        · simp [hseen]
    · have hne : first ≠ name := fun h => heq h.symm
      rw [List.count_cons_of_ne hne]
      split
      · rename_i h
        rw [Bool.and_eq_true, List.contains_iff_mem] at h
        rw [ih _ _ hconcat]
        simp [heq]
      · rw [ih _ _ hcons]
        simp [heq]

/-- A name is found if it stands at least twice. -/
theorem mem_repeated_iff (names : List Text) (name : Text) :
    name ∈ repeated names ↔ 2 ≤ names.count name := by
  have h := mem_repeatedFrom_iff [] [] names name (by simp)
  simpa [repeated] using h

/-- The scan finds no name that it found before. -/
theorem nodup_repeatedFrom (seen found names : List Text) (h : found.Nodup) :
    (repeatedFrom seen found names).Nodup := by
  induction names generalizing seen found with
  | nil => exact h
  | cons first rest ih =>
    rw [repeatedFrom]
    split
    · rename_i hnew
      refine ih _ _ ?_
      have hnot : first ∉ found := by
        have hcontains := (Bool.and_eq_true_iff.1 hnew).2
        simpa using hcontains
      rw [List.nodup_append]
      refine ⟨h, List.nodup_singleton _, ?_⟩
      intro a ha b hb
      obtain rfl := List.mem_singleton.1 hb
      rintro rfl
      exact hnot ha
    · exact ih _ _ h

/-- No name is found twice. -/
theorem nodup_repeated (names : List Text) : (repeated names).Nodup :=
  nodup_repeatedFrom [] [] names List.nodup_nil

/-- Without a violation a rule is kept. -/
theorem keeps_iff (s : Signature) (r : Rule) : violation? s r = none ↔ s.Keeps r := by
  cases r with
  | uniqueNames =>
    have hnodup := repeated_eq_nil_iff s.names
    simp only [violation?, Signature.Keeps]
    rw [← Signature.names, ← hnodup]
    simp
  | knownEndStates =>
    simp only [violation?, Signature.Keeps, unknownEnds]
    simp [List.filter_eq_nil_iff, List.mem_eraseDups]
  | legalNames =>
    have hnames : s.roles.map Prod.snd = s.states ++ s.inputs ++ s.outputs := by
      simp [Signature.roles, Function.comp_def]
    simp only [violation?, Signature.Keeps]
    rw [← hnames, List.forall_mem_map]
    simp [isLegal_iff]

/-- A violation of a rule tells of the machine what it should. -/
theorem tells_of_violation {s : Signature} {r : Rule} {v : Violation}
    (h : violation? s r = some v) : s.Tells r v := by
  cases r with
  | uniqueNames =>
    simp only [violation?] at h
    split at h
    · cases h
    · obtain rfl := Option.some.inj h
      exact ⟨nodup_repeated s.names, mem_repeated_iff s.names⟩
  | knownEndStates =>
    simp only [violation?] at h
    split at h
    · cases h
    · obtain rfl := Option.some.inj h
      have hlists := listsOnce_filter_eraseDups (fun name => !s.states.contains name) s.ends
      simpa [Signature.Tells, unknownEnds] using hlists
  | legalNames =>
    obtain ⟨⟨role, name⟩, hfind, rfl⟩ := Option.map_eq_some_iff.1 h
    obtain ⟨hnot, before, after, hsplit, hbefore⟩ := List.find?_eq_some_iff_append.1 hfind
    refine ⟨?_, before, after, hsplit, ?_⟩
    · rw [← isLegal_iff]
      simpa using hnot
    · intro entry hentry
      rw [← isLegal_iff]
      simpa using hbefore entry hentry

/-! ## The protocol -/

/-- What the log is told first. -/
def started : Entry := .event ⟨.info, loggerName, "running_checks", []⟩

/-- What the log is told of a rule that is kept. -/
def passed (r : Rule) : Entry :=
  .event ⟨.debug, loggerName, "check_passed", [("check", .text (ruleName r))]⟩

/-- What the log is told last if all rules are kept. -/
def finished : Entry := .event ⟨.info, loggerName, "checks_passed", []⟩

/-- An event tells of a broken rule and carries the names at fault: a list of them, or the only
one. -/
structure TellsFailure (e : Event) (r : Rule) (names : List Text) : Prop where
  level : e.level = .error
  logger : e.logger = loggerName
  name : e.name = "check_failed"
  rule : (("check" : Text), .text (ruleName r)) ∈ e.fields
  names : (("identifiers" : Text), .texts names) ∈ e.fields ∨
    ∃ only, names = [only] ∧ (("identifier" : Text), .text only) ∈ e.fields

/-- The event for a violation. -/
def failure (r : Rule) (v : Violation) : Event :=
  ⟨.error, loggerName, "check_failed", ("check", .text (ruleName r)) :: details v⟩

/-- The event for a violation carries the names that its report carries. -/
theorem failure_tells (r : Rule) (v : Violation) :
    TellsFailure (failure r v) r (identifiers v) := by
  refine ⟨rfl, rfl, rfl, List.mem_cons_self, ?_⟩
  cases v with
  | repeated names => exact .inl (by simp [failure, details, identifiers])
  | unknownEnds names => exact .inl (by simp [failure, details, identifiers])
  | illegal role name => exact .inr ⟨name, rfl, by simp [failure, details]⟩

/-- A rule that is kept is passed. -/
theorem rule_of_none {s : Signature} {r : Rule} (h : violation? s r = none) :
    (rule r s).outcome = .ok () ∧ (rule r s).told = [passed r] := by
  unfold rule
  rw [h]
  exact ⟨rfl, rfl⟩

/-- A rule that is broken is reported. -/
theorem rule_of_some {s : Signature} {r : Rule} {v : Violation} (h : violation? s r = some v) :
    (rule r s).outcome = .error (.violation r (message v) (identifiers v)) ∧
      (rule r s).told = [.event (failure r v)] := by
  unfold rule
  rw [h]
  exact ⟨rfl, rfl⟩

/-- Rules that are all kept are passed one after the other. -/
theorem inOrder_of_none {s : Signature} {rules : List Rule}
    (h : ∀ r ∈ rules, violation? s r = none) :
    (inOrder s rules).outcome = .ok () ∧ (inOrder s rules).told = rules.map passed := by
  induction rules with
  | nil => exact ⟨rfl, rfl⟩
  | cons r rest ih =>
    obtain ⟨hr, hrest⟩ := List.forall_mem_cons.1 h
    obtain ⟨houtcome, htold⟩ := rule_of_none hr
    obtain ⟨ihoutcome, ihtold⟩ := ih hrest
    rw [inOrder, Stage.outcome_bind, Stage.told_bind, houtcome, htold]
    exact ⟨ihoutcome, congrArg (passed r :: ·) ihtold⟩

/-- The first broken rule is reported after the rules before it are passed, and no rule behind it is
looked at. -/
theorem inOrder_of_some {s : Signature} {before : List Rule} {r : Rule} {v : Violation}
    (after : List Rule) (hbefore : ∀ x ∈ before, violation? s x = none)
    (h : violation? s r = some v) :
    (inOrder s (before ++ r :: after)).outcome =
        .error (.violation r (message v) (identifiers v)) ∧
      (inOrder s (before ++ r :: after)).told =
        before.map passed ++ [.event (failure r v)] := by
  induction before with
  | nil =>
    obtain ⟨houtcome, htold⟩ := rule_of_some h
    rw [List.nil_append, inOrder, Stage.outcome_bind, Stage.told_bind, houtcome, htold]
    exact ⟨rfl, rfl⟩
  | cons x before ih =>
    obtain ⟨hx, hrest⟩ := List.forall_mem_cons.1 hbefore
    obtain ⟨houtcome, htold⟩ := rule_of_none hx
    obtain ⟨ihoutcome, ihtold⟩ := ih hrest
    rw [List.cons_append, inOrder, Stage.outcome_bind, Stage.told_bind, houtcome, htold]
    exact ⟨ihoutcome, congrArg (passed x :: ·) ihtold⟩

/-- The check of all rules ends like the rules in order. -/
theorem outcome_all (s : Signature) : (all s).outcome = (inOrder s rules).outcome := by
  unfold all
  rw [Stage.outcome_bind, Stage.outcome_event]
  change (inOrder s rules >>= _).outcome = _
  rw [Stage.outcome_bind]
  cases (inOrder s rules).outcome with
  | error e => rfl
  | ok u => rfl

/-- The check of all rules tells the log what the rules in order tell it, after its start and before
its end. -/
theorem told_all (s : Signature) :
    (all s).told = started :: (inOrder s rules).told ++
      match (inOrder s rules).outcome with
      | .ok () => [finished]
      | .error _ => [] := by
  unfold all
  rw [Stage.told_bind, Stage.outcome_event, Stage.told_event]
  change started :: (inOrder s rules >>= _).told = _
  rw [Stage.told_bind, List.cons_append]
  cases (inOrder s rules).outcome with
  | error e => rfl
  | ok u => rfl

/-- Only the violations count for the rules in order. -/
theorem inOrder_congr {s s' : Signature} (h : ∀ r, violation? s r = violation? s' r)
    (rules : List Rule) : inOrder s rules = inOrder s' rules := by
  induction rules with
  | nil => rfl
  | cons r rest ih => rw [inOrder, inOrder, ih, rule, rule, h r]

/-- A machine passes the check if no name stands twice among its states, inputs and outputs, every
end state is a state and all names are legal; the log is told of each rule then. Otherwise the first
broken rule is reported with what it tells of the machine, and the log is told of the rules before
it and, once, of the names that the report carries. Nothing else of the machine counts. -/
theorem all_verdict (m : Machine) :
    ((all m.signature).outcome = .ok () ↔
      (m.signature.states ++ m.signature.inputs ++ m.signature.outputs).Nodup ∧
      (∀ name ∈ m.signature.ends, name ∈ m.signature.states) ∧
      ∀ name ∈ m.signature.states ++ m.signature.inputs ++ m.signature.outputs, Legal name) ∧
    ((all m.signature).outcome = .ok () →
      (all m.signature).told = started :: rules.map passed ++ [finished]) ∧
    (∀ report, (all m.signature).outcome = .error report →
      ∃ before r after v e, rules = before ++ r :: after ∧
        (∀ x ∈ before, m.signature.Keeps x) ∧ ¬ m.signature.Keeps r ∧ m.signature.Tells r v ∧
        report = .violation r (message v) (identifiers v) ∧
        (∀ role name, v = .illegal role name → Text.ofString role.name <:+: message v) ∧
        TellsFailure e r (identifiers v) ∧
        (all m.signature).told = started :: before.map passed ++ [.event e]) ∧
    ∀ m' : Machine, m'.signature.states = m.signature.states →
      m'.signature.inputs = m.signature.inputs → m'.signature.outputs = m.signature.outputs →
      m'.signature.ends = m.signature.ends → all m'.signature = all m.signature := by
  generalize m.signature = s
  refine ⟨?_, ?_, ?_, ?_⟩
  · rw [all_eq_ok_iff]
    simp only [rules, List.forall_mem_cons, keeps_iff]
    simp [Signature.Keeps]
  · intro hok
    have hnone := (all_eq_ok_iff s).1 hok
    obtain ⟨houtcome, htold⟩ := inOrder_of_none hnone
    rw [told_all, houtcome, htold]
  · intro report hreport
    rw [outcome_all] at hreport
    -- The rule that is reported is the first with a violation.
    cases hfind : rules.find? fun r => (violation? s r).isSome with
    | none =>
      have hnone : ∀ r ∈ rules, violation? s r = none := by simpa using hfind
      rw [(inOrder_of_none hnone).1] at hreport
      cases hreport
    | some r =>
      obtain ⟨hr, before, after, hsplit, hbefore⟩ := List.find?_eq_some_iff_append.1 hfind
      obtain ⟨v, hv⟩ := Option.isSome_iff_exists.1 hr
      have hnone : ∀ x ∈ before, violation? s x = none := fun x hx => by simpa using hbefore x hx
      obtain ⟨houtcome, htold⟩ := inOrder_of_some after hnone hv
      rw [← hsplit] at houtcome htold
      rw [houtcome] at hreport
      refine ⟨before, r, after, v, failure r v, hsplit, fun x hx => (keeps_iff s x).1 (hnone x hx),
        ?_, tells_of_violation hv, (Except.error.inj hreport).symm, ?_, failure_tells r v, ?_⟩
      · rw [← keeps_iff, hv]
        simp
      · rintro role name rfl
        exact ⟨"Illegal ", _, by simp only [message, List.append_assoc]; rfl⟩
      · rw [told_all, houtcome, htold]
        simp
  · intro m' hstates hinputs houtputs hends
    have hviolation : ∀ r, violation? m'.signature r = violation? s r := by
      intro r
      cases r with
      | uniqueNames => rw [violation?, violation?, Signature.names, hstates, hinputs, houtputs]; rfl
      | knownEndStates => rw [violation?, violation?, unknownEnds, hstates, hends]; rfl
      | legalNames => rw [violation?, violation?, Signature.roles, hstates, hinputs, houtputs]; rfl
    unfold all
    rw [inOrder_congr hviolation]

end Check

end Transducer
