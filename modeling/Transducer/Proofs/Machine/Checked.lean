import Transducer.Machine.Check
import Transducer.Proofs.Log.Outcome

/-!
# Machines that pass the rules

A machine passes all rules if it violates none of them (`all_eq_ok_iff`). The first rule asks that
no name is met twice among the states, the inputs and the outputs (`repeated_eq_nil_iff`).
-/

namespace Transducer.Check

open Log

/-- A rule is passed if there is no violation of it. -/
theorem rule_eq_ok_iff (r : Rule) (s : Signature) :
    (rule r s).outcome = .ok () ↔ violation? s r = none := by
  unfold rule
  cases violation? s r with
  | none => simp
  | some v => simp [Except.bind]

/-- Rules in order are passed if each of them is. -/
theorem inOrder_eq_ok_iff (s : Signature) (rules : List Rule) :
    (inOrder s rules).outcome = .ok () ↔ ∀ r ∈ rules, violation? s r = none := by
  induction rules with
  | nil => simp [inOrder]
  | cons r rest ih =>
    rw [List.forall_mem_cons, ← ih, ← rule_eq_ok_iff, inOrder, Stage.outcome_bind]
    cases (rule r s).outcome with
    | error e => simp [Except.bind]
    | ok u => simp [Except.bind]

/-- A machine passes the check if it violates no rule. -/
theorem all_eq_ok_iff (s : Signature) :
    (all s).outcome = .ok () ↔ ∀ r ∈ rules, violation? s r = none := by
  rw [← inOrder_eq_ok_iff]
  unfold all
  simp only [Stage.outcome_bind, Stage.outcome_event]
  cases (inOrder s rules).outcome with
  | error e => simp [Except.bind]
  | ok u => simp [Except.bind]

/-- No name is found if none was found before, no name is met twice from here on and none of them
was met before. -/
theorem repeatedFrom_eq_nil_iff (seen found names : List Text) :
    repeatedFrom seen found names = [] ↔
      found = [] ∧ names.Nodup ∧ ∀ name ∈ names, name ∉ seen := by
  induction names generalizing seen found with
  | nil => simp [repeatedFrom]
  | cons name rest ih =>
    rw [repeatedFrom, List.nodup_cons, List.forall_mem_cons]
    split
    · -- A name that was met before is found, and what is found stays.
      rename_i hseen
      have hmem : name ∈ seen := by
        rw [Bool.and_eq_true, List.contains_iff_mem] at hseen
        exact hseen.1
      rw [ih]
      simp [hmem]
    · -- A name that is not found is met now, so that it must not come again.
      rename_i hseen
      rw [ih]
      simp only [List.mem_cons, not_or, Bool.and_eq_true, List.contains_iff_mem] at hseen ⊢
      constructor
      · rintro ⟨rfl, hrest, hnew⟩
        have hname : name ∉ seen := fun hmem => hseen ⟨hmem, by simp⟩
        have hnot : name ∉ rest := fun hmem => (hnew name hmem).1 rfl
        exact ⟨rfl, ⟨hnot, hrest⟩, hname, fun x hx => (hnew x hx).2⟩
      · rintro ⟨rfl, ⟨hnot, hrest⟩, -, hnew⟩
        refine ⟨rfl, hrest, fun x hx => ⟨?_, hnew x hx⟩⟩
        rintro rfl
        exact hnot hx

/-- No name is found among names that are all different, and only among them. -/
theorem repeated_eq_nil_iff (names : List Text) : repeated names = [] ↔ names.Nodup := by
  simp [repeated, repeatedFrom_eq_nil_iff]

/-- The names of a machine that passes the first rule are all different. -/
theorem nodup_names_of_rule {s : Signature} (h : (rule .uniqueNames s).outcome = .ok ()) :
    s.names.Nodup := by
  rw [rule_eq_ok_iff] at h
  rw [← repeated_eq_nil_iff, ← List.isEmpty_iff]
  simpa [violation?] using h

/-- The names of a machine that passes the check are all different. -/
theorem nodup_names_of_all {s : Signature} (h : (all s).outcome = .ok ()) : s.names.Nodup := by
  have hunique : violation? s .uniqueNames = none := (all_eq_ok_iff s).1 h _ (by simp [rules])
  exact nodup_names_of_rule ((rule_eq_ok_iff .uniqueNames s).2 hunique)

/-- If all names are different, the states are. -/
theorem nodup_states_of_names {s : Signature} (h : s.names.Nodup) : s.states.Nodup := by
  rw [Signature.names, List.append_assoc, List.nodup_append] at h
  exact h.1

end Transducer.Check
