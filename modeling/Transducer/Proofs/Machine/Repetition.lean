import Mathlib.Data.List.Induction
import Mathlib.Data.List.Perm.Basic
import Transducer.Proofs.Machine.Rules

/-!
# Names that stand more than once

The scan for repeated names keeps the names that it met and those that it met twice. One more name
at the end is new, is met for the second time, or is no news (`repeated_concat`). So the scan lists
exactly the names that stand at least twice, each once and by its second occurrence
(`uniqueNames_verdict`), and a copy of one name is found wherever it is added.
-/

namespace Transducer

/-- A signature with one more copy of a name, at some place of one of its three lists of names. -/
inductive Signature.Gains (s : Signature) (name : Text) : Signature → Prop
  | state {i : Nat} (h : i ≤ s.states.length) :
    Gains s name { s with states := s.states.insertIdx i name }
  | input {i : Nat} (h : i ≤ s.inputs.length) :
    Gains s name { s with inputs := s.inputs.insertIdx i name }
  | output {i : Nat} (h : i ≤ s.outputs.length) :
    Gains s name { s with outputs := s.outputs.insertIdx i name }

/-- The names of a signature with one more copy of a name are its names and that copy, in some
order. -/
theorem Signature.Gains.perm {s s' : Signature} {name : Text} (h : s.Gains name s') :
    s'.names.Perm (name :: s.names) := by
  unfold Signature.names
  cases h with
  | state hi => exact ((List.perm_insertIdx name _ hi).append_right _).append_right _
  | input hi =>
    refine List.Perm.trans (((List.perm_insertIdx name _ hi).append_left _).append_right _) ?_
    exact List.perm_middle.append_right _
  | output hi =>
    refine List.Perm.trans ((List.perm_insertIdx name _ hi).append_left _) ?_
    exact List.perm_middle

namespace Check

open Log

/-! ## Places of occurrences -/

/-- What stands often enough in the front of a list is found there. -/
theorem idxOfNth_append_of_lt {names : List Text} {name : Text} {n : Nat}
    (h : n < names.count name) (rest : List Text) :
    (names ++ rest).idxOfNth name n = names.idxOfNth name n := by
  induction names generalizing n with
  | nil => simp at h
  | cons first names ih =>
    rw [List.count_cons] at h
    rw [List.cons_append, List.idxOfNth_cons, List.idxOfNth_cons]
    grind

/-- The occurrence of a name after all others is at the end. -/
theorem idxOfNth_concat (names : List Text) (name : Text) :
    (names ++ [name]).idxOfNth name (names.count name) = names.length := by
  induction names with
  | nil => simp
  | cons first names ih =>
    rw [List.count_cons, List.cons_append, List.idxOfNth_cons, List.length_cons]
    grind

/-! ## The scan -/

/-- One more name at the end is found if it was met before and not found yet. -/
theorem repeatedFrom_concat (seen found names : List Text) (last : Text) :
    repeatedFrom seen found (names ++ [last]) =
      if (last ∈ seen ∨ last ∈ names) ∧ last ∉ repeatedFrom seen found names then
        repeatedFrom seen found names ++ [last]
      else repeatedFrom seen found names := by
  induction names generalizing seen found with
  | nil => simp [repeatedFrom]
  | cons first names ih =>
    -- The name that the scan meets first counts as met from here on.
    have hmet : (last ∈ first :: seen ∨ last ∈ names) ↔ (last ∈ seen ∨ last ∈ first :: names) := by
      simp only [List.mem_cons]
      tauto
    rw [List.cons_append, repeatedFrom, repeatedFrom]
    split
    · simp only [ih, hmet]
    · simp only [ih, hmet]

/-- One more name at the end is found if it stood once before. -/
theorem repeated_concat (names : List Text) (last : Text) :
    repeated (names ++ [last]) =
      if names.count last = 1 then repeated names ++ [last] else repeated names := by
  have hcount : (last ∈ ([] : List Text) ∨ last ∈ names) ∧ last ∉ repeated names ↔
      names.count last = 1 := by
    have hmem : last ∈ names ↔ 1 ≤ names.count last := List.one_le_count_iff.symm
    simp only [List.not_mem_nil, false_or, mem_repeated_iff, hmem]
    omega
  have h := repeatedFrom_concat [] [] names last
  rw [← repeated, ← repeated] at h
  rw [h]
  simp only [hcount]

/-- The names are found in the order of their second occurrences. -/
theorem repeated_ordered (names : List Text) :
    (repeated names).Pairwise fun a b => names.idxOfNth a 1 < names.idxOfNth b 1 := by
  induction names using List.reverseRecOn with
  | nil => simp [repeated, repeatedFrom]
  | append_singleton names last ih =>
    -- What is found already stands twice, so that its second occurrence stays where it is.
    have hold : ∀ a ∈ repeated names,
        (names ++ [last]).idxOfNth a 1 = names.idxOfNth a 1 ∧
          names.idxOfNth a 1 < names.length := by
      intro a ha
      have hcount : 1 < names.count a := (mem_repeated_iff names a).1 ha
      exact ⟨idxOfNth_append_of_lt hcount _, List.idxOfNth_lt_length_of_lt_count hcount⟩
    have hfound : (repeated names).Pairwise
        fun a b => (names ++ [last]).idxOfNth a 1 < (names ++ [last]).idxOfNth b 1 := by
      refine ih.imp_of_mem ?_
      intro a b ha hb hlt
      rwa [(hold a ha).1, (hold b hb).1]
    rw [repeated_concat]
    split
    · rename_i hcount
      rw [List.pairwise_append]
      refine ⟨hfound, List.pairwise_singleton _ _, ?_⟩
      intro a ha b hb
      obtain rfl := List.mem_singleton.1 hb
      have hlast := idxOfNth_concat names b
      rw [hcount] at hlast
      rw [hlast, (hold a ha).1]
      exact (hold a ha).2
    · exact hfound

/-! ## The check -/

/-- The first rule is kept if all names are different, and otherwise reports those found. -/
theorem outcome_uniqueNames (s : Signature) :
    (rule .uniqueNames s).outcome =
      if s.names.Nodup then .ok ()
      else .error (.violation .uniqueNames (message (.repeated (repeated s.names)))
        (repeated s.names)) := by
  split
  · rename_i hnodup
    rw [rule_eq_ok_iff, keeps_iff]
    exact hnodup
  · rename_i hnodup
    have hne : repeated s.names ≠ [] := mt (repeated_eq_nil_iff s.names).1 hnodup
    have hsome : violation? s .uniqueNames = some (.repeated (repeated s.names)) := by
      rw [violation?]
      exact if_neg (mt List.isEmpty_iff.1 hne)
    exact (rule_of_some hsome).1

/-- One more copy of a name is all that is found among names that were all different. -/
theorem repeated_of_perm_cons {names names' : List Text} {name : Text} (hnodup : names.Nodup)
    (hname : name ∈ names) (hperm : names'.Perm (name :: names)) : repeated names' = [name] := by
  have hmem (x : Text) : x ∈ repeated names' ↔ x ∈ [name] := by
    have hcount : names.count x ≤ 1 := List.nodup_iff_count_le_one.1 hnodup x
    rw [mem_repeated_iff, hperm.count_eq, List.count_cons, List.mem_singleton]
    by_cases heq : x = name
    · subst heq
      have hone : names.count x = 1 := List.count_eq_one_of_mem hnodup hname
      simp [hone]
    · have hne : (name == x) = false := beq_eq_false_iff_ne.2 (Ne.symm heq)
      rw [hne, if_neg Bool.false_ne_true]
      simp only [heq, iff_false]
      omega
  have hsingle : (repeated names').Perm [name] :=
    (List.perm_ext_iff_of_nodup (nodup_repeated names') (List.nodup_singleton name)).2 hmem
  exact List.perm_singleton.1 hsingle

/-- The check for repeated names is passed exactly if all names of the states, the inputs and the
outputs are different. Otherwise its report lists the names that stand at least twice, each once, in
the order of their second occurrences, and so does its text. One more copy of a name, anywhere in
a machine that passes, is reported and nothing else is. -/
theorem uniqueNames_verdict (m : Machine) :
    let all := m.signature.states ++ m.signature.inputs ++ m.signature.outputs
    ((rule .uniqueNames m.signature).outcome = .ok () ↔ all.Nodup) ∧
    (¬ all.Nodup → ∃ names,
      (rule .uniqueNames m.signature).outcome = .error (.violation .uniqueNames
        ("Duplicate elements found: " ++ Text.join ", " names) names) ∧
      (∀ name, name ∈ names ↔ 2 ≤ all.count name) ∧ names.Nodup ∧
      names.Pairwise fun a b => all.idxOfNth a 1 < all.idxOfNth b 1) ∧
    ((rule .uniqueNames m.signature).outcome = .ok () → ∀ name ∈ all, ∀ m' : Machine,
      m.signature.Gains name m'.signature →
      (rule .uniqueNames m'.signature).outcome = .error (.violation .uniqueNames
        ("Duplicate elements found: " ++ name) [name])) := by
  intro all
  have hall : all = m.signature.names := rfl
  rw [hall]
  have hok : (rule .uniqueNames m.signature).outcome = .ok () ↔ m.signature.names.Nodup := by
    rw [outcome_uniqueNames]
    split <;> simp [*]
  refine ⟨hok, ?_, ?_⟩
  · intro hnodup
    refine ⟨repeated m.signature.names, ?_, mem_repeated_iff _, nodup_repeated _,
      repeated_ordered _⟩
    rw [outcome_uniqueNames, if_neg hnodup]
    rfl
  · intro hpass name hname m' hgains
    have hrepeated := repeated_of_perm_cons (hok.1 hpass) hname hgains.perm
    have hnodup : ¬ m'.signature.names.Nodup := by
      rw [← repeated_eq_nil_iff, hrepeated]
      simp
    rw [outcome_uniqueNames, if_neg hnodup, hrepeated, message, Text.join,
      List.intercalate_singleton]

/-- A name that is met first may be found last. -/
example : repeated ["b", "a", "a", "b", "b"] = ["a", "b"] := by decide

end Check

end Transducer
