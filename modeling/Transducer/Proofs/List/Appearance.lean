import Mathlib.Data.List.Induction
import Mathlib.Data.List.Nodup

/-!
# Members by their first appearance

Many lists of names hold the members of another list that satisfy a condition, each once and in the
order in which they first appear. Dropping repetitions and keeping what satisfies the condition
gives that list (`listsOnce_filter_eraseDups`).
-/

namespace Transducer

variable {α : Type} [BEq α] [LawfulBEq α]

/-- A list holds the members of another one that satisfy a condition, each once, by their first
appearance. -/
structure ListsOnce (p : α → Prop) (members result : List α) : Prop where
  nodup : result.Nodup
  mem_iff : ∀ a, a ∈ result ↔ a ∈ members ∧ p a
  ordered : result.Pairwise fun a b => members.idxOf a < members.idxOf b

/-- One more member is new at the end or no news at all. -/
theorem eraseDups_concat (members : List α) (a : α) :
    (members ++ [a]).eraseDups =
      if a ∈ members then members.eraseDups else members.eraseDups ++ [a] := by
  rw [List.eraseDups_append]
  split
  · rename_i h
    simp [List.removeAll, h]
  · rename_i h
    simp [List.removeAll, h, List.eraseDups_cons]

/-- A list without its repetitions holds all members. -/
theorem listsOnce_eraseDups (members : List α) :
    ListsOnce (fun _ => True) members members.eraseDups := by
  induction members using List.reverseRecOn with
  | nil => exact ⟨by simp, by simp, by simp⟩
  | append_singleton members a ih =>
    -- What is listed already is found where it was before.
    have hfound : ∀ b ∈ members.eraseDups, (members ++ [a]).idxOf b = members.idxOf b := by
      intro b hb
      exact List.idxOf_append_of_mem (List.mem_eraseDups.1 hb)
    have hordered : members.eraseDups.Pairwise
        fun b c => (members ++ [a]).idxOf b < (members ++ [a]).idxOf c := by
      refine ih.ordered.imp_of_mem ?_
      intro b c hb hc hlt
      rwa [hfound b hb, hfound c hc]
    rw [eraseDups_concat]
    split
    · rename_i hmem
      refine ⟨ih.nodup, ?_, hordered⟩
      intro b
      rw [ih.mem_iff, List.mem_append, List.mem_singleton]
      constructor
      · exact fun h => ⟨.inl h.1, trivial⟩
      · rintro ⟨h | rfl, -⟩
        · exact ⟨h, trivial⟩
        · exact ⟨hmem, trivial⟩
    · rename_i hnew
      have hlast : a ∉ members.eraseDups := fun h => hnew (List.mem_eraseDups.1 h)
      refine ⟨?_, by simp, ?_⟩
      · rw [List.nodup_append]
        refine ⟨ih.nodup, List.nodup_singleton a, ?_⟩
        intro b hb c hc
        obtain rfl := List.mem_singleton.1 hc
        rintro rfl
        exact hlast hb
      · rw [List.pairwise_append]
        refine ⟨hordered, List.pairwise_singleton _ _, ?_⟩
        intro b hb c hc
        obtain rfl := List.mem_singleton.1 hc
        have hbefore : members.idxOf b < members.length :=
          List.idxOf_lt_length_iff.2 (List.mem_eraseDups.1 hb)
        rw [hfound b hb, List.idxOf_append_of_notMem hnew]
        omega

/-- What satisfies a condition of a list without its repetitions holds the members that do. -/
theorem listsOnce_filter_eraseDups (p : α → Bool) (members : List α) :
    ListsOnce (fun a => p a = true) members (members.eraseDups.filter p) := by
  have h := listsOnce_eraseDups members
  refine ⟨h.nodup.filter p, ?_, h.ordered.filter p⟩
  intro a
  rw [List.mem_filter, List.mem_eraseDups]

end Transducer
