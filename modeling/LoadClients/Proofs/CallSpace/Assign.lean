import LoadClients.Proofs.CallSpace.Search

/-!
What giving out one name does. The call of the new name was not taken before, it is all that is
taken after, and the name is the one asked for, alone or with a number from two on.
-/

namespace LoadClients.CallSpace

/-- Either the call is free and keeps its name, or its count goes up to the next free number. -/
theorem assign_cases (s : CallSpace) (name args : String) :
    (¬ s.taken (callText name args) ∧
      s.assign name args = (name, ⟨s.counts.put (callText name args) 1⟩)) ∨
    ∃ count n, s.counts.find? (callText name args) = some count ∧ count < n ∧
      (∀ i, count < i → i < n → s.taken (callText (numbered name i) args)) ∧
      ¬ s.taken (callText (numbered name n) args) ∧
      s.assign name args = (numbered name n,
        ⟨(s.counts.put (callText (numbered name n) args) 1).put (callText name args) n⟩) := by
  cases hf : s.counts.find? (callText name args) with
  | none =>
    left
    constructor
    · simp [taken, hf]
    · simp only [assign, hf]
  | some count =>
    right
    refine ⟨count, s.freeNumber name args s.counts.size (count + 1), rfl, ?_, ?_, ?_, ?_⟩
    · exact s.le_freeNumber name args _ _
    · intro i hi hlt
      exact s.taken_of_lt_freeNumber name args hi hlt
    · exact s.not_taken_freeNumber name args (count + 1)
    · simp only [assign, hf]

theorem taken_put (t : Table String Nat) (call : String) (count : Nat) (other : String) :
    (CallSpace.mk (t.put call count)).taken other ↔
      other = call ∨ (CallSpace.mk t).taken other := by
  unfold taken
  rw [Table.find?_put]
  by_cases h : other = call
  · simp [h]
  · simp [h]

theorem not_taken_assign (s : CallSpace) (name args : String) :
    ¬ s.taken (callText (s.assign name args).1 args) := by
  rcases s.assign_cases name args with ⟨free, eq⟩ | ⟨count, n, _, _, _, free, eq⟩
  · rw [eq]
    exact free
  · rw [eq]
    exact free

theorem taken_assign_iff (s : CallSpace) (name args call : String) :
    (s.assign name args).2.taken call ↔
      call = callText (s.assign name args).1 args ∨ s.taken call := by
  rcases s.assign_cases name args with ⟨_, eq⟩ | ⟨count, n, hf, _, _, _, eq⟩
  · rw [eq]
    exact taken_put _ _ _ _
  · have old : s.taken (callText name args) := by simp [taken, hf]
    rw [eq, taken_put, taken_put]
    constructor
    · rintro (rfl | h)
      · exact Or.inr old
      · exact h
    · exact Or.inr

/-- Counts begin at one, which stands for the name without a number. -/
def Counted (s : CallSpace) : Prop :=
  ∀ call count, s.counts.find? call = some count → 1 ≤ count

theorem counted_empty : empty.Counted := by
  intro call count h
  cases h

theorem Counted.put {t : Table String Nat} (h : Counted ⟨t⟩) (call : String) {count : Nat}
    (hc : 1 ≤ count) : Counted ⟨t.put call count⟩ := by
  intro other k hk
  rw [Table.find?_put] at hk
  split at hk
  · cases hk
    exact hc
  · exact h other k hk

theorem Counted.assign {s : CallSpace} (h : s.Counted) (name args : String) :
    (s.assign name args).2.Counted := by
  rcases s.assign_cases name args with ⟨_, eq⟩ | ⟨count, n, _, hn, _, _, eq⟩
  · rw [eq]
    exact h.put _ (Nat.le_refl 1)
  · rw [eq]
    exact (h.put _ (Nat.le_refl 1)).put _ (Nat.one_le_of_lt hn)

theorem Counted.assign_name {s : CallSpace} (h : s.Counted) (name args : String) :
    (s.assign name args).1 = name ∨ ∃ k, 2 ≤ k ∧ (s.assign name args).1 = numbered name k := by
  rcases s.assign_cases name args with ⟨_, eq⟩ | ⟨count, n, hf, hn, _, _, eq⟩
  · left
    rw [eq]
  · right
    have hc := h _ _ hf
    exact ⟨n, by omega, by rw [eq]⟩

end LoadClients.CallSpace
