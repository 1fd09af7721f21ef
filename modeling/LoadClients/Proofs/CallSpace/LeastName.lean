import LoadClients.Proofs.CallSpace.Assign
import Mathlib.Data.List.Basic
import Mathlib.Data.Nat.Find

/-!
Names chosen by a search without memory, which looks at the calls given out so far and begins at two
each time. Going on from the count of a call gives the same names, provided that a call tells its
name from its arguments.
-/

namespace LoadClients

theorem exists_free (used : List String) (name args : String) :
    ∃ k, 2 ≤ k ∧ callText (numbered name k) args ∉ used := by
  by_contra none_free
  have covered : ∀ i, 2 ≤ i → i < 2 + (used.length + 1) →
      callText (numbered name i) args ∈ used := by
    intro i hi _
    by_contra free
    exact none_free ⟨i, hi, free⟩
  exact absurd (length_interval_le covered) (Nat.not_succ_le_self _)

/-- The smallest number from two on whose call is not used. -/
def leastFree (used : List String) (name args : String) : Nat :=
  Nat.find (exists_free used name args)

/-- The name itself if its call is not used, else with the smallest number that makes it so. -/
def freshName (used : List String) (name args : String) : String :=
  if callText name args ∈ used then numbered name (leastFree used name args) else name

/-- Names for calls in order, when these calls are used already. -/
def freshNames (used : List String) : List (String × String) → List String
  | [] => []
  | c :: cs =>
    let name := freshName used c.1 c.2
    name :: freshNames (callText name c.2 :: used) cs

theorem leastFree_eq {used : List String} {name args : String} {n : Nat} (hn : 2 ≤ n)
    (free : callText (numbered name n) args ∉ used)
    (least : ∀ i, 2 ≤ i → i < n → callText (numbered name i) args ∈ used) :
    leastFree used name args = n := by
  unfold leastFree
  rw [Nat.find_eq_iff]
  refine ⟨⟨hn, free⟩, ?_⟩
  rintro i hi ⟨h2, hfree⟩
  exact hfree (least i h2 hi)

theorem append_cons_inj_of_first {α : Type} {a : α} {xs ys zs ws : List α} (hx : a ∉ xs)
    (hy : a ∉ ys) (h : xs ++ a :: zs = ys ++ a :: ws) : xs = ys ∧ zs = ws := by
  rcases List.append_eq_append_iff.mp h with ⟨mid, eq, tail⟩ | ⟨mid, eq, tail⟩
  · cases mid with
    | nil => exact ⟨by rw [eq, List.append_nil], (List.cons.inj tail).2⟩
    | cons b mid =>
      obtain ⟨rfl, _⟩ := List.cons.inj tail
      exact absurd (by rw [eq]; simp) hy
  · cases mid with
    | nil => exact ⟨by rw [eq, List.append_nil], (List.cons.inj tail).2.symm⟩
    | cons b mid =>
      obtain ⟨rfl, _⟩ := List.cons.inj tail
      exact absurd (by rw [eq]; simp) hx

/-- A name without an opening parenthesis ends at the first one of the call. -/
theorem callText_inj {n m a b : String} (hn : '(' ∉ n.toList) (hm : '(' ∉ m.toList)
    (h : callText n a = callText m b) : n = m ∧ a = b := by
  have chars : n.toList ++ '(' :: (a.toList ++ [')']) = m.toList ++ '(' :: (b.toList ++ [')']) := by
    have hl := congrArg String.toList h
    simpa [callText] using hl
  obtain ⟨names, args⟩ := append_cons_inj_of_first hn hm chars
  exact ⟨String.toList_inj.mp names, String.toList_inj.mp (List.append_cancel_right args)⟩

namespace CallSpace

/-- All numbers from two up to a count are in use. -/
def Dense (s : CallSpace) : Prop :=
  ∀ name args count, '(' ∉ name.toList → s.counts.find? (callText name args) = some count →
    ∀ k, 2 ≤ k → k ≤ count → s.taken (callText (numbered name k) args)

theorem dense_empty : empty.Dense := by
  intro name args count _ h
  cases h

/-- So are the numbers below one that a search from the count comes to. -/
theorem Dense.taken_below {s : CallSpace} (h : s.Dense) {name args : String} {count n : Nat}
    (hp : '(' ∉ name.toList) (hf : s.counts.find? (callText name args) = some count)
    (passed : ∀ i, count < i → i < n → s.taken (callText (numbered name i) args)) :
    ∀ i, 2 ≤ i → i < n → s.taken (callText (numbered name i) args) := by
  intro i hi hin
  rcases Nat.lt_or_ge count i with above | within
  · exact passed i above hin
  · exact h name args count hp hf i hi within

theorem Dense.assign {s : CallSpace} (h : s.Dense) {name : String} (hp : '(' ∉ name.toList)
    (args : String) : (s.assign name args).2.Dense := by
  intro other oargs c ho hf k hk hkc
  have keep {call : String} (old : s.taken call) : (s.assign name args).2.taken call :=
    (s.taken_assign_iff name args call).mpr (Or.inr old)
  rcases s.assign_cases name args with ⟨_, eq⟩ | ⟨count, n, hcount, _, passed, _, eq⟩
  · rw [eq, Table.find?_put] at hf
    split at hf
    · cases hf
      omega
    · exact keep (h other oargs c ho hf k hk hkc)
  · rw [eq, Table.find?_put] at hf
    split at hf
    · next same =>
      -- the count that went up is the one of this very name, which no other name shares
      obtain ⟨rfl, rfl⟩ := callText_inj ho hp same
      cases hf
      rcases Nat.lt_or_eq_of_le hkc with hlt | rfl
      · exact keep (h.taken_below ho hcount passed k hk hlt)
      · rw [taken_assign_iff, eq]
        exact Or.inl rfl
    · rw [Table.find?_put] at hf
      split at hf
      · cases hf
        omega
      · exact keep (h other oargs c ho hf k hk hkc)

/-- The calls that are taken are those in use, and the counts leave out no free number. -/
structure Remembers (s : CallSpace) (used : List String) : Prop where
  taken_iff : ∀ call, s.taken call ↔ call ∈ used
  counted : s.Counted
  dense : s.Dense

namespace Remembers

theorem empty : Remembers CallSpace.empty [] := by
  refine ⟨?_, counted_empty, dense_empty⟩
  intro call
  simp [CallSpace.taken_iff, CallSpace.empty, Table.keys]

variable {s : CallSpace} {used : List String}

/-- One step agrees with the search without memory. -/
theorem assign_name (h : Remembers s used) {name : String} (hp : '(' ∉ name.toList)
    (args : String) : (s.assign name args).1 = freshName used name args := by
  rcases s.assign_cases name args with ⟨free, eq⟩ | ⟨count, n, hf, hn, passed, free, eq⟩
  · rw [h.taken_iff] at free
    rw [eq, freshName, if_neg free]
  · have used_call : callText name args ∈ used := by
      rw [← h.taken_iff]
      simp [taken, hf]
    have one : 1 ≤ count := h.counted _ _ hf
    have least : leastFree used name args = n := by
      apply leastFree_eq (by omega)
      · rwa [← h.taken_iff]
      · intro i hi hin
        rw [← h.taken_iff]
        exact h.dense.taken_below hp hf passed i hi hin
    rw [eq, freshName, if_pos used_call, least]

theorem assign (h : Remembers s used) {name : String} (hp : '(' ∉ name.toList) (args : String) :
    Remembers (s.assign name args).2 (callText (freshName used name args) args :: used) := by
  refine ⟨?_, h.counted.assign name args, h.dense.assign hp args⟩
  intro call
  rw [taken_assign_iff, h.assign_name hp, h.taken_iff, List.mem_cons]

theorem assignAll (h : Remembers s used) (cs : List (String × String))
    (hp : ∀ c ∈ cs, '(' ∉ c.1.toList) : s.assignAll cs = freshNames used cs := by
  induction cs generalizing s used with
  | nil => rfl
  | cons c cs ih =>
    have hpc := hp c (by simp)
    have tail := ih (h.assign hpc c.2) fun d hd => hp d (by simp [hd])
    simp only [CallSpace.assignAll, freshNames]
    rw [h.assign_name hpc, tail]

end Remembers

/-- A count never hides a free number: the names are those of the search without memory. -/
theorem assignAll_eq_freshNames {cs : List (String × String)} (h : ∀ c ∈ cs, '(' ∉ c.1.toList) :
    empty.assignAll cs = freshNames [] cs :=
  Remembers.empty.assignAll cs h

/-- Names that look like numbered ones. -/
def lookalikes : List (String × String) :=
  ["count2", "count", "count", "count", "count3"].map fun name => (name, "params = undefined")

theorem assignAll_lookalikes :
    (∀ c ∈ lookalikes, '(' ∉ c.1.toList) ∧ empty.assignAll lookalikes = freshNames [] lookalikes ∧
      freshNames [] lookalikes = ["count2", "count", "count3", "count4", "count32"] := by
  have h : ∀ c ∈ lookalikes, '(' ∉ c.1.toList := by decide
  have eq := assignAll_eq_freshNames h
  exact ⟨h, eq, eq.symm.trans (by decide)⟩

end CallSpace

end LoadClients
