import LoadClients.Proofs.CallSpace.Assign

/-!
The search for a free number without a bound on it: it goes on for as long as it meets calls that are
taken. It ends whatever is on record, also where no run has put it, because it cannot pass more calls
than there are; and the search with a bound ends at the same number.
-/

namespace LoadClients.CallSpace

/-- A search that ended: the number it began at, how many taken calls it passed, and the number whose
call it found free. -/
inductive SearchRun (s : CallSpace) (name args : String) : Nat → Nat → Nat → Prop where
  | found {n : Nat} (free : ¬ s.taken (callText (numbered name n) args)) :
      SearchRun s name args n 0 n
  | pass {n passed last : Nat} (taken : s.taken (callText (numbered name n) args))
      (later : SearchRun s name args (n + 1) passed last) :
      SearchRun s name args n (passed + 1) last

variable {s : CallSpace} {name args : String}

namespace SearchRun
variable {n passed last : Nat}

theorem last_eq (h : s.SearchRun name args n passed last) : last = n + passed := by
  induction h with
  | found => rfl
  | pass _ _ ih => omega

theorem free (h : s.SearchRun name args n passed last) :
    ¬ s.taken (callText (numbered name last) args) := by
  induction h with
  | found free => exact free
  | pass _ _ ih => exact ih

theorem taken_below (h : s.SearchRun name args n passed last) {i : Nat} (hn : n ≤ i)
    (hi : i < last) : s.taken (callText (numbered name i) args) := by
  induction h with
  | found => exact absurd hi (Nat.not_lt.mpr hn)
  | pass taken _ ih =>
    rcases Nat.eq_or_lt_of_le hn with rfl | later
    · exact taken
    · exact ih later hi

/-- The calls that are passed are different entries of the record. -/
theorem passed_le (h : s.SearchRun name args n passed last) : passed ≤ s.counts.size := by
  have covered : ∀ i, n ≤ i → i < n + passed →
      callText (numbered name i) args ∈ s.counts.keys := by
    intro i hn hi
    rw [← taken_iff]
    exact h.taken_below hn (h.last_eq ▸ hi)
  have hle := length_interval_le covered
  rwa [Table.keys, List.length_map] at hle

theorem unique {passed' last' : Nat} (h : s.SearchRun name args n passed last)
    (h' : s.SearchRun name args n passed' last') : passed' = passed ∧ last' = last := by
  induction h generalizing passed' with
  | found free =>
    cases h' with
    | found => exact ⟨rfl, rfl⟩
    | pass taken => exact absurd taken free
  | pass taken _ ih =>
    cases h' with
    | found free => exact absurd taken free
    | pass _ later =>
      obtain ⟨rfl, same⟩ := ih later
      exact ⟨rfl, same⟩

/-- Taken calls up to a free one make a run: by induction on how many they are. -/
theorem of_taken_below (below : ∀ i, n ≤ i → i < n + passed →
      s.taken (callText (numbered name i) args))
    (free : ¬ s.taken (callText (numbered name (n + passed)) args)) :
    s.SearchRun name args n passed (n + passed) := by
  induction passed generalizing n with
  | zero => exact found free
  | succ passed ih =>
    have next : n + (passed + 1) = n + 1 + passed := by omega
    rw [next] at free below ⊢
    refine pass (below n (Nat.le_refl n) (by omega)) (ih ?_ free)
    intro i hn hi
    exact below i (by omega) hi

/-- A bound that is not smaller than what is passed does not stop the search. -/
theorem freeNumber_eq (h : s.SearchRun name args n passed last) {fuel : Nat}
    (enough : passed ≤ fuel) : s.freeNumber name args fuel n = last := by
  induction h generalizing fuel with
  | found free =>
    cases fuel with
    | zero => rfl
    | succ fuel => rw [freeNumber, if_neg free]
  | pass taken _ ih =>
    cases fuel with
    | zero => exact absurd enough (Nat.not_succ_le_zero _)
    | succ fuel =>
      rw [freeNumber, if_pos taken]
      exact ih (Nat.le_of_succ_le_succ enough)

end SearchRun

/-- Among as many numbers as there are calls, and one more, there is a free one. -/
theorem exists_searchRun (s : CallSpace) (name args : String) (n : Nat) :
    ∃ passed last, s.SearchRun name args n passed last := by
  obtain ⟨passed, eq⟩ := Nat.le.dest (s.le_freeNumber name args s.counts.size n)
  have free := s.not_taken_freeNumber name args n
  rw [← eq] at free
  refine ⟨passed, n + passed, .of_taken_below ?_ free⟩
  intro i hn hi
  exact s.taken_of_lt_freeNumber name args hn (eq ▸ hi)

/-- Whatever calls are on record, and with whatever counts, there is exactly one run of the search on
from a count. It passes at most as many calls as are on record and ends at a call that is not, which
is the one that is given out if the count was on record. -/
theorem search_ends (s : CallSpace) (name args : String) (count : Nat) :
    ∃ passed last,
      (∀ p l, s.SearchRun name args (count + 1) p l ↔ p = passed ∧ l = last) ∧
        passed ≤ s.counts.size ∧ callText (numbered name last) args ∉ s.counts.keys ∧
          (s.counts.find? (callText name args) = some count →
            (s.assign name args).1 = numbered name last) := by
  obtain ⟨passed, last, run⟩ := s.exists_searchRun name args (count + 1)
  refine ⟨passed, last, ?_, run.passed_le, ?_, ?_⟩
  · intro p l
    constructor
    · exact run.unique
    · rintro ⟨rfl, rfl⟩
      exact run
  · rw [← taken_iff]
    exact run.free
  · intro recorded
    rw [assign, recorded]
    exact congrArg (numbered name) (run.freeNumber_eq run.passed_le)

/-- A record that no run of calls leaves: a count below one, and numbered calls without their own. -/
def strewn : CallSpace :=
  ⟨Table.ofList [("tap1(keg)", 1), ("tap12(keg)", 0), ("tap13(keg)", 9), ("tap(1(keg)", 4)]⟩

theorem search_ends_strewn :
    strewn.counts.find? (callText "tap1" "keg") = some 1 ∧
      strewn.SearchRun "tap1" "keg" 2 2 4 ∧ 2 ≤ strewn.counts.size ∧
        callText (numbered "tap1" 4) "keg" ∉ strewn.counts.keys ∧
          (strewn.assign "tap1" "keg").1 = numbered "tap1" 4 := by
  have recorded : strewn.counts.find? (callText "tap1" "keg") = some 1 := by decide
  have run : strewn.SearchRun "tap1" "keg" 2 2 4 :=
    .pass (by decide) (.pass (by decide) (.found (by decide)))
  obtain ⟨passed, last, runs, bound, free, given⟩ := search_ends strewn "tap1" "keg" 1
  obtain ⟨rfl, rfl⟩ := (runs 2 4).mp run
  exact ⟨recorded, run, bound, free, given recorded⟩

end LoadClients.CallSpace
