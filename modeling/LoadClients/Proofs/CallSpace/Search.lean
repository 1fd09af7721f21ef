import LoadClients.CallSpace
import Mathlib.Data.List.Perm.Subperm
import Mathlib.Data.List.Nodup
import Std.Data.String.ToNat

/-!
The search for a free number. Different numbers make different calls, so finitely many calls that
are taken cannot cover more numbers than there are of them: the search ends at the least free number
from its start on.
-/

namespace LoadClients

theorem numbered_injective {name : String} {i j : Nat} (h : numbered name i = numbered name j) :
    i = j := by
  unfold numbered at h
  rw [String.append_right_inj] at h
  exact Nat.repr_injective h

theorem toList_numbered (name : String) (n : Nat) :
    (numbered name n).toList = name.toList ++ Nat.toDigits 10 n := by
  have digits : (toString n).toList = Nat.toDigits 10 n := Nat.toList_repr
  rw [numbered, String.toList_append, digits]

theorem callText_left_injective {n m args : String} (h : callText n args = callText m args) :
    n = m := by
  unfold callText at h
  rwa [String.append_left_inj, String.append_left_inj, String.append_left_inj] at h

/-- Among calls that hold all numbers of an interval there are at least as many as numbers. -/
theorem length_interval_le {used : List String} {name args : String} {n m : Nat}
    (h : ∀ i, n ≤ i → i < n + m → callText (numbered name i) args ∈ used) : m ≤ used.length := by
  let calls := (List.range' n m).map fun i => callText (numbered name i) args
  have distinct : calls.Nodup := by
    apply List.Nodup.map _ List.nodup_range'
    intro i j hij
    exact numbered_injective (callText_left_injective hij)
  have included : calls ⊆ used := by
    intro call hc
    obtain ⟨i, hi, rfl⟩ := List.mem_map.mp hc
    have bounds := List.mem_range'_1.mp hi
    exact h i bounds.1 bounds.2
  have hle := (distinct.subperm included).length_le
  simpa [calls] using hle

namespace CallSpace

theorem taken_iff {s : CallSpace} {call : String} : s.taken call ↔ call ∈ s.counts.keys :=
  Table.isSome_find?_iff

section
variable (s : CallSpace) (name args : String)

theorem le_freeNumber (fuel n : Nat) : n ≤ s.freeNumber name args fuel n := by
  induction fuel generalizing n with
  | zero => exact Nat.le_refl n
  | succ fuel ih =>
    unfold freeNumber
    split
    · exact Nat.le_of_succ_le (ih (n + 1))
    · exact Nat.le_refl n

theorem taken_of_lt_freeNumber {fuel n i : Nat} (hn : n ≤ i)
    (hi : i < s.freeNumber name args fuel n) : s.taken (callText (numbered name i) args) := by
  induction fuel generalizing n with
  | zero => exact absurd hi (Nat.not_lt.mpr hn)
  | succ fuel ih =>
    unfold freeNumber at hi
    split at hi
    · next ht =>
      rcases Nat.eq_or_lt_of_le hn with rfl | hlt
      · exact ht
      · exact ih hlt hi
    · exact absurd hi (Nat.not_lt.mpr hn)

/-- A search that ends at a taken call has used up its fuel. -/
theorem freeNumber_eq_of_taken {fuel n : Nat}
    (h : s.taken (callText (numbered name (s.freeNumber name args fuel n)) args)) :
    s.freeNumber name args fuel n = n + fuel := by
  induction fuel generalizing n with
  | zero => rfl
  | succ fuel ih =>
    unfold freeNumber at h ⊢
    split at h
    · next ht =>
      rw [if_pos ht, ih h]
      omega
    · next hf => exact absurd h hf

/-- With fuel for all the calls that there are, the search ends at a free one. -/
theorem not_taken_freeNumber (n : Nat) :
    ¬ s.taken (callText (numbered name (s.freeNumber name args s.counts.size n)) args) := by
  intro h
  have last := freeNumber_eq_of_taken s name args h
  have covered : ∀ i, n ≤ i → i < n + (s.counts.size + 1) →
      callText (numbered name i) args ∈ s.counts.keys := by
    intro i hn hi
    rw [← taken_iff]
    have hle : i ≤ n + s.counts.size := by omega
    rcases Nat.lt_or_eq_of_le hle with hlt | rfl
    · rw [← last] at hlt
      exact taken_of_lt_freeNumber s name args hn hlt
    · rwa [last] at h
  have hle := length_interval_le covered
  simp only [Table.keys, List.length_map] at hle
  exact absurd hle (Nat.not_succ_le_self _)

end

end CallSpace

end LoadClients
