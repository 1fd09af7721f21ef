import Mathlib.Data.List.Induction

/-!
The elements of a list in the order in which they first occur, each once.
-/

namespace LoadClients

theorem nodup_eraseDups {α : Type} [DecidableEq α] (l : List α) : l.eraseDups.Nodup := by
  induction h : l.length using Nat.strongRecOn generalizing l with
  | ind n ih =>
    cases l with
    | nil => exact List.nodup_nil
    | cons a l =>
      rw [List.eraseDups_cons, List.nodup_cons]
      constructor
      · simp [List.mem_eraseDups]
      · have shorter := List.length_filter_le (fun b => !b == a) l
        simp only [List.length_cons] at h
        exact ih _ (by omega) _ rfl

theorem eraseDups_append_singleton {α : Type} [DecidableEq α] (l : List α) (a : α) :
    (l ++ [a]).eraseDups = if a ∈ l then l.eraseDups else l.eraseDups ++ [a] := by
  rw [List.eraseDups_append]
  by_cases seen : a ∈ l
  · simp [List.removeAll, seen]
  · simp [List.removeAll, seen, List.eraseDups_cons]

/-- The first occurrences of images are the images of first occurrences, each once. -/
theorem eraseDups_map_eraseDups {α β : Type} [DecidableEq α] [DecidableEq β] (f : α → β)
    (l : List α) : (l.eraseDups.map f).eraseDups = (l.map f).eraseDups := by
  induction l using List.reverseRecOn with
  | nil => rfl
  | append_singleton l a ih =>
    rw [eraseDups_append_singleton, List.map_append, List.map_singleton,
      eraseDups_append_singleton]
    split
    · next known => rw [if_pos (List.mem_map_of_mem known), ih]
    · have same : f a ∈ l.eraseDups.map f ↔ f a ∈ l.map f := by simp
      rw [List.map_append, List.map_singleton, eraseDups_append_singleton, ih]
      simp only [same]

end LoadClients
