import LoadClients.Table
import LoadClients.Proofs.Occurrences
import Mathlib.Data.List.Basic

/-!
Tables that pairs are written into one after the other. The keys stand in the order in which they
first came, and each has the value that it came with last. When a table is written into one with
other keys, a key of that has the value of the last of its keys in the first table.
-/

namespace LoadClients

theorem lookup_map_key {κ ι α : Type} [DecidableEq ι] (f : κ → ι) (es : List (κ × α)) (i : ι) :
    (es.map fun e => (f e.1, e.2)).lookup i = (es.find? fun e => f e.1 = i).map Prod.snd := by
  induction es with
  | nil => rfl
  | cons e es ih =>
    rw [List.map_cons, lookup_cons_eq, ih, List.find?_cons]
    by_cases same : f e.1 = i
    · simp [same]
    · have other : ¬ i = f e.1 := fun h => same h.symm
      simp [same, other]

namespace Table

variable {κ ι α : Type} [DecidableEq κ] [DecidableEq ι]

theorem ofList_concat (es : List (κ × α)) (e : κ × α) :
    ofList (es ++ [e]) = (ofList es).put e.1 e.2 := by
  rw [ofList, List.foldl_append]
  rfl

theorem keys_ofList (es : List (κ × α)) : (ofList es).keys = (es.map Prod.fst).eraseDups := by
  induction es using List.reverseRecOn with
  | nil => rfl
  | append_singleton es e ih =>
    rw [ofList_concat, keys_put, ih, List.map_append, List.map_singleton,
      eraseDups_append_singleton]
    simp only [List.mem_eraseDups]

theorem find?_ofList (es : List (κ × α)) (k : κ) : (ofList es).find? k = es.reverse.lookup k := by
  induction es using List.reverseRecOn with
  | nil => rfl
  | append_singleton es e ih =>
    obtain ⟨a, b⟩ := e
    rw [ofList_concat, find?_put, ih, List.reverse_concat, lookup_cons_eq]

omit [DecidableEq κ] in
theorem keys_ofList_map (t : Table κ α) (f : κ → ι) :
    (ofList (t.entries.map fun e => (f e.1, e.2))).keys = (t.keys.map f).eraseDups := by
  rw [keys_ofList, keys, List.map_map, List.map_map]
  rfl

theorem find?_ofList_map (t : Table κ α) (f : κ → ι) (i : ι) :
    (ofList (t.entries.map fun e => (f e.1, e.2))).find? i =
      (t.keys.reverse.find? fun k => f k = i).bind t.find? := by
  rw [find?_ofList, ← List.map_reverse, lookup_map_key, keys, ← List.map_reverse, List.find?_map]
  change (t.entries.reverse.find? fun e => f e.1 = i).map Prod.snd =
    ((t.entries.reverse.find? fun e => f e.1 = i).map Prod.fst).bind t.find?
  cases found : t.entries.reverse.find? fun e => f e.1 = i with
  | none => rfl
  | some e =>
    have inside := List.mem_reverse.mp (List.mem_of_find?_eq_some found)
    exact (find?_of_mem inside).symm

/-- A table is known by its keys and what is found at them. -/
theorem ext_find? {t u : Table κ α} (keys : t.keys = u.keys) (h : ∀ k, t.find? k = u.find? k) :
    t = u := by
  have found (t : Table κ α) :
      t.entries.map (fun e => (e.1, some e.2)) = t.keys.map fun k => (k, t.find? k) := by
    rw [Table.keys, List.map_map]
    refine List.map_congr_left ?_
    intro e he
    rw [Function.comp_apply, find?_of_mem he]
  have same : t.entries.map (fun e => (e.1, some e.2)) =
      u.entries.map fun e => (e.1, some e.2) := by
    rw [found, found, keys, funext h]
  have injective : Function.Injective fun e : κ × α => (e.1, some e.2) := by
    rintro ⟨a, b⟩ ⟨c, d⟩ pairs
    cases pairs
    rfl
  exact Table.ext (List.map_injective_iff.mpr injective same)

end Table

end LoadClients
