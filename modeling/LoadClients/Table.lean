/-!
Tables that remember the order in which their keys first came. Writing a key that is already there
changes its value and moves nothing; a new key goes to the end.
-/

namespace LoadClients

structure Table (κ α : Type) where
  entries : List (κ × α)
  nodup_keys : (entries.map Prod.fst).Nodup

def putEntry {κ α : Type} [DecidableEq κ] (k : κ) (v : α) : List (κ × α) → List (κ × α)
  | [] => [(k, v)]
  | e :: es => if e.1 = k then (k, v) :: es else e :: putEntry k v es

section
variable {κ α : Type} [DecidableEq κ]

theorem keys_putEntry (k : κ) (v : α) (es : List (κ × α)) :
    (putEntry k v es).map Prod.fst =
      if k ∈ es.map Prod.fst then es.map Prod.fst else es.map Prod.fst ++ [k] := by
  induction es with
  | nil => simp [putEntry]
  | cons e es ih =>
    by_cases h : e.1 = k
    · simp [putEntry, h]
    · have h' : ¬ k = e.1 := fun he => h he.symm
      by_cases hk : k ∈ es.map Prod.fst
      · rw [if_pos hk] at ih
        rw [if_pos (by simp only [List.map_cons, List.mem_cons]; exact Or.inr hk)]
        simp [putEntry, h, ih]
      · rw [if_neg hk] at ih
        rw [if_neg (by simp only [List.map_cons, List.mem_cons, not_or]; exact ⟨h', hk⟩)]
        simp [putEntry, h, ih]

theorem nodup_putEntry (k : κ) (v : α) {es : List (κ × α)} (h : (es.map Prod.fst).Nodup) :
    ((putEntry k v es).map Prod.fst).Nodup := by
  rw [keys_putEntry]
  split
  · exact h
  · next hk =>
    rw [List.nodup_append]
    refine ⟨h, by simp, ?_⟩
    intro a ha b hb
    simp only [List.mem_cons, List.not_mem_nil, or_false] at hb
    subst hb
    exact fun he => hk (he ▸ ha)

theorem lookup_cons_eq (a : κ) (b : α) (es : List (κ × α)) (k : κ) :
    ((a, b) :: es).lookup k = if k = a then some b else es.lookup k := by
  rw [List.lookup_cons]
  by_cases h : k = a
  · simp [h]
  · have : (k == a) = false := by simpa using h
    simp [h, this]

theorem lookup_putEntry (k : κ) (v : α) (es : List (κ × α)) (k' : κ) :
    (putEntry k v es).lookup k' = if k' = k then some v else es.lookup k' := by
  induction es with
  | nil => simp [putEntry, lookup_cons_eq]
  | cons e es ih =>
    obtain ⟨a, b⟩ := e
    by_cases he : a = k
    · by_cases h : k' = k
      · simp [putEntry, he, h]
      · simp [putEntry, he, h, lookup_cons_eq]
    · by_cases h : k' = a
      · have hk : ¬ k' = k := fun hh => he (h.symm.trans hh)
        simp [putEntry, he, h]
      · simp [putEntry, he, lookup_cons_eq, h, ih]

end

namespace Table

section
variable {κ α : Type}

@[ext] theorem ext {t u : Table κ α} (h : t.entries = u.entries) : t = u := by
  cases t; cases u; cases h; rfl

def empty : Table κ α := ⟨[], by simp⟩

instance : Inhabited (Table κ α) := ⟨empty⟩

def keys (t : Table κ α) : List κ := t.entries.map Prod.fst

def size (t : Table κ α) : Nat := t.entries.length

def filter (t : Table κ α) (p : κ → Bool) : Table κ α :=
  ⟨t.entries.filter fun e => p e.1,
    t.nodup_keys.sublist (List.filter_sublist.map Prod.fst)⟩

def head (t : Table κ α) : Table κ α :=
  ⟨t.entries.take 1, t.nodup_keys.sublist ((List.take_sublist 1 t.entries).map Prod.fst)⟩

def mapValues {β : Type} (t : Table κ α) (f : α → β) : Table κ β :=
  ⟨t.entries.map fun e => (e.1, f e.2), by simpa [Function.comp_def] using t.nodup_keys⟩

@[simp] theorem entries_empty : (empty : Table κ α).entries = [] := rfl

@[simp] theorem entries_filter (t : Table κ α) (p : κ → Bool) :
    (t.filter p).entries = t.entries.filter fun e => p e.1 := rfl

@[simp] theorem entries_head (t : Table κ α) : t.head.entries = t.entries.take 1 := rfl

@[simp] theorem entries_mapValues {β : Type} (t : Table κ α) (f : α → β) :
    (t.mapValues f).entries = t.entries.map fun e => (e.1, f e.2) := rfl

end

section
variable {κ α : Type} [DecidableEq κ]

def put (t : Table κ α) (k : κ) (v : α) : Table κ α :=
  ⟨putEntry k v t.entries, nodup_putEntry k v t.nodup_keys⟩

/-- The pairs written one after the other. -/
def ofList (es : List (κ × α)) : Table κ α := es.foldl (fun t e => t.put e.1 e.2) empty

def find? (t : Table κ α) (k : κ) : Option α := t.entries.lookup k

@[simp] theorem entries_put (t : Table κ α) (k : κ) (v : α) :
    (t.put k v).entries = putEntry k v t.entries := rfl

theorem keys_put (t : Table κ α) (k : κ) (v : α) :
    (t.put k v).keys = if k ∈ t.keys then t.keys else t.keys ++ [k] := keys_putEntry k v t.entries

theorem find?_put (t : Table κ α) (k : κ) (v : α) (k' : κ) :
    (t.put k v).find? k' = if k' = k then some v else t.find? k' :=
  lookup_putEntry k v t.entries k'

theorem isSome_find?_iff {t : Table κ α} {k : κ} : (t.find? k).isSome ↔ k ∈ t.keys := by
  simp [find?, keys]

theorem find?_of_mem {t : Table κ α} {e : κ × α} (h : e ∈ t.entries) : t.find? e.1 = some e.2 := by
  obtain ⟨es, distinct⟩ := t
  change es.lookup e.1 = some e.2
  change e ∈ es at h
  induction es with
  | nil => cases h
  | cons a es ih =>
    rw [List.map_cons, List.nodup_cons] at distinct
    rw [lookup_cons_eq]
    rcases List.mem_cons.mp h with rfl | h
    · exact if_pos rfl
    · have other : ¬ e.1 = a.1 := fun same => distinct.1 (same ▸ List.mem_map_of_mem h)
      rw [if_neg other]
      exact ih distinct.2 h

theorem find?_filter (t : Table κ α) (p : κ → Bool) (k : κ) :
    (t.filter p).find? k = if p k then t.find? k else none := by
  simp only [find?, entries_filter]
  induction t.entries with
  | nil => simp
  | cons e es ih =>
    obtain ⟨a, b⟩ := e
    rw [List.filter_cons, lookup_cons_eq]
    by_cases same : k = a
    · subst same
      by_cases kept : p k
      · simp [kept]
      · simp [kept, ih]
    · by_cases kept : p a <;> simp [kept, same, lookup_cons_eq, ih]

/-- Of all keys but one nothing is left but its entry. -/
theorem entries_filter_key {t : Table κ α} {e : κ × α} (h : e ∈ t.entries) :
    (t.filter fun k => k = e.1).entries = [e] := by
  obtain ⟨es, distinct⟩ := t
  change e ∈ es at h
  change (es.filter fun e' => e'.1 = e.1) = [e]
  induction es with
  | nil => cases h
  | cons a es ih =>
    rw [List.map_cons, List.nodup_cons] at distinct
    rw [List.filter_cons]
    rcases List.mem_cons.mp h with rfl | h
    · have none : (es.filter fun e' => e'.1 = e.1) = [] := by
        rw [List.filter_eq_nil_iff]
        intro e' he' same
        exact distinct.1 (of_decide_eq_true same ▸ List.mem_map_of_mem he')
      rw [if_pos (by simp), none]
    · have other : ¬ a.1 = e.1 := fun same => distinct.1 (same ▸ List.mem_map_of_mem h)
      rw [if_neg (by simp [other])]
      exact ih distinct.2 h

/-- A table is what its keys and its values at them say. -/
theorem entries_eq_map_keys {t : Table κ α} {f : κ → α} (h : ∀ k ∈ t.keys, t.find? k = some (f k)) :
    t.entries = t.keys.map fun k => (k, f k) := by
  have same : ∀ e ∈ t.entries, id e = ((fun k => (k, f k)) ∘ Prod.fst) e := by
    intro e he
    have value := h e.1 (List.mem_map_of_mem he)
    rw [find?_of_mem he] at value
    exact Prod.ext rfl (Option.some.inj value)
  rw [keys, List.map_map, ← List.map_congr_left same, List.map_id]

end

end Table

end LoadClients
