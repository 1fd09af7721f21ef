import Mathlib.Data.List.Basic

/-! Steps that can fail, one after the other and over a list: all of them have to succeed. -/

namespace LoadClients

section
variable {ε α β : Type}

theorem bind_eq_ok_iff {x : Except ε α} {f : α → Except ε β} {b : β} :
    x >>= f = .ok b ↔ ∃ a, x = .ok a ∧ f a = .ok b := by
  cases x with
  | error e => simp [bind, Except.bind]
  | ok a => simp [bind, Except.bind]

theorem map_eq_ok_iff {x : Except ε α} {f : α → β} {b : β} :
    x.map f = .ok b ↔ ∃ a, x = .ok a ∧ f a = b := by
  cases x with
  | error e => simp [Except.map]
  | ok a => simp [Except.map]

theorem mapM_eq_ok_iff {f : α → Except ε β} {l : List α} {bs : List β} :
    l.mapM f = .ok bs ↔ l.map f = bs.map .ok := by
  induction l generalizing bs with
  | nil =>
    rw [List.mapM_nil, List.map_nil]
    constructor
    · intro h
      cases h
      rfl
    · intro h
      rw [List.map_eq_nil_iff.mp h.symm]
      rfl
  | cons a l ih =>
    rw [List.mapM_cons, bind_eq_ok_iff, List.map_cons]
    constructor
    · rintro ⟨b, head, h⟩
      obtain ⟨rest, tail, h⟩ := bind_eq_ok_iff.mp h
      cases h
      rw [head, ih.mp tail, List.map_cons]
    · intro h
      cases bs with
      | nil => cases h
      | cons b bs =>
        obtain ⟨head, tail⟩ := List.cons.inj h
        exact ⟨b, head, bind_eq_ok_iff.mpr ⟨bs, ih.mpr tail, rfl⟩⟩

/-- The error of a step that failed. -/
def failure? : Except ε α → Option ε
  | .error e => some e
  | .ok _ => none

theorem failure?_eq_some_iff {x : Except ε α} {e : ε} : failure? x = some e ↔ x = .error e := by
  cases x <;> simp [failure?]

theorem failure?_eq_none_iff {x : Except ε α} : failure? x = none ↔ ∃ a, x = .ok a := by
  cases x <;> simp [failure?]

instance decidableExistsOk (x : Except ε α) : Decidable (∃ a, x = .ok a) :=
  match x with
  | .ok a => isTrue ⟨a, rfl⟩
  | .error _ => isFalse (by simp)

theorem failure?_map (x : Except ε α) (f : α → β) : failure? (x.map f) = failure? x := by
  cases x <;> rfl

theorem findSome?_flatMap {γ : Type} (f : α → List β) (g : β → Option γ) (l : List α) :
    (l.flatMap f).findSome? g = l.findSome? fun a => (f a).findSome? g := by
  induction l with
  | nil => rfl
  | cons a l ih =>
    rw [List.flatMap_cons, List.findSome?_append, List.findSome?_cons, ih]
    cases (f a).findSome? g <;> rfl

/-- Of the steps over a list the first that fails gives the error. -/
theorem failure?_mapM (f : α → Except ε β) (l : List α) :
    failure? (l.mapM f) = l.findSome? fun a => failure? (f a) := by
  induction l with
  | nil => rfl
  | cons a l ih =>
    rw [List.mapM_cons, List.findSome?_cons, ← ih]
    cases f a with
    | error e => rfl
    | ok b => cases l.mapM f <;> rfl

theorem mapM_map_results {γ : Type} (f : α → Except ε β) (g : β → γ) (l : List α) :
    (l.mapM fun a => (f a).map g) = (l.mapM f).map (List.map g) := by
  induction l with
  | nil => rfl
  | cons a l ih =>
    rw [List.mapM_cons, List.mapM_cons, ih]
    cases f a with
    | error e => rfl
    | ok b => cases l.mapM f <;> rfl

/-- Steps that all succeed are a function on what they are taken for. -/
theorem exists_values [Inhabited β] {f : α → Except ε β} {l : List α} {bs : List β}
    (h : l.map f = bs.map .ok) : ∃ g : α → β, (∀ a ∈ l, f a = .ok (g a)) ∧ bs = l.map g := by
  let g : α → β := fun a => (f a).toOption.getD default
  have value : ∀ a ∈ l, f a = .ok (g a) := by
    intro a ha
    have result := List.mem_map_of_mem ha (f := f)
    rw [h] at result
    obtain ⟨b, _, eq⟩ := List.mem_map.mp result
    simp [g, ← eq, Except.toOption]
  refine ⟨g, value, ?_⟩
  have same : bs.map (Except.ok (ε := ε)) = (l.map g).map .ok := by
    rw [← h, List.map_map]
    exact List.map_congr_left value
  exact List.map_injective_iff.mpr (fun _ _ => Except.ok.inj) same

end

end LoadClients
