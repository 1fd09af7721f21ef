import LoadClients.Proofs.Results
import LoadClients.Source.Field

/-!
What readings that succeed have read. The items of a list, the values of a table and the content of
an optional part were each read from a node, and a record has whatever its blank draft has and every
field that is put into it keeps.
-/

namespace LoadClients

theorem Reading.below_eq_ok_iff {α : Type} {s : Step} {x : Reading α} {a : α} :
    x.below s = .ok a ↔ x = .ok a := by
  cases x <;> simp [below]

theorem mem_putEntry {κ α : Type} [DecidableEq κ] {k : κ} {v : α} {es : List (κ × α)} {e : κ × α}
    (h : e ∈ putEntry k v es) : e = (k, v) ∨ e ∈ es := by
  induction es with
  | nil => exact Or.inl (List.mem_singleton.mp h)
  | cons e' es ih =>
    rw [putEntry] at h
    split at h
    · rcases List.mem_cons.mp h with rfl | later
      · exact Or.inl rfl
      · exact Or.inr (List.mem_cons_of_mem _ later)
    · rcases List.mem_cons.mp h with rfl | later
      · exact Or.inr List.mem_cons_self
      · exact (ih later).imp_right (List.mem_cons_of_mem _)

namespace Source

theorem closing_eq_ok {α : Type} {closed : Bool} {a b : α} (h : closing closed a = .ok b) :
    a = b := by
  unfold closing at h
  split at h
  · exact Except.ok.inj h
  · cases h

section
variable {α : Type} {src : Source} {read : Node → Reading α}

theorem eq_some_of_readOptional {n : Node} {a : Option α} (h : src.readOptional read n = .ok a)
    {b : α} (given : a = some b) : read n = .ok b := by
  have whole (h : some <$> read n = .ok a) : read n = .ok b := by
    obtain ⟨b', value, same⟩ := map_eq_ok_iff.mp h
    rw [given, Option.some.injEq] at same
    rw [value, same]
  unfold readOptional at h
  split at h
  · split at h
    · exact whole h
    · unfold mismatch at h
      split at h <;> cases h
    · rw [given] at h
      cases h
  · exact whole h

theorem exists_of_mem_readItems {i : Nat} {ns : List Node} {as : List α}
    (h : readItems read i ns = .ok as) {a : α} (mem : a ∈ as) : ∃ n, read n = .ok a := by
  induction ns generalizing i as with
  | nil =>
    cases h
    cases mem
  | cons n ns ih =>
    obtain ⟨a', head, h⟩ := bind_eq_ok_iff.mp h
    obtain ⟨as', tail, h⟩ := bind_eq_ok_iff.mp h
    cases h
    rcases List.mem_cons.mp mem with rfl | later
    · exact ⟨n, Reading.below_eq_ok_iff.mp head⟩
    · exact ih tail later

theorem exists_of_mem_readList {depth : Nat} {n : Node} {as : List α}
    (h : src.readList depth read n = .ok as) {a : α} (mem : a ∈ as) : ∃ m, read m = .ok a := by
  obtain ⟨_, _, h⟩ := bind_eq_ok_iff.mp h
  obtain ⟨as', items, h⟩ := bind_eq_ok_iff.mp h
  exact exists_of_mem_readItems items (closing_eq_ok h ▸ mem)

theorem exists_of_mem_readEntries {t t' : Table String α} {es : List (Node × Node)}
    (h : src.readEntries read t es = .ok t') {e : String × α} (mem : e ∈ t'.entries) :
    e ∈ t.entries ∨ ∃ n, read n = .ok e.2 := by
  induction es generalizing t with
  | nil =>
    cases h
    exact Or.inl mem
  | cons kv es ih =>
    obtain ⟨key, _, h⟩ := bind_eq_ok_iff.mp h
    obtain ⟨a, value, h⟩ := bind_eq_ok_iff.mp h
    rcases ih h with written | later
    · rcases mem_putEntry written with rfl | before
      · exact Or.inr ⟨kv.2, Reading.below_eq_ok_iff.mp value⟩
      · exact Or.inl before
    · exact Or.inr later

theorem exists_of_mem_readTable {depth : Nat} {n : Node} {t : Table String α}
    (h : src.readTable depth read n = .ok t) {e : String × α} (mem : e ∈ t.entries) :
    ∃ m, read m = .ok e.2 := by
  obtain ⟨_, _, h⟩ := bind_eq_ok_iff.mp h
  obtain ⟨t', entries, h⟩ := bind_eq_ok_iff.mp h
  rw [← closing_eq_ok h] at mem
  exact (exists_of_mem_readEntries entries mem).resolve_left List.not_mem_nil

end

section
variable {σ : Type} {src : Source} {shape : Shape} {put : σ → String → Node → Reading σ}
  {P : σ → Prop}
  (keeps : ∀ draft field n draft', P draft → put draft field n = .ok draft' → P draft')
include keeps

theorem readFields_invariant {draft result : σ} {seen : List String} {es : List (Node × Node)}
    (h : src.readFields shape put draft seen es = .ok result) (start : P draft) : P result := by
  induction es generalizing draft seen with
  | nil =>
    rw [readFields] at h
    split at h
    · cases h
    · cases h
      exact start
  | cons e es ih =>
    obtain ⟨field, _, h⟩ := bind_eq_ok_iff.mp h
    split at h
    · split at h
      · cases h
      · obtain ⟨draft', written, h⟩ := bind_eq_ok_iff.mp h
        exact ih h (keeps _ _ _ _ start (Reading.below_eq_ok_iff.mp written))
    · obtain ⟨_, _, h⟩ := bind_eq_ok_iff.mp h
      exact ih h start

theorem readPlaces_invariant {draft result : σ} {closed : Bool} {i : Nat}
    {fields : List (String × Bool)} {ns : List Node}
    (h : readPlaces shape put closed draft i fields ns = .ok result) (start : P draft) :
    P result := by
  induction fields generalizing draft i ns with
  | nil =>
    cases ns with
    | nil => exact closing_eq_ok h ▸ start
    | cons => cases h
  | cons f fields ih =>
    cases ns with
    | nil =>
      rw [readPlaces] at h
      split at h
      · cases h
      · split at h
        · cases h
        · exact ih h start
    | cons n ns =>
      obtain ⟨draft', written, h⟩ := bind_eq_ok_iff.mp h
      exact ih h (keeps _ _ _ _ start (Reading.below_eq_ok_iff.mp written))

/-- What the draft of a record has and every field keeps, the record has. -/
theorem readRecord_invariant {draft result : σ} {depth : Nat} {n : Node}
    (h : src.readRecord depth shape put draft n = .ok result) (start : P draft) : P result := by
  unfold readRecord at h
  split at h
  · split at h
    · unfold tooDeep at h
      split at h <;> cases h
    · exact readPlaces_invariant keeps h start
  · obtain ⟨⟨es, closed⟩, _, h⟩ := bind_eq_ok_iff.mp h
    dsimp only at h
    split at h
    · exact readFields_invariant keeps h start
    · obtain ⟨_, _, h⟩ := bind_eq_ok_iff.mp h
      cases h

end

end Source

end LoadClients
