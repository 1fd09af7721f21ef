import LoadClients.Proofs.Text.Lines

/-!
The mark that ends a comment. It has two characters, and a text that begins and ends with neither of
them keeps what is in front of it apart from what is behind it: a mark in the whole lies in one of
the pieces. Line ends keep pieces apart too.
-/

namespace LoadClients.Text

/-- The text has the end mark of a comment somewhere. -/
def Closes (cs : List Char) : Prop := ['*', '/'] <:+: cs

instance (cs : List Char) : Decidable (Closes cs) :=
  inferInstanceAs (Decidable (['*', '/'] <:+: cs))

theorem not_closes_nil : ¬ Closes [] := by decide

theorem closes_cons_iff {c : Char} {cs : List Char} :
    Closes (c :: cs) ↔ (c = '*' ∧ cs.head? = some '/') ∨ Closes cs := by
  have front : ['*', '/'] <+: c :: cs ↔ c = '*' ∧ cs.head? = some '/' := by
    cases cs <;> simp [List.cons_prefix_cons, eq_comm]
  rw [Closes, List.infix_cons_iff, front, Closes]

/-- A character that is no part of the mark. -/
def isInert (c : Char) : Bool := c ≠ '*' && c ≠ '/'

theorem closes_append_cons_iff {c : Char} (h : isInert c) {a b : List Char} :
    Closes (a ++ c :: b) ↔ Closes a ∨ Closes b := by
  simp only [isInert, Bool.and_eq_true, decide_eq_true_eq] at h
  induction a with
  | nil => simp [closes_cons_iff, h.1, not_closes_nil]
  | cons d a ih =>
    have head : (a ++ c :: b).head? = some '/' ↔ a.head? = some '/' := by
      cases a <;> simp [h.2]
    rw [List.cons_append, closes_cons_iff, closes_cons_iff, ih, head, or_assoc]

/-- The text has no mark and takes part in none, whatever stands around it. -/
def Divides (s : List Char) : Prop :=
  s.head?.any isInert ∧ s.getLast?.any isInert ∧ ¬ Closes s

instance (s : List Char) : Decidable (Divides s) :=
  inferInstanceAs (Decidable (_ ∧ _ ∧ _))

theorem closes_append_of_divides {s : List Char} (h : Divides s) {a b : List Char} :
    Closes (a ++ (s ++ b)) ↔ Closes a ∨ Closes b := by
  obtain ⟨first, last, clean⟩ := h
  obtain ⟨c, head, inert⟩ := (Option.any_eq_true _ _).mp first
  obtain ⟨s, rfl⟩ := List.head?_eq_some_iff.mp head
  rw [List.cons_append, closes_append_cons_iff inert]
  refine or_congr_right ?_
  rcases List.eq_nil_or_concat' s with rfl | ⟨s, d, rfl⟩
  · rfl
  · rw [← List.cons_append, List.getLast?_concat] at last
    have inner : ¬ Closes s := fun mark => clean (closes_cons_iff.mpr (Or.inr
      ((closes_append_cons_iff last).mpr (Or.inl mark))))
    rw [List.append_assoc, List.singleton_append, closes_append_cons_iff last,
      or_iff_right inner]

/-- A mark does not reach over the end of a line. -/
theorem closes_iff_exists_line {cs : List Char} : Closes cs ↔ ∃ l ∈ splitLines cs, Closes l := by
  have lineEnd {c : Char} (h : c = '\r' ∨ c = '\n') {cs : List Char} :
      Closes (c :: cs) ↔ Closes cs := by
    have other : c ≠ '*' := by rcases h with rfl | rfl <;> decide
    rw [closes_cons_iff, or_iff_right fun mark => other mark.1]
  have first (ls : List (List Char)) : (∃ l ∈ [] :: ls, Closes l) ↔ ∃ l ∈ ls, Closes l := by
    simp [not_closes_nil]
  fun_induction splitLines cs with
  | case1 => simp
  | case2 cs ih => exact (lineEnd (Or.inl rfl)).trans ((lineEnd (Or.inr rfl)).trans
      (ih.trans (first _).symm))
  | case3 c cs _ kind ih => exact (lineEnd kind).trans (ih.trans (first _).symm)
  | case4 c cs _ kind ih =>
    obtain ⟨l, ls, lines⟩ := List.exists_cons_of_ne_nil (splitLines_ne_nil cs)
    have slash : cs.head? = some '/' ↔ l.head? = some '/' := head?_of_splitLines lines rfl
    have below : Closes cs ↔ Closes l ∨ ∃ m ∈ ls, Closes m := by
      refine ih.trans ?_
      rw [lines]
      simp
    rw [lines, prependToHead, closes_cons_iff, slash, below, ← or_assoc, ← closes_cons_iff]
    simp

theorem closes_intercalate {separator : List Char} (h : Divides separator)
    {ls : List (List Char)} : Closes (separator.intercalate ls) ↔ ∃ l ∈ ls, Closes l := by
  induction ls with
  | nil => simp [List.intercalate, not_closes_nil]
  | cons l ls ih =>
    cases ls with
    | nil => simp
    | cons m ls =>
      rw [List.intercalate_cons_cons, List.append_assoc, closes_append_of_divides h, ih]
      simp

/-- A mark at the end is the only one if there is none in front of it. -/
theorem forall_mark_at_end_iff {c : Char} (h : isInert c) {cs : List Char} :
    (∀ a b, cs ++ c :: ['*', '/'] = a ++ (['*', '/'] ++ b) → b = []) ↔ ¬ Closes cs := by
  constructor
  · rintro only ⟨a, b, rfl⟩
    have none := only a (b ++ c :: ['*', '/']) (by simp)
    exact absurd none (by simp)
  · intro clean a b same
    rcases List.eq_nil_or_concat' b with rfl | ⟨b, d, rfl⟩
    · rfl
    · have shorter : cs ++ c :: ['*'] = a ++ (['*', '/'] ++ b) := by
        have split : (cs ++ c :: ['*']) ++ ['/'] = (a ++ (['*', '/'] ++ b)) ++ [d] := by
          simpa using same
        exact (List.append_inj' split rfl).1
      have mark : Closes (cs ++ c :: ['*']) := ⟨a, b, by simp [shorter]⟩
      rcases (closes_append_cons_iff h).mp mark with inside | last
      · exact absurd inside clean
      · exact absurd last (by decide)

end LoadClients.Text
