import LoadClients.Text.Lines
import Mathlib.Data.List.Infix

/-!
Lines of a text that is put together from pieces. The first line of a piece goes on in the line that
the piece before it ended with, and no line is lost: where all lines of the pieces but their first
ones begin alike, so do those of the whole.
-/

namespace LoadClients.Text

/-- A character that ends a line. -/
def isBreak (c : Char) : Bool := c = '\r' ∨ c = '\n'

/-- The text is one line. -/
def Unbroken (cs : List Char) : Prop := ∀ c ∈ cs, isBreak c = false

instance (cs : List Char) : Decidable (Unbroken cs) :=
  List.decidableBAll (fun c => isBreak c = false) cs

theorem unbroken_nil : Unbroken [] := List.forall_mem_nil _

theorem splitLines_cons_of_not_isBreak {c : Char} (h : isBreak c = false) (cs : List Char) :
    splitLines (c :: cs) = prependToHead c (splitLines cs) := by
  have plain : ¬ (c = '\r' ∨ c = '\n') := of_decide_eq_false h
  rw [splitLines, if_neg plain]
  rintro cs' rfl
  exact absurd (Or.inl rfl) plain

/-- A carriage return with a line feed behind it ends one line. -/
theorem splitLines_cons_of_isBreak {c : Char} (h : isBreak c) {cs : List Char}
    (alone : c = '\r' → cs.head? ≠ some '\n') : splitLines (c :: cs) = [] :: splitLines cs := by
  rw [splitLines, if_pos (of_decide_eq_true h)]
  rintro cs' rfl rfl
  exact alone rfl rfl

/-- What stands in front of a break is the line that it ends. -/
theorem splitLines_unbroken_append_of_first {l : List Char} (h : Unbroken l) {cs : List Char}
    {ls : List (List Char)} (first : splitLines cs = [] :: ls) :
    splitLines (l ++ cs) = l :: ls := by
  induction l with
  | nil => exact first
  | cons c l ih =>
    obtain ⟨plain, rest⟩ := List.forall_mem_cons.mp h
    rw [List.cons_append, splitLines_cons_of_not_isBreak plain, ih rest, prependToHead]

theorem splitLines_unbroken_append {l : List Char} (h : Unbroken l) (cs : List Char) :
    splitLines (l ++ '\n' :: cs) = l :: splitLines cs :=
  splitLines_unbroken_append_of_first h
    (splitLines_cons_of_isBreak rfl fun feed => absurd feed (by decide))

theorem splitLines_unbroken {l : List Char} (h : Unbroken l) : splitLines l = [l] := by
  induction l with
  | nil => rfl
  | cons c l ih =>
    obtain ⟨plain, rest⟩ := List.forall_mem_cons.mp h
    rw [splitLines_cons_of_not_isBreak plain, ih rest, prependToHead]

theorem unbroken_of_mem_splitLines {cs l : List Char} (h : l ∈ splitLines cs) : Unbroken l := by
  fun_induction splitLines cs generalizing l with
  | case1 =>
    rw [List.mem_singleton.mp h]
    exact unbroken_nil
  | case2 cs ih =>
    rcases List.mem_cons.mp h with rfl | later
    · exact unbroken_nil
    · exact ih later
  | case3 c cs _ _ ih =>
    rcases List.mem_cons.mp h with rfl | later
    · exact unbroken_nil
    · exact ih later
  | case4 c cs _ plain ih =>
    cases lines : splitLines cs with
    | nil => exact absurd lines (splitLines_ne_nil cs)
    | cons first rest =>
      rw [lines, prependToHead] at h
      rw [lines] at ih
      rcases List.mem_cons.mp h with rfl | later
      · exact List.forall_mem_cons.mpr ⟨decide_eq_false plain, ih List.mem_cons_self⟩
      · exact ih (List.mem_cons_of_mem _ later)

theorem tail_prependToHead (c : Char) (ls : List (List Char)) :
    (prependToHead c ls).tail = ls.tail := by
  cases ls <;> rfl

/-- All lines but the first begin with `front`. -/
def Hanging (front cs : List Char) : Prop := ∀ l ∈ (splitLines cs).tail, front <+: l

instance (front cs : List Char) : Decidable (Hanging front cs) :=
  inferInstanceAs (Decidable (∀ l ∈ (splitLines cs).tail, front <+: l))

theorem Unbroken.hanging {cs : List Char} (h : Unbroken cs) (front : List Char) :
    Hanging front cs := by
  unfold Hanging
  rw [splitLines_unbroken h]
  exact fun _ hl => nomatch hl

theorem exists_splitLines_cons_of_isBreak {c : Char} (h : isBreak c) (cs : List Char) :
    ∃ ls, splitLines (c :: cs) = [] :: ls := by
  unfold splitLines
  split
  · cases ‹_ :: _ = []›
  · exact ⟨_, rfl⟩
  · next same =>
    cases same
    rw [if_pos (of_decide_eq_true h)]
    exact ⟨_, rfl⟩

/-- A text begins with the characters of its first line. -/
theorem head?_of_splitLines {cs l : List Char} {ls : List (List Char)} (h : splitLines cs = l :: ls)
    {c : Char} (plain : isBreak c = false) : cs.head? = some c ↔ l.head? = some c := by
  cases cs with
  | nil =>
    cases h
    rfl
  | cons d cs =>
    cases kind : isBreak d with
    | true =>
      obtain ⟨_, first⟩ := exists_splitLines_cons_of_isBreak kind cs
      rw [h] at first
      cases first
      have other : d ≠ c := by
        rintro rfl
        rw [plain] at kind
        cases kind
      simp [other]
    | false =>
      obtain ⟨m, ms, below⟩ := List.exists_cons_of_ne_nil (splitLines_ne_nil cs)
      rw [splitLines_cons_of_not_isBreak kind, below, prependToHead] at h
      cases h
      rfl

/-- The first line goes on where more text follows. -/
theorem exists_splitLines_append (a b : List Char) :
    ∃ l ls m ms, splitLines a = l :: ls ∧ splitLines (a ++ b) = m :: ms ∧ l <+: m := by
  induction a with
  | nil =>
    obtain ⟨m, ms, whole⟩ := List.exists_cons_of_ne_nil (splitLines_ne_nil b)
    exact ⟨[], [], m, ms, rfl, whole, List.nil_prefix⟩
  | cons c a ih =>
    cases kind : isBreak c with
    | true =>
      obtain ⟨ls, first⟩ := exists_splitLines_cons_of_isBreak kind a
      obtain ⟨ms, whole⟩ := exists_splitLines_cons_of_isBreak kind (a ++ b)
      exact ⟨[], ls, [], ms, first, whole, List.nil_prefix⟩
    | false =>
      obtain ⟨l, ls, m, ms, first, whole, goes_on⟩ := ih
      refine ⟨c :: l, ls, c :: m, ms, ?_, ?_, (List.prefix_cons_inj c).mpr goes_on⟩
      · rw [splitLines_cons_of_not_isBreak kind, first, prependToHead]
      · rw [List.cons_append, splitLines_cons_of_not_isBreak kind, whole, prependToHead]

/-- Where all lines of a text begin alike, its first one still does when more text follows. -/
theorem forall_splitLines_append {front a b : List Char} (all : ∀ l ∈ splitLines a, front <+: l)
    (hanging : Hanging front (a ++ b)) : ∀ l ∈ splitLines (a ++ b), front <+: l := by
  obtain ⟨l, ls, m, ms, first, whole, goes_on⟩ := exists_splitLines_append a b
  rw [first] at all
  rw [Hanging, whole] at hanging
  rw [whole]
  exact List.forall_mem_cons.mpr ⟨(all l List.mem_cons_self).trans goes_on, hanging⟩

theorem Hanging.append {front a b : List Char} (ha : Hanging front a) (nonempty : front ≠ [])
    (hb : Hanging front b) : Hanging front (a ++ b) := by
  unfold Hanging at ha
  fun_induction splitLines a with
  | case1 => exact hb
  | case2 a ih =>
    have all : ∀ l ∈ splitLines a, front <+: l := ha
    exact forall_splitLines_append all (ih fun l hl => all l (List.mem_of_mem_tail hl))
  | case3 c a pair kind ih =>
    have all : ∀ l ∈ splitLines a, front <+: l := ha
    have tail := ih fun l hl => all l (List.mem_of_mem_tail hl)
    have alone : c = '\r' → (a ++ b).head? ≠ some '\n' := by
      cases a with
      | nil => exact absurd (List.prefix_nil.mp (all [] List.mem_cons_self)) nonempty
      | cons d a =>
        rintro rfl feed
        cases feed
        exact pair a rfl rfl
    rw [Hanging, List.cons_append, splitLines_cons_of_isBreak (decide_eq_true kind) alone]
    exact forall_splitLines_append all tail
  | case4 c a pair kind ih =>
    rw [tail_prependToHead] at ha
    rw [Hanging, List.cons_append, splitLines_cons_of_not_isBreak (decide_eq_false kind),
      tail_prependToHead]
    exact ih ha

theorem Hanging.intercalate {front separator : List Char} (nonempty : front ≠ [])
    (between : Hanging front separator) {ls : List (List Char)} (h : ∀ l ∈ ls, Hanging front l) :
    Hanging front (separator.intercalate ls) := by
  induction ls with
  | nil => exact fun _ hl => nomatch hl
  | cons l ls ih =>
    obtain ⟨head, tail⟩ := List.forall_mem_cons.mp h
    cases ls with
    | nil =>
      rw [List.intercalate_singleton]
      exact head
    | cons m ls =>
      rw [List.intercalate_cons_cons]
      exact (head.append nonempty between).append nonempty (ih tail)

end LoadClients.Text
