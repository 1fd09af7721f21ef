import LoadClients.Naming
import Mathlib.Data.List.Basic

/-!
The forms that a change of case gives a character. A character that has another form is a letter in
a wide sense, and so are the characters of the form: digits, separators and blanks stay as they are,
and never come out of a letter.
-/

namespace LoadClients.Text

/-- A letter in a wide sense: one of the alphabet, or any character beyond it that is no blank. -/
def isLetterlike (c : Char) : Bool := c.isAlpha || (decide (0x80 ≤ c.toNat) && !isBlank c)

theorem isAlpha_iff {c : Char} : c.isAlpha ↔
    0x41 ≤ c.toNat ∧ c.toNat ≤ 0x5a ∨ 0x61 ≤ c.toNat ∧ c.toNat ≤ 0x7a := by
  change (decide (0x41 ≤ c.val ∧ c.val ≤ 0x5a) ||
    decide (0x61 ≤ c.val) && decide (c.val ≤ 0x7a)) = true ↔ _
  simp only [Bool.or_eq_true, Bool.and_eq_true, decide_eq_true_eq, UInt32.le_iff_toNat_le]
  exact Iff.rfl

/-- All code points from `first` to `last` are those of such letters. -/
def lettersBetween (first last : Nat) : Bool :=
  (decide (0x41 ≤ first) && decide (last ≤ 0x5a)) ||
    (decide (0x61 ≤ first) && decide (last ≤ 0x7a)) ||
    ((decide (0x80 ≤ first) && decide (last < 0xd800) ||
        decide (0xe000 ≤ first) && decide (last < 0x110000)) &&
      blanks.all fun r => decide (last < r.1) || decide (r.2 < first))

section
variable {first last : Nat} (h : lettersBetween first last)
include h

theorem isLetterlike_of_lettersBetween {c : Char} (hf : first ≤ c.toNat) (hl : c.toNat ≤ last) :
    isLetterlike c := by
  simp only [lettersBetween, Bool.or_eq_true, Bool.and_eq_true, decide_eq_true_eq] at h
  unfold isLetterlike
  rw [Bool.or_eq_true]
  rcases h with (upper | lower) | ⟨beyond, apart⟩
  · exact Or.inl (isAlpha_iff.mpr (by omega))
  · exact Or.inl (isAlpha_iff.mpr (by omega))
  · right
    have no_blank : isBlank c = false := by
      rw [← Bool.not_eq_true, isBlank, Ranges.has_iff]
      rintro ⟨r, hr, above, below⟩
      have outside := List.all_eq_true.mp apart r hr
      simp only [Bool.or_eq_true, decide_eq_true_eq] at outside
      omega
    rw [no_blank, Bool.not_false, Bool.and_true, decide_eq_true_eq]
    omega

theorem toNat_ofNat_of_lettersBetween {n : Nat} (hf : first ≤ n) (hl : n ≤ last) :
    (Char.ofNat n).toNat = n := by
  have valid : n.isValidChar := by
    simp only [lettersBetween, Bool.or_eq_true, Bool.and_eq_true, decide_eq_true_eq] at h
    unfold Nat.isValidChar
    omega
  unfold Char.ofNat
  rw [dif_pos valid]
  rfl

theorem isLetterlike_ofNat_of_lettersBetween {n : Nat} (hf : first ≤ n) (hl : n ≤ last) :
    isLetterlike (Char.ofNat n) := by
  have value := toNat_ofNat_of_lettersBetween h hf hl
  exact isLetterlike_of_lettersBetween h (by omega) (by omega)

end

/-- The mapping changes letters alone, and into letters. -/
def Mapping.isOfLetters (m : Mapping) : Bool :=
  (m.expansions.all fun e => lettersBetween e.1 e.1 && !e.2.isEmpty &&
    e.2.all fun n => lettersBetween n n) &&
  m.runs.all fun r => lettersBetween r.first r.last && decide (0 ≤ r.first + r.shift) &&
    lettersBetween (r.first + r.shift).toNat (r.last + r.shift).toNat

theorem upperMapping_isOfLetters : upperMapping.isOfLetters := by decide +kernel

theorem lowerMapping_isOfLetters : lowerMapping.isOfLetters := by decide +kernel

theorem Run.image?_eq_some_iff {r : Run} {n image : Nat} : r.image? n = some image ↔
    (r.first ≤ n ∧ n ≤ r.last ∧ (n - r.first) % r.step = 0) ∧ image = (n + r.shift).toNat := by
  unfold image?
  split
  · next inside => simp [inside, eq_comm]
  · next outside => simp [outside]

/-- A character stays as it is, or it has a form of its own, or a run moves it. -/
theorem Mapping.apply_forms (m : Mapping) (c : Char) : m.apply c = [c] ∨
    (∃ ns, (c.toNat, ns) ∈ m.expansions ∧ m.apply c = ns.map Char.ofNat) ∨
      ∃ r ∈ m.runs, ∃ n, r.image? c.toNat = some n ∧ m.apply c = [Char.ofNat n] := by
  unfold apply
  split
  · next ns found =>
    obtain ⟨before, after, entries, _⟩ := List.lookup_eq_some_iff.mp found
    exact Or.inr (Or.inl ⟨ns, by simp [entries], rfl⟩)
  · split
    · next n found =>
      obtain ⟨r, hr, image⟩ := List.exists_of_findSome?_eq_some found
      exact Or.inr (Or.inr ⟨r, hr, n, image, rfl⟩)
    · exact Or.inl rfl

/-- A character stays as it is, or it is a letter and made into letters. -/
theorem Mapping.apply_cases {m : Mapping} (h : m.isOfLetters) (c : Char) :
    m.apply c = [c] ∨
      isLetterlike c ∧ m.apply c ≠ [] ∧ ∀ d ∈ m.apply c, isLetterlike d := by
  simp only [isOfLetters, Bool.and_eq_true, List.all_eq_true, decide_eq_true_eq] at h
  obtain ⟨expansions, runs⟩ := h
  rcases m.apply_forms c with same | ⟨ns, entry, form⟩ | ⟨r, hr, n, image, form⟩
  · exact Or.inl same
  · right
    obtain ⟨⟨letter, nonempty⟩, images⟩ := expansions _ entry
    refine ⟨isLetterlike_of_lettersBetween letter (Nat.le_refl _) (Nat.le_refl _),
      by simpa [form] using nonempty, ?_⟩
    intro d hd
    rw [form] at hd
    obtain ⟨n, hn, rfl⟩ := List.mem_map.mp hd
    exact isLetterlike_ofNat_of_lettersBetween (images n hn) (Nat.le_refl _) (Nat.le_refl _)
  · right
    obtain ⟨⟨letters, positive⟩, images⟩ := runs r hr
    obtain ⟨inside, rfl⟩ := Run.image?_eq_some_iff.mp image
    refine ⟨isLetterlike_of_lettersBetween letters inside.1 inside.2.1, by simp [form], ?_⟩
    intro d hd
    rw [form, List.mem_singleton] at hd
    subst hd
    exact isLetterlike_ofNat_of_lettersBetween images (by omega) (by omega)

/-- A property that a change of case neither gives to a character nor takes from it. -/
structure CaseBlind (P : Char → Prop) : Prop where
  upper : ∀ c, P c ↔ ∀ d ∈ upperMapping.apply c, P d
  lower : ∀ c, P c ↔ ∀ d ∈ lowerMapping.apply c, P d

namespace CaseBlind

/-- It is enough to look at letters. -/
theorem of_letters {P : Char → Prop}
    (h : ∀ m : Mapping, m = upperMapping ∨ m = lowerMapping → ∀ c, isLetterlike c →
      (∀ d ∈ m.apply c, isLetterlike d) → (P c ↔ ∀ d ∈ m.apply c, P d)) : CaseBlind P := by
  constructor
  · intro c
    rcases upperMapping.apply_cases upperMapping_isOfLetters c with same | ⟨letter, _, form⟩
    · simp [same]
    · exact h _ (Or.inl rfl) c letter form
  · intro c
    rcases lowerMapping.apply_cases lowerMapping_isOfLetters c with same | ⟨letter, _, form⟩
    · simp [same]
    · exact h _ (Or.inr rfl) c letter form

/-- What all letters have, change of case keeps. -/
theorem of_forall_letter {P : Char → Prop} (h : ∀ c, isLetterlike c → P c) : CaseBlind P :=
  of_letters fun _ _ c letter form =>
    iff_of_true (h c letter) fun d hd => h d (form d hd)

/-- Properties that no letter has can be added. -/
theorem or_of_no_letter {P Q : Char → Prop} (hP : CaseBlind P)
    (hQ : ∀ c, isLetterlike c → ¬ Q c) : CaseBlind fun c => P c ∨ Q c := by
  refine of_letters ?_
  intro m mapping c letter form
  have alone : ∀ d, isLetterlike d → ((P d ∨ Q d) ↔ P d) := fun d hd => or_iff_left (hQ d hd)
  have image : (∀ d ∈ m.apply c, P d ∨ Q d) ↔ ∀ d ∈ m.apply c, P d :=
    forall₂_congr fun d hd => alone d (form d hd)
  rw [alone c letter, image]
  rcases mapping with rfl | rfl
  · exact hP.upper c
  · exact hP.lower c

end CaseBlind

end LoadClients.Text
