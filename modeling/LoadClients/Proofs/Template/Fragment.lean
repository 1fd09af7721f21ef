import LoadClients.Template
import Mathlib.Data.List.TakeWhile

/-!
Reading one fragment of a path template. A fragment in canonical form is read back from in front of
any text that cannot make it longer, and nothing else is ever read.
-/

namespace LoadClients

/-- Text that is literal, or a name that fits between braces. -/
def Fragment.Canonical : Fragment → Prop
  | literal t => t ≠ "" ∧ ∀ c ∈ t.toList, c ≠ '/' ∧ c ≠ '\x7b' ∧ c ≠ '\x7d'
  | param n => n ≠ "" ∧ ∀ c ∈ n.toList, c ≠ '\x7b' ∧ c ≠ '\x7d'

def Fragment.isLiteral : Fragment → Bool
  | literal _ => true
  | param _ => false

/-- The fragment does not go on in what follows it. -/
def Fragment.EndsBefore (f : Fragment) (rest : List Char) : Prop :=
  f.isLiteral → ∀ c ∈ rest.head?, Template.endsLiteral c

theorem span_eq_iff {α : Type} {p : α → Bool} {l run rest : List α} :
    l.takeWhile p = run ∧ l.dropWhile p = rest ↔
      l = run ++ rest ∧ (∀ a ∈ run, p a) ∧ ∀ a ∈ rest.head?, p a = false := by
  constructor
  · rintro ⟨rfl, rfl⟩
    refine ⟨List.takeWhile_append_dropWhile.symm, fun a ha => List.mem_takeWhile_imp ha, ?_⟩
    intro a ha
    have first := List.head?_dropWhile_not p l
    rw [Option.mem_def.mp ha] at first
    exact first
  · rintro ⟨rfl, hrun, hrest⟩
    rw [List.takeWhile_append_of_pos hrun, List.dropWhile_append_of_pos hrun]
    cases rest with
    | nil => simp
    | cons a rest => simp [hrest a rfl]

namespace Template

theorem isBrace_eq_false_iff {c : Char} : isBrace c = false ↔ c ≠ '\x7b' ∧ c ≠ '\x7d' := by
  simp [isBrace]

theorem endsLiteral_eq_false_iff {c : Char} :
    endsLiteral c = false ↔ c ≠ '/' ∧ c ≠ '\x7b' ∧ c ≠ '\x7d' := by
  simp [endsLiteral, isBrace]

theorem toList_text_literal (t : String) : (Fragment.literal t).text.toList = t.toList := rfl

theorem toList_text_param (n : String) :
    (Fragment.param n).text.toList = '\x7b' :: (n.toList ++ ['\x7d']) := by
  simp [Fragment.text]

theorem takeFragment_param {n : String} (h : (Fragment.param n).Canonical) (rest : List Char) :
    takeFragment ((Fragment.param n).text.toList ++ rest) = some (.param n, rest) := by
  obtain ⟨nonempty, plain⟩ := h
  have name : ∀ c ∈ n.toList, (!isBrace c) = true := by
    intro c hc
    rw [isBrace_eq_false_iff.mpr (plain c hc)]
    rfl
  have stop : ∀ c ∈ ('\x7d' :: rest).head?, (!isBrace c) = false := by
    intro c hc
    cases hc
    rfl
  obtain ⟨taken, dropped⟩ := span_eq_iff.mpr ⟨rfl, name, stop⟩
  rw [toList_text_param, List.cons_append, List.append_assoc, List.singleton_append]
  simp only [takeFragment, if_true, taken, dropped]
  cases hn : n.toList with
  | nil => exact absurd (String.toList_eq_nil_iff.mp hn) nonempty
  | cons c cs =>
    simp only [if_true]
    rw [← hn, String.ofList_toList]

theorem takeFragment_literal {t : String} (h : (Fragment.literal t).Canonical) {rest : List Char}
    (stop : ∀ c ∈ rest.head?, endsLiteral c) :
    takeFragment ((Fragment.literal t).text.toList ++ rest) = some (.literal t, rest) := by
  obtain ⟨nonempty, plain⟩ := h
  rw [toList_text_literal]
  cases ht : t.toList with
  | nil => exact absurd (String.toList_eq_nil_iff.mp ht) nonempty
  | cons c cs =>
    rw [ht] at plain
    have first := plain c (by simp)
    have literal : ∀ d ∈ cs, (!endsLiteral d) = true := by
      intro d hd
      rw [endsLiteral_eq_false_iff.mpr (plain d (by simp [hd]))]
      rfl
    have stop' : ∀ d ∈ rest.head?, (!endsLiteral d) = false := by
      intro d hd
      rw [stop d hd]
      rfl
    obtain ⟨taken, dropped⟩ := span_eq_iff.mpr ⟨rfl, literal, stop'⟩
    rw [List.cons_append, takeFragment, if_neg first.2.1, endsLiteral_eq_false_iff.mpr first, taken,
      dropped, ← ht, String.ofList_toList]
    rfl

/-- What is read is a canonical fragment, to its end. -/
theorem takeFragment_eq_some_iff {cs rest : List Char} {f : Fragment} :
    takeFragment cs = some (f, rest) ↔
      f.Canonical ∧ cs = f.text.toList ++ rest ∧ f.EndsBefore rest := by
  constructor
  · intro h
    cases cs with
    | nil => cases h
    | cons c cs =>
      simp only [takeFragment] at h
      split at h
      · next brace =>
        split at h
        · next n ns d after taken dropped =>
          obtain ⟨split, name, _⟩ := span_eq_iff.mp ⟨taken, dropped⟩
          split at h
          · next close =>
            cases h
            subst brace close
            refine ⟨⟨by simp [← String.toList_eq_nil_iff], ?_⟩, ?_, fun bad => by cases bad⟩
            · intro c hc
              rw [String.toList_ofList] at hc
              exact isBrace_eq_false_iff.mp (by simpa using name c hc)
            · rw [toList_text_param, String.toList_ofList, split]
              simp
          · cases h
        · cases h
      · split at h
        · cases h
        · next first =>
          cases h
          obtain ⟨split, literal, stop⟩ :=
            (span_eq_iff (p := fun d => !endsLiteral d) (l := cs)).mp ⟨rfl, rfl⟩
          refine ⟨⟨by simp [← String.toList_eq_nil_iff], ?_⟩, ?_, ?_⟩
          · intro d hd
            rw [String.toList_ofList] at hd
            rcases List.mem_cons.mp hd with rfl | later
            · exact endsLiteral_eq_false_iff.mp (by simpa using first)
            · exact endsLiteral_eq_false_iff.mp (by simpa using literal d later)
          · rw [toList_text_literal, String.toList_ofList, List.cons_append, ← split]
          · intro _ d hd
            simpa using stop d hd
  · rintro ⟨canonical, rfl, ends⟩
    cases f with
    | literal t => exact takeFragment_literal canonical (ends rfl)
    | param n => exact takeFragment_param canonical rest

/-- Where no fragment can be read, no literal text begins. -/
theorem endsLiteral_of_takeFragment_eq_none {cs : List Char} (h : takeFragment cs = none) :
    ∀ c ∈ cs.head?, endsLiteral c := by
  intro c hc
  cases cs with
  | nil => cases hc
  | cons d cs =>
    cases hc
    simp only [takeFragment] at h
    split at h
    · next brace =>
      subst brace
      rfl
    · split at h
      · next ends => exact ends
      · cases h

end Template

end LoadClients
