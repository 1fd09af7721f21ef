import LoadClients.Proofs.Naming.CaseForms

/-!
Names and the texts that they are made of. A name is its text with some characters in another case,
and without the separators.
-/

namespace LoadClients

namespace Text

/-- What can stand for a character when case is changed. A capital sigma has two small forms. -/
inductive CaseForm : Char → List Char → Prop
  | same (c : Char) : CaseForm c [c]
  | upper (c : Char) : CaseForm c (upperMapping.apply c)
  | lower (c : Char) : CaseForm c (lowerMapping.apply c)
  | finalSigma : CaseForm 'Σ' ['ς']

namespace CaseForm
variable {c : Char} {ds : List Char}

theorem cases_letter (h : CaseForm c ds) :
    ds = [c] ∨ isLetterlike c ∧ ds ≠ [] ∧ ∀ d ∈ ds, isLetterlike d := by
  cases h with
  | same => exact Or.inl rfl
  | upper => exact upperMapping.apply_cases upperMapping_isOfLetters c
  | lower => exact lowerMapping.apply_cases lowerMapping_isOfLetters c
  | finalSigma => exact Or.inr ⟨by decide, by decide, List.forall_mem_singleton.mpr (by decide)⟩

theorem forall_iff {P : Char → Prop} (hP : CaseBlind P) (h : CaseForm c ds) :
    P c ↔ ∀ d ∈ ds, P d := by
  cases h with
  | same => simp
  | upper => exact hP.upper c
  | lower => exact hP.lower c
  | finalSigma =>
    -- both forms of the letter have the one capital
    have capital : upperMapping.apply 'ς' = ['Σ'] := by decide
    have small := hP.upper 'ς'
    rw [capital] at small
    simpa using small.symm

end CaseForm

/-- A text with its characters, each for itself, in some case. -/
inductive Recased : List Char → List Char → Prop
  | nil : Recased [] []
  | cons {c : Char} {ds cs rs : List Char} (head : CaseForm c ds) (tail : Recased cs rs) :
    Recased (c :: cs) (ds ++ rs)

namespace Recased

theorem refl : ∀ cs : List Char, Recased cs cs
  | [] => nil
  | c :: cs => cons (.same c) (refl cs)

theorem append {cs rs cs' rs' : List Char} (h : Recased cs rs) (h' : Recased cs' rs') :
    Recased (cs ++ cs') (rs ++ rs') := by
  induction h with
  | nil => exact h'
  | cons head _ ih =>
    rw [List.append_assoc]
    exact cons head ih

theorem lowerFrom (before cs : List Char) : Recased cs (lowerFrom before cs) := by
  induction cs generalizing before with
  | nil => exact nil
  | cons c cs ih =>
    unfold Text.lowerFrom
    refine cons ?_ (ih (c :: before))
    split
    · next sigma =>
      subst sigma
      split
      · exact .finalSigma
      · have small : lowerMapping.apply 'Σ' = ['σ'] := by decide
        exact small ▸ CaseForm.lower 'Σ'
    · exact .lower c

variable {cs rs : List Char}

theorem forall_iff {P : Char → Prop} (hP : CaseBlind P) (h : Recased cs rs) :
    (∀ c ∈ cs, P c) ↔ ∀ d ∈ rs, P d := by
  induction h with
  | nil => exact Iff.rfl
  | cons head _ ih => rw [List.forall_mem_cons, List.forall_mem_append, ih, head.forall_iff hP]

/-- A property that no letter has is kept by the first character, and given to no other. -/
theorem head_iff {Q : Char → Prop} (hQ : ∀ c, isLetterlike c → ¬ Q c) (h : Recased cs rs) :
    (∃ c, cs.head? = some c ∧ ¬ Q c) ↔ ∃ d, rs.head? = some d ∧ ¬ Q d := by
  cases h with
  | nil => exact Iff.rfl
  | @cons c ds cs rs head tail =>
    rcases head.cases_letter with rfl | ⟨letter, nonempty, letters⟩
    · rfl
    · cases ds with
      | nil => exact absurd rfl nonempty
      | cons d ds =>
        have plain : ¬ Q d := hQ d (letters d List.mem_cons_self)
        exact iff_of_true ⟨c, rfl, hQ c letter⟩ ⟨d, rfl, plain⟩

theorem filter {p : Char → Bool} (hp : ∀ c, isLetterlike c → p c) (h : Recased cs rs) :
    Recased (cs.filter p) (rs.filter p) := by
  induction h with
  | nil => exact nil
  | @cons c ds cs rs head _ ih =>
    rw [List.filter_append, List.filter_cons]
    rcases head.cases_letter with rfl | ⟨letter, _, letters⟩
    · cases kept : p c with
      | true => simpa [kept] using cons (.same c) ih
      | false => simpa [kept] using ih
    · have kept : ds.filter p = ds := List.filter_eq_self.mpr fun d hd => hp d (letters d hd)
      rw [kept, if_pos (hp c letter)]
      exact cons head ih

end Recased

theorem flatten_prependToHead (c : Char) (ls : List (List Char)) :
    (prependToHead c ls).flatten = c :: ls.flatten := by
  cases ls <;> rfl

/-- The parts together are the text without its separators. -/
theorem flatten_splitWhere (p : Char → Bool) (cs : List Char) :
    (splitWhere p cs).flatten = cs.filter (!p ·) := by
  induction cs with
  | nil => rfl
  | cons c cs ih =>
    rw [splitWhere, List.filter_cons]
    split
    · next separator => simpa [separator] using ih
    · next ordinary => simp [ordinary, flatten_prependToHead, ih]

end Text

namespace Naming

open Text

theorem recased_capitalizeHead (cs : List Char) : Recased cs (capitalizeHead cs) := by
  cases cs with
  | nil => exact .nil
  | cons c cs => exact .cons (.upper c) (.refl cs)

theorem recased_lowerHead (cs : List Char) : Recased cs (lowerHead cs) := by
  cases cs with
  | nil => exact .nil
  | cons c cs => exact .cons (.lower c) (.refl cs)

theorem recased_joinWords (ws : List (List Char)) : Recased ws.flatten (joinWords ws) := by
  have capitalized : ∀ ws : List (List Char), Recased ws.flatten (ws.flatMap capitalizeHead) := by
    intro ws
    induction ws with
    | nil => exact .nil
    | cons w ws ih => exact (recased_capitalizeHead w).append ih
  cases ws with
  | nil => exact .nil
  | cons w ws => exact (Recased.refl w).append (capitalized ws)

theorem not_isSeparator_of_isLetterlike {c : Char} (h : isLetterlike c) : !isSeparator c := by
  have dash : c ≠ '-' := by rintro rfl; revert h; decide
  have underscore : c ≠ '_' := by rintro rfl; revert h; decide
  simp [isSeparator, dash, underscore]

/-- The characters that a name in camel case is made of: the text without separators. Blanks around
the text count only where there is no separator. -/
def spelling (s : String) : List Char :=
  (if s.toList.any isSeparator then trim s.toList else s.toList).filter (!isSeparator ·)

theorem recased_camelCase (s : String) :
    ∃ cs, Recased (spelling s) cs ∧ Recased cs (camelCase s).toList := by
  unfold spelling camelCase camelChars
  rw [String.toList_ofList]
  split
  · refine ⟨(splitWords (lower (trim s.toList))).flatten, ?_, recased_joinWords _⟩
    unfold splitWords
    rw [flatten_splitWhere]
    exact (Recased.lowerFrom [] (trim s.toList)).filter fun _ => not_isSeparator_of_isLetterlike
  · next unseparated =>
    have whole : s.toList.filter (!isSeparator ·) = s.toList := by
      simpa [List.filter_eq_self] using unseparated
    rw [whole]
    exact ⟨s.toList, .refl _, recased_lowerHead _⟩

end Naming

end LoadClients
