import LoadClients.Client
import LoadClients.Proofs.CallSpace.Search
import LoadClients.Proofs.Naming.Recased

/-!
Names as identifiers of a script. Naming changes the case of characters and leaves separators out,
and does nothing else about what an identifier cannot hold: a name is an identifier exactly when the
text that it is made of is spelled like one.
-/

namespace LoadClients

open Text

/-- The letters of identifiers: those of the Latin alphabet at least, no letter without its other
case, and neither blanks nor the other characters of ASCII. What a script admits in an identifier is
such a set, combining marks included. The Latin letters alone are none, since the small form of the
kelvin sign is one of them, and letters without marks are none, since the small form of a capital
with a dot ends in a mark. -/
structure Alphabet where
  letter : Char → Prop
  caseBlind : CaseBlind letter
  latin : ∀ c, c.isAlpha → letter c
  proper : ∀ c, letter c → isLetterlike c

theorem toNat_of_isDigit {c : Char} (h : c.isDigit) : 0x30 ≤ c.toNat ∧ c.toNat ≤ 0x39 := by
  simp only [Char.isDigit, Bool.and_eq_true, decide_eq_true_eq, ge_iff_le,
    UInt32.le_iff_toNat_le] at h
  exact h

theorem toNat_of_isLetterlike {c : Char} (h : isLetterlike c) :
    0x41 ≤ c.toNat ∧ c.toNat ≤ 0x5a ∨ 0x61 ≤ c.toNat ∧ c.toNat ≤ 0x7a ∨ 0x80 ≤ c.toNat := by
  simp only [isLetterlike, Bool.or_eq_true, Bool.and_eq_true, decide_eq_true_eq, isAlpha_iff] at h
  omega

theorem not_isDigit_of_isLetterlike {c : Char} (h : isLetterlike c) : ¬ c.isDigit := by
  intro digit
  have letter := toNat_of_isLetterlike h
  have bounds := toNat_of_isDigit digit
  omega

/-- The characters of identifiers that are no letters. -/
def OtherMark (c : Char) : Prop := c.isDigit ∨ c = '_' ∨ c = '$'

instance : DecidablePred OtherMark := fun c =>
  inferInstanceAs (Decidable (c.isDigit ∨ c = '_' ∨ c = '$'))

theorem not_otherMark_of_isLetterlike {c : Char} (h : isLetterlike c) : ¬ OtherMark c := by
  rintro (digit | rfl | rfl)
  · exact not_isDigit_of_isLetterlike h digit
  · revert h
    decide
  · revert h
    decide

namespace Alphabet

/-- Whatever can count as a letter is one. -/
def wide : Alphabet where
  letter c := isLetterlike c
  caseBlind := .of_forall_letter fun _ h => h
  latin c h := by simp [isLetterlike, h]
  proper _ h := h

variable (A : Alphabet)

def Admits (c : Char) : Prop := A.letter c ∨ OtherMark c

/-- The characters of an identifier: there is one, the first is no digit, and all are admitted. -/
structure Spells (cs : List Char) : Prop where
  starts : ∃ c, cs.head? = some c ∧ ¬ c.isDigit
  admits : ∀ c ∈ cs, A.Admits c

def Identifier (s : String) : Prop := A.Spells s.toList

theorem caseBlind_admits : CaseBlind A.Admits :=
  A.caseBlind.or_of_no_letter fun _ => not_otherMark_of_isLetterlike

variable {A}

theorem spells_recased {cs rs : List Char} (h : Recased cs rs) : A.Spells cs ↔ A.Spells rs := by
  have starts := h.head_iff (Q := fun c => c.isDigit) fun _ => not_isDigit_of_isLetterlike
  have admits := h.forall_iff A.caseBlind_admits
  constructor
  · rintro ⟨first, all⟩
    exact ⟨starts.mp first, admits.mp all⟩
  · rintro ⟨first, all⟩
    exact ⟨starts.mpr first, admits.mpr all⟩

theorem identifier_camelCase {s : String} :
    A.Identifier (Naming.camelCase s) ↔ A.Spells (Naming.spelling s) := by
  obtain ⟨cs, first, second⟩ := Naming.recased_camelCase s
  exact (spells_recased second).symm.trans (spells_recased first).symm

theorem admits_of_isAlpha {c : Char} (h : c.isAlpha) : A.Admits c := Or.inl (A.latin c h)

theorem identifier_of_alphabetic {s : String} (nonempty : s ≠ "")
    (h : s.toList.all Char.isAlpha) : A.Identifier s := by
  have alpha := List.all_eq_true.mp h
  refine ⟨?_, fun c hc => admits_of_isAlpha (alpha c hc)⟩
  cases chars : s.toList with
  | nil => exact absurd (String.toList_eq_nil_iff.mp chars) nonempty
  | cons c cs =>
    have first : A.letter c := A.latin c (alpha c (by simp [chars]))
    exact ⟨c, rfl, not_isDigit_of_isLetterlike (A.proper c first)⟩

/-- The tag may be empty, since the name of a class goes on after it. -/
theorem identifier_classNameOf {tag : String} :
    A.Identifier (classNameOf tag) ↔
      (∀ c, tag.toList.head? = some c → ¬ c.isDigit) ∧ ∀ c ∈ tag.toList, A.Admits c := by
  have chars : (classNameOf tag).toList = Naming.capitalizeHead tag.toList ++ "Client".toList := by
    rw [classNameOf, String.toList_append, Naming.capitalize, String.toList_ofList]
  have recased := (Naming.recased_capitalizeHead tag.toList).append (.refl "Client".toList)
  have ending : ∀ c ∈ "Client".toList, A.Admits c := by
    have alpha : "Client".toList.all Char.isAlpha := by decide
    exact fun c hc => admits_of_isAlpha (List.all_eq_true.mp alpha c hc)
  unfold Identifier
  rw [chars, ← spells_recased recased]
  constructor
  · rintro ⟨starts, admits⟩
    refine ⟨?_, (List.forall_mem_append.mp admits).1⟩
    intro c head
    obtain ⟨c', head', plain⟩ := starts
    rw [List.head?_append, head, Option.some_or, Option.some.injEq] at head'
    exact head' ▸ plain
  · rintro ⟨starts, admits⟩
    refine ⟨?_, List.forall_mem_append.mpr ⟨admits, ending⟩⟩
    rw [List.head?_append]
    cases head : tag.toList.head? with
    | none => exact ⟨'C', by decide, by decide⟩
    | some c => exact ⟨c, rfl, starts c head⟩

theorem identifier_numbered {name : String} {k : Nat} :
    A.Identifier (numbered name k) ↔ A.Identifier name := by
  have digits : ∀ c ∈ Nat.toDigits 10 k, c.isDigit := fun c =>
    Nat.isDigit_of_mem_toDigits (by decide) (by decide)
  unfold Identifier
  rw [toList_numbered]
  constructor
  · rintro ⟨⟨c, head, plain⟩, admits⟩
    refine ⟨⟨c, ?_, plain⟩, (List.forall_mem_append.mp admits).1⟩
    -- without a name in front of it a number would begin with a digit
    rw [List.head?_append, Option.or_eq_some_iff] at head
    rcases head with named | ⟨_, number⟩
    · exact named
    · exact absurd (digits c (List.mem_of_mem_head? number)) plain
  · rintro ⟨⟨c, head, plain⟩, admits⟩
    refine ⟨⟨c, ?_, plain⟩, List.forall_mem_append.mpr ⟨admits, ?_⟩⟩
    · rw [List.head?_append, head, Option.some_or]
    · exact fun d hd => Or.inr (Or.inl (digits d hd))

theorem wide_identifier_iff {s : String} : wide.Identifier s ↔
    s.toList.head?.any (!·.isDigit) ∧ s.toList.all fun c => isLetterlike c || OtherMark c := by
  have starts : s.toList.head?.any (!·.isDigit) ↔ ∃ c, s.toList.head? = some c ∧ ¬ c.isDigit := by
    simp [Option.any_eq_true]
  have admits : (s.toList.all fun c => isLetterlike c || OtherMark c) ↔
      ∀ c ∈ s.toList, wide.Admits c := by
    simp [List.all_eq_true, Admits, wide]
  rw [starts, admits]
  exact ⟨fun ⟨first, all⟩ => ⟨first, all⟩, fun ⟨first, all⟩ => ⟨first, all⟩⟩

instance (s : String) : Decidable (wide.Identifier s) :=
  decidable_of_iff _ wide_identifier_iff.symm

/-- What no alphabet makes an identifier can be told from the widest one. -/
theorem wide_of_identifier {s : String} (h : A.Identifier s) : wide.Identifier s :=
  ⟨h.starts, fun c hc => (h.admits c hc).imp_left (A.proper c)⟩

end Alphabet

end LoadClients
