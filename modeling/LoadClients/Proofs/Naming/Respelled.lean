import LoadClients.Proofs.Naming.Recased
import LoadClients.Proofs.Path.Names
import Mathlib.Data.List.Forall2
import Mathlib.Logic.Relation

/-!
Spellings of one name. The words of a text are put into lower case together, but each of them as if
it stood alone: a sigma does not look beyond a separator. How many separators stand between two
words, and which, is lost, and so is the case of letters.
-/

namespace LoadClients

namespace Text

theorem dropWhile_append_cons {α : Type} {p : α → Bool} {x : α} (hx : p x = false)
    (a b : List α) : (a ++ x :: b).dropWhile p = a.dropWhile p ++ x :: b := by
  rw [List.dropWhile_append]
  split
  · next all =>
    rw [List.isEmpty_iff.mp all, List.dropWhile_cons, hx]
    rfl
  · rfl

def trimStart (cs : List Char) : List Char := cs.dropWhile isBlank

def trimEnd (cs : List Char) : List Char := (cs.reverse.dropWhile isBlank).reverse

theorem trimEnd_append_cons {x : Char} (hx : isBlank x = false) (a b : List Char) :
    trimEnd (a ++ x :: b) = a ++ x :: trimEnd b := by
  have reversed : (a ++ x :: b).reverse = b.reverse ++ x :: a.reverse := by simp
  rw [trimEnd, reversed, dropWhile_append_cons hx]
  simp [trimEnd]

theorem trim_append_cons {x : Char} (hx : isBlank x = false) (a b : List Char) :
    trim (a ++ x :: b) = trimStart a ++ x :: trimEnd b := by
  have halves : trim (a ++ x :: b) = trimEnd (trimStart (a ++ x :: b)) := rfl
  rw [halves, trimStart, dropWhile_append_cons hx, trimEnd_append_cons hx]
  rfl

/-- A character that has no case and ends the search for one that has, and that is no blank. -/
structure Parting (c : Char) : Prop where
  solid : isBlank c = false
  heeded : caseIgnorable.has c = false
  uncased : cased.has c = false
  single : lowerMapping.apply c = [c]

namespace Parting
variable {x : Char} (hx : Parting x)
include hx

theorem facesCased_append_cons (a b : List Char) : facesCased (a ++ x :: b) = facesCased a := by
  unfold facesCased
  rw [dropWhile_append_cons hx.heeded]
  cases a.dropWhile caseIgnorable.has with
  | nil => exact hx.uncased
  | cons c cs => rfl

theorem lowerFrom_append_cons_before (before beyond cs : List Char) :
    lowerFrom (before ++ x :: beyond) cs = lowerFrom before cs := by
  induction cs generalizing before with
  | nil => rfl
  | cons c cs ih =>
    have later := ih (c :: before)
    rw [List.cons_append] at later
    rw [lowerFrom, lowerFrom, hx.facesCased_append_cons, later]

theorem lowerFrom_append_cons (before a b : List Char) :
    lowerFrom before (a ++ x :: b) = lowerFrom before a ++ x :: lower b := by
  induction a generalizing before with
  | nil =>
    have noSigma : x ≠ 'Σ' := by
      rintro rfl
      exact absurd hx.uncased (by decide)
    have alone : lowerFrom (x :: before) b = lower b :=
      hx.lowerFrom_append_cons_before [] before b
    have empty : lowerFrom before [] = [] := rfl
    rw [empty, List.nil_append, List.nil_append, lowerFrom, if_neg noSigma, hx.single, alone]
    rfl
  | cons c a ih =>
    rw [List.cons_append, lowerFrom, ih, hx.facesCased_append_cons, lowerFrom, List.append_assoc]

theorem lower_append_cons (a b : List Char) : lower (a ++ x :: b) = lower a ++ x :: lower b :=
  hx.lowerFrom_append_cons [] a b

end Parting

end Text

namespace Naming

open Text

theorem parting_of_isSeparator {c : Char} (h : isSeparator c) : Parting c := by
  have mark : c = '-' ∨ c = '_' := by simpa [isSeparator] using h
  rcases mark with rfl | rfl <;>
    exact ⟨by decide +kernel, by decide +kernel, by decide +kernel, by decide +kernel⟩

theorem joinWords_append {ws : List (List Char)} (h : ws ≠ []) (vs : List (List Char)) :
    joinWords (ws ++ vs) = joinWords ws ++ vs.flatMap capitalizeHead := by
  cases ws with
  | nil => exact absurd rfl h
  | cons w ws => simp [joinWords]

/-- What a name says behind a separator. -/
def laterWords (cs : List Char) : List Char :=
  (splitWords (lower (trimEnd cs))).flatMap capitalizeHead

section
variable {x : Char} (hx : isSeparator x)
include hx

/-- Which separator it is does not matter. -/
theorem camelChars_append_cons (a b : List Char) :
    camelChars (a ++ x :: b) =
      joinWords (splitWords (lower (trimStart a))) ++ laterWords b := by
  have parting := parting_of_isSeparator hx
  have separated : (a ++ x :: b).any isSeparator := by simp [hx]
  rw [camelChars, if_pos separated, trim_append_cons parting.solid, parting.lower_append_cons,
    splitWords, splitWhere_append hx, joinWords_append (splitWhere_ne_nil _ _)]
  rfl

theorem laterWords_cons (cs : List Char) : laterWords (x :: cs) = laterWords cs := by
  have parting := parting_of_isSeparator hx
  have trimmed : trimEnd (x :: cs) = [] ++ x :: trimEnd cs :=
    trimEnd_append_cons parting.solid [] cs
  rw [laterWords, trimmed, parting.lower_append_cons, splitWords, splitWhere_append hx]
  rfl

end

theorem laterWords_append {run : List Char} (separators : ∀ c ∈ run, isSeparator c)
    (cs : List Char) : laterWords (run ++ cs) = laterWords cs := by
  induction run with
  | nil => rfl
  | cons c run ih =>
    obtain ⟨first, others⟩ := List.forall_mem_cons.mp separators
    rw [List.cons_append, laterWords_cons first, ih others]

/-- Characters between which a name in camel case makes no difference. -/
structure Alike (c d : Char) : Prop where
  lower : lowerMapping.apply c = lowerMapping.apply d
  sigma : c = 'Σ' ↔ d = 'Σ'
  cased : cased.has c = cased.has d
  ignorable : caseIgnorable.has c = caseIgnorable.has d
  blank : isBlank c = isBlank d
  separator : isSeparator c = isSeparator d

theorem Alike.refl (c : Char) : Alike c c := ⟨rfl, Iff.rfl, rfl, rfl, rfl, rfl⟩

section
open List
variable {cs ds : List Char}

theorem alike_dropWhile {p : Char → Bool} (hp : ∀ c d, Alike c d → p c = p d)
    (h : Forall₂ Alike cs ds) : Forall₂ Alike (cs.dropWhile p) (ds.dropWhile p) := by
  induction h with
  | nil => exact .nil
  | cons head tail ih =>
    rw [dropWhile_cons, dropWhile_cons, hp _ _ head]
    split
    · exact ih
    · exact .cons head tail

theorem alike_trim (h : Forall₂ Alike cs ds) : Forall₂ Alike (trim cs) (trim ds) := by
  have blank : ∀ c d, Alike c d → isBlank c = isBlank d := fun _ _ => Alike.blank
  exact rel_reverse (alike_dropWhile blank (rel_reverse (alike_dropWhile blank h)))

theorem facesCased_of_alike (h : Forall₂ Alike cs ds) : facesCased cs = facesCased ds := by
  have heeded := alike_dropWhile (fun _ _ => Alike.ignorable) h
  unfold facesCased
  generalize cs.dropWhile caseIgnorable.has = front at heeded
  generalize ds.dropWhile caseIgnorable.has = front' at heeded
  cases heeded with
  | nil => rfl
  | cons head _ => exact head.cased

theorem lowerFrom_of_alike {before before' : List Char} (hb : Forall₂ Alike before before')
    (h : Forall₂ Alike cs ds) : lowerFrom before cs = lowerFrom before' ds := by
  induction h generalizing before before' with
  | nil => rfl
  | @cons c d cs ds head tail ih =>
    rw [lowerFrom, lowerFrom, ih (.cons head hb), facesCased_of_alike hb,
      facesCased_of_alike tail, head.lower]
    simp only [head.sigma]

theorem any_isSeparator_of_alike (h : Forall₂ Alike cs ds) :
    cs.any isSeparator = ds.any isSeparator := by
  induction h with
  | nil => rfl
  | cons head _ ih => rw [any_cons, any_cons, head.separator, ih]

theorem camelChars_of_alike (separated : cs.any isSeparator) (h : Forall₂ Alike cs ds) :
    camelChars ds = camelChars cs := by
  rw [camelChars, camelChars, ← any_isSeparator_of_alike h, if_pos separated, if_pos separated,
    lower, lower, lowerFrom_of_alike .nil (alike_trim h)]

end

/-- The other case of a letter of the alphabet. -/
def otherCase (c : Char) : Char := if c.isUpper then c.toLower else c.toUpper

theorem heeded_of_isAlpha {c : Char} (h : c.isAlpha) : caseIgnorable.has c = false := by
  have apart : ∀ r ∈ caseIgnorable, r.2 < 0x41 ∨ 0x5a < r.1 ∧ r.2 < 0x61 ∨ 0x7a < r.1 := by
    decide +kernel
  have letter := isAlpha_iff.mp h
  rw [← Bool.not_eq_true, Ranges.has_iff]
  rintro ⟨r, hr, above, below⟩
  have outside := apart r hr
  omega

theorem alike_otherCase {c : Char} (h : c.isAlpha) : Alike c (otherCase c) := by
  -- the long table of ignorable characters is not searched for every letter
  have table : ∀ n < 128, (Char.ofNat n).isAlpha →
      let c := Char.ofNat n
      let d := otherCase c
      lowerMapping.apply c = lowerMapping.apply d ∧ cased.has c = cased.has d ∧
        isBlank c = isBlank d ∧ isSeparator c = isSeparator d ∧ (c = 'Σ' ↔ d = 'Σ') ∧
        d.isAlpha := by
    decide +kernel
  have low : c.toNat < 128 := by
    have letter := isAlpha_iff.mp h
    omega
  have entry := table c.toNat low
  simp only [Char.ofNat_toNat] at entry
  obtain ⟨lower, cased, blank, separator, sigma, other⟩ := entry h
  have ignorable : caseIgnorable.has c = caseIgnorable.has (otherCase c) := by
    rw [heeded_of_isAlpha h, heeded_of_isAlpha other]
  exact ⟨lower, sigma, cased, ignorable, blank, separator⟩

/-- One change to the spelling of a text: to a separator, to the number of separators in a row, or
to the case of a letter of the alphabet. -/
inductive Respelling : List Char → List Char → Prop
  | separator (a b : List Char) {x y : Char} (hx : isSeparator x) (hy : isSeparator y) :
    Respelling (a ++ x :: b) (a ++ y :: b)
  | run (a b : List Char) {xs : List Char} {y : Char} (nonempty : xs ≠ [])
    (hxs : ∀ x ∈ xs, isSeparator x) (hy : isSeparator y) : Respelling (a ++ xs ++ b) (a ++ y :: b)
  | letter (a b : List Char) {c : Char} (h : c.isAlpha) :
    Respelling (a ++ c :: b) (a ++ otherCase c :: b)

theorem Respelling.keeps {cs ds : List Char} (h : Respelling cs ds)
    (separated : cs.any isSeparator) :
    ds.any isSeparator ∧ camelChars ds = camelChars cs := by
  cases h with
  | separator a b hx hy =>
    refine ⟨by simp [hy], ?_⟩
    rw [camelChars_append_cons hx, camelChars_append_cons hy]
  | @run a b xs y nonempty hxs hy =>
    refine ⟨by simp [hy], ?_⟩
    cases xs with
    | nil => exact absurd rfl nonempty
    | cons x xs =>
      obtain ⟨hx, others⟩ := List.forall_mem_cons.mp hxs
      rw [List.append_assoc, List.cons_append, camelChars_append_cons hx,
        camelChars_append_cons hy, laterWords_append others]
  | @letter a b c letter =>
    have same (cs : List Char) : List.Forall₂ Alike cs cs :=
      List.forall₂_same.mpr fun c _ => .refl c
    have alike : List.Forall₂ Alike (a ++ c :: b) (a ++ otherCase c :: b) :=
      List.rel_append (same a) (.cons (alike_otherCase letter) (same b))
    exact ⟨any_isSeparator_of_alike alike ▸ separated, camelChars_of_alike separated alike⟩

theorem camelChars_respelled {cs ds : List Char} (separated : cs.any isSeparator)
    (h : Relation.ReflTransGen Respelling cs ds) :
    ds.any isSeparator ∧ camelChars ds = camelChars cs := by
  induction h with
  | refl => exact ⟨separated, rfl⟩
  | tail _ step ih =>
    obtain ⟨kept, same⟩ := ih
    obtain ⟨keptStill, sameStill⟩ := step.keeps kept
    exact ⟨keptStill, sameStill.trans same⟩

theorem separatorless_camelCase (s : String) : ∀ c ∈ (camelCase s).toList, !isSeparator c := by
  obtain ⟨cs, first, second⟩ := recased_camelCase s
  have blind : CaseBlind fun c => !isSeparator c :=
    .of_forall_letter fun _ => not_isSeparator_of_isLetterlike
  rw [← second.forall_iff blind, ← first.forall_iff blind]
  exact fun c hc => (List.mem_filter.mp hc).2

/-- A name in camel case has no separators, and all spellings of a text with separators have the
same name. -/
theorem camelCase_respelled (s : String) :
    (∀ c ∈ (camelCase s).toList, c ≠ '-' ∧ c ≠ '_') ∧
    (s.toList.any isSeparator → ∀ t : String,
      Relation.ReflTransGen Respelling s.toList t.toList → camelCase t = camelCase s) := by
  constructor
  · intro c hc
    simpa [isSeparator] using separatorless_camelCase s c hc
  · intro separated t respelled
    rw [camelCase, camelCase, (camelChars_respelled separated respelled).2]

/-- Two separators become one, and a letter a capital. The sigma before them has its final form. -/
theorem camelCase_respelled_sigma :
    Relation.ReflTransGen Respelling "ΟΔΟΣ--beta".toList "ΟΔΟΣ_Beta".toList ∧
      "ΟΔΟΣ--beta".toList.any isSeparator ∧ camelCase "ΟΔΟΣ--beta" = "οδοςBeta" ∧
      camelCase "ΟΔΟΣ_Beta" = "οδοςBeta" := by
  have dashes : ∀ x ∈ ['-', '-'], isSeparator x :=
    List.forall_mem_cons.mpr ⟨rfl, List.forall_mem_singleton.mpr rfl⟩
  have underscore : isSeparator '_' := rfl
  have letter : 'b'.isAlpha := rfl
  have first : Respelling "ΟΔΟΣ--beta".toList "ΟΔΟΣ_beta".toList :=
    .run "ΟΔΟΣ".toList "beta".toList (List.cons_ne_nil _ _) dashes underscore
  have second : Respelling "ΟΔΟΣ_beta".toList "ΟΔΟΣ_Beta".toList :=
    .letter "ΟΔΟΣ_".toList "eta".toList letter
  have respelled := (Relation.ReflTransGen.single first).tail second
  have separated : "ΟΔΟΣ--beta".toList.any isSeparator := by decide
  have name : camelCase "ΟΔΟΣ--beta" = "οδοςBeta" := by decide +kernel
  exact ⟨respelled, separated, name,
    ((camelCase_respelled "ΟΔΟΣ--beta").2 separated _ respelled).trans name⟩

end Naming

end LoadClients
