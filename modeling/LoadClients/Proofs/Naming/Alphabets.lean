import LoadClients.Proofs.Naming.Identifiers
import LoadClients.Text.Case.Classes

/-!
Which letters make an alphabet. Ranges of them do when both changes of case stay within the ranges,
which can be checked for a whole run of characters at once. The characters with a case do, together
with the marks in their forms; without these marks, or with the Latin letters alone, there is none.
-/

namespace LoadClients

namespace Text

namespace Ranges
variable {rs : Ranges} {first last step : Nat} {c : Char}

/-- One of the ranges has all code points from `first` to `last`. -/
def spans (rs : Ranges) (first last : Nat) : Bool :=
  rs.any fun r => r.1.ble first && last.ble r.2

/-- The ranges have every `step`-th code point from `first` to `last`. -/
def covers (rs : Ranges) (first last step : Nat) : Bool :=
  rs.spans first last ||
    (List.range' first ((last - first) / step + 1) step).all fun n => rs.spans n n

theorem has_of_spans (h : rs.spans first last) (above : first ≤ c.toNat) (below : c.toNat ≤ last) :
    rs.has c := by
  simp only [spans, List.any_eq_true, Bool.and_eq_true, Nat.ble_eq] at h
  obtain ⟨r, hr, start, ending⟩ := h
  exact has_iff.mpr ⟨r, hr, by omega, by omega⟩

theorem has_of_covers (h : rs.covers first last step) (above : first ≤ c.toNat)
    (below : c.toNat ≤ last) (reached : (c.toNat - first) % step = 0) : rs.has c := by
  rw [covers, Bool.or_eq_true, List.all_eq_true] at h
  rcases h with whole | single
  · exact has_of_spans whole above below
  · have steps := Nat.div_add_mod (c.toNat - first) step
    have bound : (c.toNat - first) / step ≤ (last - first) / step :=
      Nat.div_le_div_right (by omega)
    have stepped : c.toNat ∈ List.range' first ((last - first) / step + 1) step :=
      List.mem_range'.mpr ⟨(c.toNat - first) / step, by omega, by omega⟩
    exact has_of_spans (single c.toNat stepped) (Nat.le_refl _) (Nat.le_refl _)

end Ranges

/-- The mapping changes characters of the ranges alone, and into such characters. -/
def Mapping.staysIn (m : Mapping) (rs : Ranges) : Bool :=
  (m.expansions.all fun e => rs.spans e.1 e.1 && e.2.all fun n => rs.spans n n) &&
    m.runs.all fun r => rs.covers r.first r.last r.step &&
      rs.covers (r.first + r.shift).toNat (r.last + r.shift).toNat r.step

theorem Mapping.has_iff_of_staysIn {m : Mapping} {rs : Ranges} (letters : m.isOfLetters)
    (h : m.staysIn rs) (c : Char) : rs.has c ↔ ∀ d ∈ m.apply c, rs.has d := by
  simp only [isOfLetters, Bool.and_eq_true, List.all_eq_true, decide_eq_true_eq] at letters
  simp only [staysIn, Bool.and_eq_true, List.all_eq_true] at h
  rcases m.apply_forms c with same | ⟨ns, entry, form⟩ | ⟨r, hr, n, image, form⟩
  · simp [same]
  · obtain ⟨source, images⟩ := h.1 _ entry
    refine iff_of_true (Ranges.has_of_spans source (Nat.le_refl _) (Nat.le_refl _)) ?_
    intro d hd
    rw [form] at hd
    obtain ⟨n, hn, rfl⟩ := List.mem_map.mp hd
    have value := toNat_ofNat_of_lettersBetween ((letters.1 _ entry).2 n hn) (Nat.le_refl n)
      (Nat.le_refl n)
    exact Ranges.has_of_spans (images n hn) (by omega) (by omega)
  · obtain ⟨⟨_, positive⟩, formed⟩ := letters.2 r hr
    obtain ⟨⟨above, below, reached⟩, rfl⟩ := Run.image?_eq_some_iff.mp image
    refine iff_of_true (Ranges.has_of_covers (h.2 r hr).1 above below reached) ?_
    intro d hd
    rw [form, List.mem_singleton] at hd
    subst hd
    have value := toNat_ofNat_of_lettersBetween formed (n := (c.toNat + r.shift).toNat)
      (by omega) (by omega)
    -- a run moves all its characters by the same distance, so the steps are those of the sources
    have distance : (c.toNat + r.shift).toNat - (r.first + r.shift).toNat = c.toNat - r.first := by
      omega
    exact Ranges.has_of_covers (h.2 r hr).2 (by omega) (by omega) (by rw [value, distance, reached])

theorem CaseBlind.of_staysIn {rs : Ranges} (upper : upperMapping.staysIn rs)
    (lower : lowerMapping.staysIn rs) : CaseBlind fun c => rs.has c where
  upper := upperMapping.has_iff_of_staysIn upperMapping_isOfLetters upper
  lower := lowerMapping.has_iff_of_staysIn lowerMapping_isOfLetters lower

/-- The characters with a case, and those that only stand in forms of them: marks for the most part,
as in the small form of a capital with a dot. -/
def casedAndMarks : Ranges :=
  cased ++ [(0x2bc, 0x2bc), (0x2be, 0x2be), (0x300, 0x301), (0x307, 0x308), (0x30a, 0x30a),
    (0x30c, 0x30c), (0x313, 0x313), (0x331, 0x331), (0x342, 0x342)]

end Text

open Text

namespace Alphabet

/-- Ranges of letters, the Latin ones among them, that a change of case does not leave. -/
def ofRanges (rs : Ranges) (letters : rs.all fun r => lettersBetween r.1 r.2)
    (latin : rs.spans 0x41 0x5a ∧ rs.spans 0x61 0x7a) (upper : upperMapping.staysIn rs)
    (lower : lowerMapping.staysIn rs) : Alphabet where
  letter c := rs.has c
  caseBlind := .of_staysIn upper lower
  latin c h := by
    rcases isAlpha_iff.mp h with ⟨above, below⟩ | ⟨above, below⟩
    · exact Ranges.has_of_spans latin.1 above below
    · exact Ranges.has_of_spans latin.2 above below
  proper c h := by
    obtain ⟨r, hr, above, below⟩ := Ranges.has_iff.mp h
    exact isLetterlike_of_lettersBetween (List.all_eq_true.mp letters r hr) above below

/-- The alphabet of the characters with a case. -/
def cased : Alphabet :=
  ofRanges casedAndMarks (by decide +kernel) (by decide) (by decide +kernel) (by decide +kernel)

example : casedAndMarks.has 'é' ∧ ¬ casedAndMarks.has '×' := by decide

variable (A : Alphabet)

/-- The Latin letters are not all: the kelvin sign has one of them for its small form. -/
theorem letter_kelvin : A.letter '\u212a' := by
  have small : lowerMapping.apply '\u212a' = ['k'] := by decide
  rw [A.caseBlind.lower, small, List.forall_mem_singleton]
  exact A.latin 'k' (by decide)

/-- A capital with a dot comes with a mark, since its small form has the dot behind the letter. -/
theorem letter_dot (h : A.letter 'İ') : A.letter '\u0307' := by
  have small : lowerMapping.apply 'İ' = ['i', '\u0307'] := by decide
  rw [A.caseBlind.lower, small] at h
  exact h '\u0307' (by simp)

end Alphabet

end LoadClients
