import LoadClients.Proofs.Naming.Respelled

/-!
Names that are named again. A name has no separators, so naming it once more changes its first
character at most, and that is in lower case already. The exception is a text that begins with a
separator: what stands behind it is no first word, and begins with a capital.
-/

namespace LoadClients

namespace Text

/-- Lower case leaves the character as it is. -/
def Lowered (c : Char) : Prop := lowerMapping.apply c = [c]

instance : DecidablePred Lowered := fun c =>
  inferInstanceAs (Decidable (lowerMapping.apply c = [c]))

/-- The run reaches some code point between `first` and `last`, unless it steps over all. -/
def Run.meets (r : Run) (first last : Nat) : Bool := first.ble r.last && r.first.ble last

/-- The mapping leaves all code points alone that are reached from `first` in steps of `step`, as
far as `last`. -/
def Mapping.spares (m : Mapping) (first last step : Nat) : Bool :=
  (m.expansions.all fun e => decide (e.1 < first) || decide (last < e.1)) &&
    (m.runs.filter (·.meets first last)).all fun r =>
      (step % r.step == 0 || first == last) && first % r.step != r.first % r.step

theorem Run.image?_eq_none_of_apart {r : Run} {n : Nat} (apart : n % r.step ≠ r.first % r.step) :
    r.image? n = none := by
  unfold image?
  rw [if_neg]
  rintro ⟨above, _, reached⟩
  have moved : n = r.first + (n - r.first) := by omega
  apply apart
  rw [moved, Nat.add_mod, reached, Nat.add_zero, Nat.mod_mod]

theorem Mapping.apply_of_spares {m : Mapping} {first last step k : Nat} {c : Char}
    (h : m.spares first last step) (reached : c.toNat = first + k * step)
    (within : c.toNat ≤ last) : m.apply c = [c] := by
  rw [spares, Bool.and_eq_true, List.all_eq_true, List.all_eq_true] at h
  obtain ⟨expansions, runs⟩ := h
  have unexpanded : m.expansions.lookup c.toNat = none := by
    rw [List.lookup_eq_none_iff]
    intro e he
    have outside := expansions e he
    rw [Bool.or_eq_true, decide_eq_true_eq, decide_eq_true_eq] at outside
    rw [bne_iff_ne]
    omega
  have unmoved : m.runs.findSome? (·.image? c.toNat) = none := by
    rw [List.findSome?_eq_none_iff]
    intro r hr
    by_cases meets : r.meets first last
    · have apart := runs r (List.mem_filter.mpr ⟨hr, meets⟩)
      simp only [Bool.and_eq_true, Bool.or_eq_true, beq_iff_eq, bne_iff_ne] at apart
      obtain ⟨divides | single, residue⟩ := apart
      · apply Run.image?_eq_none_of_apart
        rw [reached, Nat.add_mod, Nat.mul_mod, divides, Nat.mul_zero, Nat.zero_mod, Nat.add_zero,
          Nat.mod_mod]
        exact residue
      · have start : c.toNat = first := by omega
        exact Run.image?_eq_none_of_apart (start ▸ residue)
    · rw [Run.meets, Bool.and_eq_true, Nat.ble_eq, Nat.ble_eq] at meets
      exact if_neg fun inside => meets (by omega)
  unfold apply
  rw [unexpanded, unmoved]

/-- The mapping leaves the first character of each of its forms alone. -/
def Mapping.settles (m : Mapping) : Bool :=
  (m.expansions.all fun e => e.2.head?.all fun n => m.spares n n 1) &&
    m.runs.all fun r => m.spares (r.first + r.shift).toNat (r.last + r.shift).toNat r.step

namespace Mapping
variable {m : Mapping} (letters : m.isOfLetters) (settled : m.settles) {c : Char}
include letters settled

theorem apply_head_of_expansion {n : Nat} {ns : List Nat}
    (entry : (c.toNat, n :: ns) ∈ m.expansions) : m.apply (Char.ofNat n) = [Char.ofNat n] := by
  simp only [isOfLetters, Bool.and_eq_true, List.all_eq_true] at letters
  simp only [settles, Bool.and_eq_true, List.all_eq_true] at settled
  have spared : m.spares n n 1 := settled.1 _ entry
  have value := toNat_ofNat_of_lettersBetween ((letters.1 _ entry).2 n List.mem_cons_self)
    (Nat.le_refl n) (Nat.le_refl n)
  exact apply_of_spares (k := 0) spared (by omega) (by omega)

theorem apply_image {r : Run} (hr : r ∈ m.runs) {n : Nat} (image : r.image? c.toNat = some n) :
    m.apply (Char.ofNat n) = [Char.ofNat n] := by
  simp only [isOfLetters, Bool.and_eq_true, List.all_eq_true, decide_eq_true_eq] at letters
  simp only [settles, Bool.and_eq_true, List.all_eq_true] at settled
  obtain ⟨⟨_, positive⟩, images⟩ := letters.2 r hr
  obtain ⟨inside, rfl⟩ := Run.image?_eq_some_iff.mp image
  have value := toNat_ofNat_of_lettersBetween images (n := (c.toNat + r.shift).toNat)
    (by omega) (by omega)
  have steps := Nat.div_add_mod (c.toNat - r.first) r.step
  rw [inside.2.2, Nat.add_zero, Nat.mul_comm] at steps
  refine apply_of_spares (settled.2 r hr) (k := (c.toNat - r.first) / r.step) ?_ (by omega)
  rw [value, steps]
  omega

/-- The first character of a form is its own form. -/
theorem apply_head {d : Char} (h : (m.apply c).head? = some d) : m.apply d = [d] := by
  rcases m.apply_forms c with same | ⟨ns, entry, form⟩ | ⟨r, hr, n, image, form⟩
  · rw [same] at h
    cases h
    exact same
  · rw [form] at h
    cases ns with
    | nil => cases h
    | cons n ns =>
      cases h
      exact apply_head_of_expansion letters settled entry
  · rw [form] at h
    cases h
    exact apply_image letters settled hr image

end Mapping

theorem lowerMapping_settles : lowerMapping.settles := by decide +kernel

theorem lowered_head_lowerMapping {c d : Char} (h : (lowerMapping.apply c).head? = some d) :
    Lowered d :=
  Mapping.apply_head lowerMapping_isOfLetters lowerMapping_settles h

theorem head?_append_of_apply {m : Mapping} (h : m.isOfLetters) (c : Char) (cs : List Char) :
    (m.apply c ++ cs).head? = (m.apply c).head? := by
  have nonempty : m.apply c ≠ [] := by
    rcases m.apply_cases h c with same | ⟨_, nonempty, _⟩
    · simp [same]
    · exact nonempty
  exact List.head?_append_of_ne_nil _ nonempty

theorem lowered_head_lower {cs : List Char} {d : Char} (h : (lower cs).head? = some d) :
    Lowered d := by
  cases cs with
  | nil => cases h
  | cons c cs =>
    rw [lower, lowerFrom] at h
    split at h
    · cases h
      split <;> decide
    · rw [head?_append_of_apply lowerMapping_isOfLetters] at h
      exact lowered_head_lowerMapping h

end Text

namespace Naming

open Text

theorem lowerHead_eq_self_iff {cs : List Char} :
    lowerHead cs = cs ↔ cs.head?.all fun c => decide (Lowered c) := by
  cases cs with
  | nil => simp [lowerHead]
  | cons c cs =>
    have alone : c :: cs = [c] ++ cs := rfl
    rw [lowerHead, alone, List.append_cancel_right_eq, List.singleton_append, List.head?_cons,
      Option.all_some, decide_eq_true_eq]
    exact Iff.rfl

theorem lowerHead_lowerHead (cs : List Char) : lowerHead (lowerHead cs) = lowerHead cs := by
  rw [lowerHead_eq_self_iff, Option.all_eq_true]
  intro d head
  cases cs with
  | nil => cases head
  | cons c cs =>
    rw [lowerHead, head?_append_of_apply lowerMapping_isOfLetters] at head
    exact decide_eq_true (lowered_head_lowerMapping head)

/-- A name is named again as a text without separators. -/
theorem toList_camelCase_camelCase (s : String) :
    (camelCase (camelCase s)).toList = lowerHead (camelCase s).toList := by
  have unseparated : ¬ (camelCase s).toList.any isSeparator := by
    rw [List.any_eq_true]
    rintro ⟨c, hc, separator⟩
    have plain := separatorless_camelCase s c hc
    rw [separator] at plain
    cases plain
  rw [camelCase, String.toList_ofList, camelChars, if_neg unseparated]

theorem head?_capitalized (cs : List Char) :
    ((splitWords cs).flatMap capitalizeHead).head? =
      (cs.find? (!isSeparator ·)).bind fun c => (upperMapping.apply c).head? := by
  induction cs with
  | nil => rfl
  | cons c cs ih =>
    rw [splitWords, splitWhere, List.find?_cons]
    cases separator : isSeparator c with
    | true => exact ih
    | false =>
      obtain ⟨w, ws, words⟩ := List.exists_cons_of_ne_nil (splitWhere_ne_nil isSeparator cs)
      simp [words, prependToHead, capitalizeHead, head?_append_of_apply upperMapping_isOfLetters]

theorem head?_joinWords (cs : List Char) :
    (joinWords (splitWords cs)).head? =
      if cs.head?.any isSeparator then
        (cs.find? (!isSeparator ·)).bind fun c => (upperMapping.apply c).head?
      else cs.head? := by
  cases cs with
  | nil => rfl
  | cons c cs =>
    rw [splitWords, splitWhere, List.head?_cons, Option.any_some, List.find?_cons]
    cases separator : isSeparator c with
    | true => exact head?_capitalized cs
    | false =>
      obtain ⟨w, ws, words⟩ := List.exists_cons_of_ne_nil (splitWhere_ne_nil isSeparator cs)
      simp [words, prependToHead, joinWords]

/-- Lower case leaves separators where they are. -/
theorem any_isSeparator_head?_lower (cs : List Char) :
    (lower cs).head?.any isSeparator = cs.head?.any isSeparator := by
  cases cs with
  | nil => rfl
  | cons c cs =>
    cases separator : isSeparator c with
    | true =>
      have front : lower (c :: cs) = c :: lower cs :=
        (parting_of_isSeparator separator).lower_append_cons [] cs
      rw [front]
      rfl
    | false =>
      have no_letter : ∀ c, isLetterlike c → ¬ isSeparator c := by
        intro c letter
        simpa using not_isSeparator_of_isLetterlike letter
      obtain ⟨d, head, plain⟩ := ((Recased.lowerFrom [] (c :: cs)).head_iff no_letter).mp
        ⟨c, rfl, by simp [separator]⟩
      rw [lower, head]
      simpa [separator] using plain

/-- A separator stands in front of the first word, and lower case would change the capital that the
word begins with for that. -/
def isCapitalLed (s : String) : Bool :=
  (trim s.toList).head?.any isSeparator &&
    ((lower (trim s.toList)).find? (!isSeparator ·)).any fun c =>
      (upperMapping.apply c).head?.any fun d => !decide (Lowered d)

theorem any_isSeparator_of_trim {cs : List Char} (h : (trim cs).head?.any isSeparator) :
    cs.any isSeparator := by
  obtain ⟨c, head, separator⟩ := (Option.any_eq_true _ _).mp h
  have kept := List.mem_reverse.mp (List.mem_of_mem_head? head)
  have inside := (List.dropWhile_sublist _).mem kept
  exact List.any_eq_true.mpr
    ⟨c, (List.dropWhile_sublist _).mem (List.mem_reverse.mp inside), separator⟩

/-- A name begins in lower case, unless its text begins with a separator. -/
theorem all_lowered_head?_camelCase (s : String) :
    ((camelCase s).toList.head?.all fun c => decide (Lowered c)) = !isCapitalLed s := by
  rw [camelCase, String.toList_ofList, camelChars]
  split
  · rw [head?_joinWords, any_isSeparator_head?_lower, isCapitalLed]
    cases (trim s.toList).head?.any isSeparator with
    | false =>
      rw [if_neg Bool.false_ne_true, Bool.false_and, Bool.not_false, Option.all_eq_true]
      exact fun c head => decide_eq_true (lowered_head_lower head)
    | true =>
      rw [if_pos rfl, Bool.true_and]
      cases (lower (trim s.toList)).find? (!isSeparator ·) with
      | none => rfl
      | some c =>
        rw [Option.bind_some, Option.any_some]
        cases (upperMapping.apply c).head? with
        | none => rfl
        | some d => rw [Option.all_some, Option.any_some, Bool.not_not]
  · next unseparated =>
    have lowered := lowerHead_eq_self_iff.mp (lowerHead_lowerHead s.toList)
    have plain : isCapitalLed s = false := by
      rw [isCapitalLed, Bool.and_eq_false_iff]
      exact Or.inl (Bool.not_eq_true _ ▸ fun first => unseparated (any_isSeparator_of_trim first))
    rw [lowered, plain, Bool.not_false]

/-- Naming a name again changes nothing exactly if the name begins in lower case, which it does if
no separator has made its first word begin with a capital. The name of a name is final. -/
theorem camelCase_camelCase_iff (s : String) :
    (camelCase (camelCase s) = camelCase s ↔ isCapitalLed s = false) ∧
    (((camelCase s).toList.head?.all fun c => decide (Lowered c)) ↔ isCapitalLed s = false) ∧
    camelCase (camelCase (camelCase s)) = camelCase (camelCase s) := by
  have lowered : ((camelCase s).toList.head?.all fun c => decide (Lowered c)) ↔
      isCapitalLed s = false := by
    rw [all_lowered_head?_camelCase, Bool.not_eq_true']
  refine ⟨?_, lowered, ?_⟩
  · rw [← lowered, ← lowerHead_eq_self_iff, ← toList_camelCase_camelCase, String.toList_inj]
  · rw [← String.toList_inj, toList_camelCase_camelCase, toList_camelCase_camelCase,
      lowerHead_lowerHead]

/-- The empty text in front of the underscore is the first word, so that `id` gets a capital. -/
theorem underscore_renamed :
    camelCase "_id" = "Id" ∧ camelCase (camelCase "_id") ≠ camelCase "_id" := by
  decide +kernel

end Naming

end LoadClients
