import LoadClients.Proofs.Path.Names

/-!
What a path is called: the name at its end, and the stem of that name. Both are told from how the
text is put together.
-/

namespace LoadClients.Path

/-- A path ends in a name. What stands behind it does not lead on. -/
def EndsIn (path name : String) : Prop :=
  IsProper name ∧ ∃ before after,
    names path = before ++ name :: after ∧ ∀ n ∈ after, staysHere n = true

/-- The stem of a name is what its last point comes behind, or all of it if nothing does. -/
inductive IsStem : String → String → Prop where
  | whole {name : String} (pointless : '.' ∉ name.toList.tail) : IsStem name name
  | front {stem extension : String} (nonempty : stem ≠ "") (pointless : '.' ∉ extension.toList) :
      IsStem (stem ++ "." ++ extension) stem

def HasStem (path stem : String) : Prop := ∃ name, EndsIn path name ∧ IsStem name stem

variable {path name stem : String}

theorem getLast?_leading_eq_some_iff :
    ((names path).filter (!staysHere ·)).getLast? = some name ↔
      staysHere name = false ∧ ∃ before after,
        names path = before ++ name :: after ∧ ∀ n ∈ after, staysHere n = true := by
  rw [List.getLast?_filter, List.find?_eq_some_iff_append, Bool.not_eq_true']
  refine and_congr_right fun _ => ⟨?_, ?_⟩
  · rintro ⟨after, before, split, passed⟩
    refine ⟨before.reverse, after.reverse, ?_, ?_⟩
    · rw [← List.reverse_reverse (names path), split]
      simp
    · simpa using passed
  · rintro ⟨before, after, split, passed⟩
    refine ⟨after.reverse, before.reverse, ?_, ?_⟩
    · rw [split]
      simp
    · simpa using passed

theorem fileName?_eq_some_iff : fileName? path = some name ↔ EndsIn path name := by
  have descends : fileName? path = some name ↔
      ((names path).filter (!staysHere ·)).getLast? = some name ∧ name ≠ ".." := by
    unfold fileName?
    cases ((names path).filter (!staysHere ·)).getLast? with
    | none => simp
    | some n =>
      by_cases up : n = ".."
      · simp only [up, if_true, Option.some.injEq]
        exact ⟨nofun, fun h => absurd h.1.symm h.2⟩
      · simp only [up, if_false, Option.some.injEq]
        exact ⟨fun h => ⟨h, h ▸ up⟩, And.left⟩
  rw [descends, getLast?_leading_eq_some_iff]
  constructor
  · rintro ⟨⟨leads, before, after, split, passed⟩, descends⟩
    have slashless : '/' ∉ name.toList := slashless_of_mem_names (by rw [split]; simp)
    exact ⟨⟨slashless, leads, descends⟩, before, after, split, passed⟩
  · rintro ⟨proper, placed⟩
    exact ⟨⟨proper.leads, placed⟩, proper.descends⟩

theorem splitExtension_of_pointless {cs : List Char} (h : '.' ∉ cs) :
    splitExtension cs = (cs, none) := by
  have all : cs.reverse.takeWhile (· ≠ '.') = cs.reverse := by
    rw [← List.append_nil cs.reverse, List.takeWhile_append_of_pos]
    · simp
    · intro c hc
      exact decide_eq_true fun point => h (point ▸ List.mem_reverse.mp hc)
  rw [splitExtension, all]
  simp

theorem splitExtension_append {extension : List Char} (h : '.' ∉ extension) (front : List Char) :
    splitExtension (front ++ '.' :: extension) =
      if front.isEmpty then (front ++ '.' :: extension, none) else (front, some extension) := by
  have behind : (front ++ '.' :: extension).reverse.takeWhile (· ≠ '.') = extension.reverse := by
    rw [List.reverse_append, List.reverse_cons, List.append_assoc, List.takeWhile_append_of_pos]
    · simp
    · intro c hc
      exact decide_eq_true fun point => h (point ▸ List.mem_reverse.mp hc)
  have before : (front ++ '.' :: extension).take
      ((front ++ '.' :: extension).length - extension.length - 1) = front := by
    apply List.take_left'
    simp only [List.length_append, List.length_cons]
    omega
  rw [splitExtension, behind, List.reverse_reverse, before]

/-- A text has no point, or a last one. -/
theorem pointless_or_split (cs : List Char) :
    '.' ∉ cs ∨ ∃ front extension, cs = front ++ '.' :: extension ∧ '.' ∉ extension := by
  by_cases point : '.' ∈ cs
  · obtain ⟨extension, front, split, first⟩ :=
      List.eq_append_cons_of_mem (List.mem_reverse.mpr point)
    refine Or.inr ⟨front.reverse, extension.reverse, ?_, by simpa using first⟩
    rw [← List.reverse_reverse cs, split]
    simp
  · exact Or.inl point

theorem isStem_iff : IsStem name stem ↔ String.ofList (splitExtension name.toList).1 = stem := by
  constructor
  · rintro (pointless | @⟨_, extension, nonempty, pointless⟩)
    · cases chars : name.toList with
      | nil => simpa [splitExtension_of_pointless] using chars.symm
      | cons c cs =>
        rw [chars, List.tail_cons] at pointless
        by_cases point : c = '.'
        -- the only point begins the name, so that nothing stands in front of it
        · have split := splitExtension_append pointless []
          rw [List.nil_append, List.isEmpty_nil, if_pos rfl] at split
          rw [point, split, ← point, ← chars, String.ofList_toList]
        · have none : '.' ∉ c :: cs := fun mem => (List.mem_cons.mp mem).elim (point ·.symm) pointless
          rw [splitExtension_of_pointless none, ← chars, String.ofList_toList]
    · have chars : (stem ++ "." ++ extension).toList = stem.toList ++ '.' :: extension.toList := by
        simp
      rw [chars, splitExtension_append pointless, if_neg (by simpa using nonempty),
        String.ofList_toList]
  · rintro rfl
    rcases pointless_or_split name.toList with pointless | ⟨front, extension, chars, pointless⟩
    · rw [splitExtension_of_pointless pointless, String.ofList_toList]
      exact .whole fun mem => pointless (List.mem_of_mem_tail mem)
    · rw [chars, splitExtension_append pointless]
      split
      · next empty =>
        rw [List.isEmpty_iff.mp empty, List.nil_append] at chars ⊢
        rw [← chars, String.ofList_toList]
        exact .whole (by rwa [chars])
      · next nonempty =>
        have parts : name = String.ofList front ++ "." ++ String.ofList extension := by
          rw [← String.toList_inj, chars]
          simp
        rw [parts]
        exact .front (by simpa using nonempty) (by simpa using pointless)

theorem stem?_eq_some_iff : stem? path = some stem ↔ HasStem path stem := by
  simp only [stem?, Option.map_eq_some_iff, fileName?_eq_some_iff, HasStem, isStem_iff]

theorem IsStem.ne_empty (h : IsStem name stem) (proper : IsProper name) : stem ≠ "" := by
  cases h with
  | whole =>
    rintro rfl
    exact absurd proper.leads (by decide)
  | front nonempty => exact nonempty

theorem IsStem.slashless (h : IsStem name stem) (proper : IsProper name) : '/' ∉ stem.toList := by
  cases h with
  | whole => exact proper.slashless
  | front =>
    have clean := proper.slashless
    rw [String.toList_append, String.toList_append, List.mem_append, List.mem_append] at clean
    exact fun slash => clean (Or.inl (Or.inl slash))

end LoadClients.Path
