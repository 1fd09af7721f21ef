import LoadClients.Proofs.Template.RoundTrip
import LoadClients.Proofs.Text.Ends

/-!
Where a text stops being a path template. What is read of a text is the longest template that the
text begins with, since cutting the text anywhere behind it changes nothing about how it is read. So
the report of a bad text points behind that template, and at the character there.
-/

namespace LoadClients

/-- A beginning of the text that is a template itself. -/
def TemplatePrefix (s p : String) : Prop := BeginsWith s p ∧ ∃ t, Template.parse p = .ok t

/-- The report points behind the longest template that the text begins with, or at the start if
there is none, and covers the character there. -/
structure BadTemplate.PointsInto (s : String) (b : BadTemplate) : Prop where
  longest : ∀ p, TemplatePrefix s p → p.utf8ByteSize ≤ b.offset
  reached : (∃ p, TemplatePrefix s p ∧ p.utf8ByteSize = b.offset) ∨
    (∀ p, ¬ TemplatePrefix s p) ∧ b.offset = 0
  start : String.Pos.Raw.IsValid s ⟨b.offset⟩
  stop : String.Pos.Raw.IsValid s ⟨b.offset + b.length⟩
  covers : s ≠ "" → ∃ before c after, s = before ++ String.singleton c ++ after ∧
    before.utf8ByteSize = b.offset ∧ c.utf8Size = b.length
  length_eq_zero_iff : b.length = 0 ↔ s = ""

namespace BadTemplate.PointsInto
variable {s : String} {b b' : BadTemplate}

/-- There is only one longest template that a text begins with. -/
theorem offset_eq (h : b.PointsInto s) (h' : b'.PointsInto s) : b.offset = b'.offset := by
  rcases h.reached with ⟨p, begins, size⟩ | ⟨none, zero⟩
  · rcases h'.reached with ⟨p', begins', size'⟩ | ⟨none', _⟩
    · have le := h'.longest p begins
      have ge := h.longest p' begins'
      omega
    · exact absurd begins (none' p)
  · rcases h'.reached with ⟨p', begins', _⟩ | ⟨_, zero'⟩
    · exact absurd begins' (none p')
    · rw [zero, zero']

/-- There is only one character at an offset. -/
theorem length_eq (h : b.PointsInto s) (h' : b'.PointsInto s) : b.length = b'.length := by
  have offset := h.offset_eq h'
  by_cases empty : s = ""
  · rw [h.length_eq_zero_iff.mpr empty, h'.length_eq_zero_iff.mpr empty]
  · obtain ⟨before, c, after, text, size, width⟩ := h.covers empty
    obtain ⟨before', c', after', text', size', width'⟩ := h'.covers empty
    have begins : BeginsWith s before := ⟨_, text.trans String.append_assoc⟩
    have begins' : BeginsWith s before' := ⟨_, text'.trans String.append_assoc⟩
    have fronts := begins.eq_of_utf8ByteSize_eq begins' (by omega)
    have characters := congrArg String.toList (text.symm.trans text')
    simp only [fronts, String.toList_append, String.toList_singleton, List.append_assoc,
      List.append_cancel_left_eq, List.singleton_append, List.cons.injEq] at characters
    rw [← width, ← width', characters.1]

theorem unique (h : b.PointsInto s) (h' : b'.PointsInto s) : b = b' := by
  have offset := h.offset_eq h'
  have length := h.length_eq h'
  cases b
  cases b'
  cases offset
  cases length
  rfl

end BadTemplate.PointsInto

namespace Template

theorem byteLength_append (xs ys : List Char) :
    byteLength (xs ++ ys) = byteLength xs + byteLength ys := by
  induction xs with
  | nil => simp [byteLength]
  | cons c cs ih =>
    simp only [List.cons_append, byteLength, ih]
    omega

theorem byteLength_eq_utf8ByteSize (cs : List Char) :
    byteLength cs = (String.ofList cs).utf8ByteSize := by
  induction cs with
  | nil => rfl
  | cons c cs ih =>
    have split : String.ofList (c :: cs) = String.singleton c ++ String.ofList cs := by simp
    rw [byteLength, ih, split, String.utf8ByteSize_append, String.utf8ByteSize_singleton]

/-- Where no fragment can be read, none could be read if the text were cut off further behind. -/
theorem takeFragment_eq_none_of_append {cs more : List Char}
    (h : takeFragment (cs ++ more) = none) : takeFragment cs = none := by
  cases taken : takeFragment cs with
  | none => rfl
  | some r =>
    obtain ⟨f, rest⟩ := r
    obtain ⟨canonical, rfl, _⟩ := takeFragment_eq_some_iff.mp taken
    rw [List.append_assoc] at h
    cases f with
    | param n =>
      rw [takeFragment_param canonical] at h
      cases h
    | literal t =>
      -- the literal text might go on in the longer text, but it begins there already
      have ends := endsLiteral_of_takeFragment_eq_none h
      cases ht : t.toList with
      | nil => exact absurd (String.toList_eq_nil_iff.mp ht) canonical.1
      | cons c cs =>
        have first := ends c (by simp [toList_text_literal, ht])
        rw [endsLiteral_eq_false_iff.mpr (canonical.2 c (by simp [ht]))] at first
        cases first

/-- Cutting a text behind the segments that are read changes nothing about them. -/
theorem takeSegments_of_append {cs rest more : List Char} {ss : List Segment}
    (h : takeSegments (cs ++ (rest ++ more)) = (ss, rest ++ more)) :
    takeSegments (cs ++ rest) = (ss, rest) := by
  obtain ⟨canonical, text, slashless, stop⟩ := takeSegments_eq_iff.mp h
  rw [List.append_cancel_right_eq] at text
  refine takeSegments_eq_iff.mpr ⟨canonical, by rw [text], ?_, ?_⟩
  · rintro tail rfl
    exact slashless (tail ++ more) rfl
  · intro nonempty
    exact takeFragment_eq_none_of_append (stop nonempty)

/-- A text is the text of the segments that are read of it, and what is left. -/
theorem eq_append_of_takeSegments {s : String} {ss : List Segment} {rest : List Char}
    (taken : takeSegments s.toList = (ss, rest)) :
    s = (Template.mk ss).text ++ String.ofList rest := by
  obtain ⟨_, text, _, _⟩ := takeSegments_eq_iff.mp taken
  rw [← String.toList_inj, text, String.toList_append, String.toList_ofList]

theorem templatePrefix_of_takeSegments {s : String} {ss : List Segment} {rest : List Char}
    (taken : takeSegments s.toList = (ss, rest)) (nonempty : ss ≠ []) :
    TemplatePrefix s (Template.mk ss).text := by
  obtain ⟨canonical, _, _, _⟩ := takeSegments_eq_iff.mp taken
  exact ⟨⟨_, eq_append_of_takeSegments taken⟩, ⟨ss⟩,
    parse_eq_ok_iff_text.mpr ⟨⟨nonempty, canonical⟩, rfl⟩⟩

/-- No template that a text begins with goes on behind what is read of the text. -/
theorem beginsWith_of_templatePrefix {s p : String} {ss : List Segment} {rest : List Char}
    (taken : takeSegments s.toList = (ss, rest)) (begins : TemplatePrefix s p) :
    BeginsWith (Template.mk ss).text p := by
  obtain ⟨⟨after, rfl⟩, t, parsed⟩ := begins
  have text := congrArg String.toList (eq_append_of_takeSegments taken)
  rw [String.toList_append, String.toList_append, String.toList_ofList] at text
  rcases List.append_eq_append_iff.mp text with ⟨mid, within, _⟩ | ⟨mid, behind, left⟩
  · exact ⟨String.ofList mid, by rw [← String.toList_inj, within]; simp⟩
  · -- then the template would be left by its own reading, which takes all of it
    rw [String.toList_append, behind, List.append_assoc, left] at taken
    have own := takeSegments_of_append taken
    rw [← behind, (parse_eq_ok_iff_takeSegments.mp parsed).2] at own
    obtain ⟨_, rfl⟩ := Prod.mk.inj own
    exact ⟨"", by rw [← String.toList_inj, String.append_empty, behind, List.append_nil]⟩

theorem parse_eq_error {s : String} {b : BadTemplate} (h : parse s = .error b) :
    ∃ ss rest, takeSegments s.toList = (ss, rest) ∧ (rest = [] → ss = []) ∧
      b.offset = (Template.mk ss).text.utf8ByteSize ∧
      b.length = (rest.head?.map Char.utf8Size).getD 0 := by
  unfold parse at h
  split at h
  · cases h
  · next ss rest absent taken =>
    cases h
    refine ⟨ss, rest, taken, ?_, ?_, rfl⟩
    · rintro rfl
      cases ss with
      | nil => rfl
      | cons g gs => exact absurd rfl (absent g gs rfl)
    · have text := congrArg String.toList (eq_append_of_takeSegments taken)
      rw [String.toList_append, String.toList_ofList] at text
      rw [text, byteLength_append, byteLength_eq_utf8ByteSize, String.ofList_toList]
      exact Nat.add_sub_cancel _ _

/-- What is read is a template, unless it is nothing: then the text begins with none. -/
theorem templatePrefix_or_none {s : String} {ss : List Segment} {rest : List Char}
    (taken : takeSegments s.toList = (ss, rest)) :
    TemplatePrefix s (Template.mk ss).text ∨ (∀ p, ¬ TemplatePrefix s p) ∧ ss = [] := by
  by_cases nonempty : ss = []
  · subst nonempty
    refine Or.inr ⟨?_, rfl⟩
    intro p begins
    obtain ⟨after, empty⟩ := beginsWith_of_templatePrefix taken begins
    obtain ⟨_, t, parsed⟩ := begins
    -- the text of no segments is empty, and that is no template
    rw [(String.append_eq_empty_iff.mp empty.symm).1, parse_eq_ok_iff_takeSegments] at parsed
    rw [String.toList_empty, takeSegments] at parsed
    exact absurd (congrArg Prod.fst parsed.2).symm parsed.1
  · exact Or.inl (templatePrefix_of_takeSegments taken nonempty)

theorem pointsInto_of_parse_eq_error {s : String} {b : BadTemplate} (h : parse s = .error b) :
    b.PointsInto s := by
  obtain ⟨ss, rest, taken, unread, offset, length⟩ := parse_eq_error h
  have text := eq_append_of_takeSegments taken
  have longest : ∀ p, TemplatePrefix s p → p.utf8ByteSize ≤ b.offset := by
    intro p begins
    rw [offset]
    exact (beginsWith_of_templatePrefix taken begins).utf8ByteSize_le
  have reached : (∃ p, TemplatePrefix s p ∧ p.utf8ByteSize = b.offset) ∨
      (∀ p, ¬ TemplatePrefix s p) ∧ b.offset = 0 := by
    rcases templatePrefix_or_none taken with begins | ⟨none, rfl⟩
    · exact Or.inl ⟨_, begins, offset.symm⟩
    · exact Or.inr ⟨none, offset⟩
  have start : String.Pos.Raw.IsValid s ⟨b.offset⟩ := by
    rw [offset]
    exact BeginsWith.isValid ⟨_, text⟩
  cases rest with
  | nil =>
    have empty : s = "" := by
      rw [text, unread rfl]
      rfl
    exact ⟨longest, reached, start, by rwa [length], fun other => absurd empty other,
      iff_of_true length empty⟩
  | cons c rest =>
    have width : c.utf8Size = b.length := length.symm
    have split : s = (Template.mk ss).text ++ String.singleton c ++ String.ofList rest := by
      rw [text, String.append_assoc, String.append_right_inj]
      simp
    have stop : String.Pos.Raw.IsValid s ⟨b.offset + b.length⟩ := by
      have valid := BeginsWith.isValid ⟨_, split⟩
      rwa [String.utf8ByteSize_append, String.utf8ByteSize_singleton, width, ← offset] at valid
    have nonempty : s ≠ "" := by
      rw [split]
      simp
    have positive : b.length ≠ 0 := by
      rw [← width]
      exact (Char.utf8Size_pos c).ne'
    exact ⟨longest, reached, start, stop, fun _ => ⟨_, c, _, split, offset.symm, width⟩,
      iff_of_false positive nonempty⟩

/-- A text that is no template is reported, and the report is the only one that points behind the
longest template that the text begins with, at the one character there. -/
theorem parse_eq_error_iff (s : String) (b : BadTemplate) :
    parse s = .error b ↔ (∀ t, parse s ≠ .ok t) ∧ b.PointsInto s := by
  constructor
  · intro h
    refine ⟨?_, pointsInto_of_parse_eq_error h⟩
    intro t parsed
    rw [h] at parsed
    cases parsed
  · rintro ⟨rejected, points⟩
    cases parsed : parse s with
    | ok t => exact absurd parsed (rejected t)
    | error b' => rw [(pointsInto_of_parse_eq_error parsed).unique points]

example : parse "/é/\x7ba" = .error ⟨4, 1⟩ ∧ parse "é/" = .error ⟨0, 2⟩ := by decide +kernel

end Template

end LoadClients
