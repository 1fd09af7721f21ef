import LoadClients.Proofs.Template.RoundTrip

/-!
Which texts are path templates. A text is one if it begins with a slash and its braces come in
groups around names.
-/

namespace LoadClients.Template

/-- A text that can stand between braces. -/
def IsName (cs : List Char) : Prop := cs ≠ [] ∧ ∀ c ∈ cs, c ≠ '\x7b' ∧ c ≠ '\x7d'

/-- Every brace is one of the two around a name. -/
structure BracesGrouped (cs : List Char) : Prop where
  opening : ∀ before after, cs = before ++ '\x7b' :: after →
    ∃ name rest, IsName name ∧ after = name ++ '\x7d' :: rest
  closing : ∀ before after, cs = before ++ '\x7d' :: after →
    ∃ rest name, IsName name ∧ before = rest ++ '\x7b' :: name

/-- An element of two lists in a row is one of the second or one of the first. -/
theorem split_append {α : Type} {xs ys before after : List α} {a : α}
    (h : xs ++ ys = before ++ a :: after) :
    (∃ mid, before = xs ++ mid ∧ ys = mid ++ a :: after) ∨
      ∃ mid, xs = before ++ a :: mid ∧ after = mid ++ ys := by
  rcases List.append_eq_append_iff.mp h with ⟨mid, hb, hy⟩ | ⟨mid, hx, ha⟩
  · exact Or.inl ⟨mid, hb, hy⟩
  · cases mid with
    | nil =>
      rw [List.append_nil] at hx
      exact Or.inl ⟨[], by rw [hx, List.append_nil], ha.symm⟩
    | cons b mid =>
      obtain ⟨rfl, rfl⟩ := List.cons.inj ha
      exact Or.inr ⟨mid, hx, rfl⟩

namespace BracesGrouped

theorem append {xs ys : List Char} (hx : BracesGrouped xs) (hy : BracesGrouped ys) :
    BracesGrouped (xs ++ ys) := by
  constructor
  · intro before after h
    rcases split_append h with ⟨mid, _, rest⟩ | ⟨mid, first, rfl⟩
    · exact hy.opening mid after rest
    · obtain ⟨name, rest, isName, rfl⟩ := hx.opening before mid first
      exact ⟨name, rest ++ ys, isName, by simp⟩
  · intro before after h
    rcases split_append h with ⟨mid, rfl, rest⟩ | ⟨mid, first, _⟩
    · obtain ⟨rest', name, isName, rfl⟩ := hy.closing mid after rest
      exact ⟨xs ++ rest', name, isName, by simp⟩
    · exact hx.closing before mid first

/-- Where there are no braces, all of them are in groups. -/
theorem of_plain {cs : List Char} (h : ∀ c ∈ cs, c ≠ '\x7b' ∧ c ≠ '\x7d') : BracesGrouped cs := by
  constructor
  · rintro before after rfl
    exact absurd rfl (h '\x7b' (by simp)).1
  · rintro before after rfl
    exact absurd rfl (h '\x7d' (by simp)).2

theorem group {name : List Char} (h : IsName name) :
    BracesGrouped ('\x7b' :: (name ++ ['\x7d'])) := by
  have no_open : '\x7b' ∉ name ++ ['\x7d'] := by
    intro bad
    rcases List.mem_append.mp bad with inside | last
    · exact (h.2 _ inside).1 rfl
    · cases List.mem_singleton.mp last
  constructor
  · intro before after eq
    cases before with
    | nil =>
      obtain ⟨_, rfl⟩ := List.cons.inj eq
      exact ⟨name, [], h, rfl⟩
    | cons b before =>
      obtain ⟨_, tail⟩ := List.cons.inj eq
      exact absurd (by rw [tail]; simp) no_open
  · intro before after eq
    cases before with
    | nil => cases (List.cons.inj eq).1
    | cons b before =>
      obtain ⟨rfl, tail⟩ := List.cons.inj eq
      rcases split_append tail with ⟨mid, rfl, single⟩ | ⟨mid, inside, _⟩
      · cases mid with
        | nil => exact ⟨[], name, h, by simp⟩
        | cons c mid => simp at single
      · exact absurd rfl (h.2 '\x7d' (by rw [inside]; simp)).2

theorem fragment {f : Fragment} (h : f.Canonical) : BracesGrouped f.text.toList := by
  cases f with
  | literal t => exact of_plain fun c hc => (h.2 c hc).2
  | param n =>
    rw [toList_text_param]
    exact group ⟨fun empty => h.1 (String.toList_eq_nil_iff.mp empty), h.2⟩

theorem segment {fs : List Fragment} (h : ∀ f ∈ fs, f.Canonical) :
    BracesGrouped (Segment.mk fs).text.toList := by
  induction fs with
  | nil => exact of_plain (by simp [Segment.text])
  | cons f fs ih =>
    rw [Segment.toList_text_cons]
    exact (fragment (h f (by simp))).append (ih fun g hg => h g (List.mem_cons_of_mem f hg))

theorem template {ss : List Segment} (h : ∀ s ∈ ss, s.Canonical) :
    BracesGrouped (Template.mk ss).text.toList := by
  induction ss with
  | nil => exact of_plain (by simp [Template.text])
  | cons s ss ih =>
    have slash : BracesGrouped ['/'] := of_plain (by simp)
    have others := ih fun s' hs => h s' (List.mem_cons_of_mem s hs)
    rw [toList_text_cons]
    exact slash.append ((segment (h s (by simp)).fragments).append others)

/-- Segments that are read from a text with its braces in groups leave nothing of it unread. -/
theorem rest_eq_nil {cs rest : List Char} {ss : List Segment} (h : BracesGrouped cs)
    (taken : takeSegments cs = (ss, rest)) (nonempty : ss ≠ []) : rest = [] := by
  obtain ⟨canonical, text, slashless, stop⟩ := takeSegments_eq_iff.mp taken
  have none_taken := stop nonempty
  cases rest with
  | nil => rfl
  | cons c rest =>
    have ends := endsLiteral_of_takeFragment_eq_none none_taken c rfl
    by_cases opens : c = '\x7b'
    · -- an opening brace begins a parameter, which would have been read
      subst opens
      obtain ⟨name, after, isName, rfl⟩ := h.opening _ _ text
      have param : (Fragment.param (String.ofList name)).Canonical := by
        refine ⟨by simpa [← String.toList_eq_nil_iff] using isName.1, ?_⟩
        rw [String.toList_ofList]
        exact isName.2
      have read := takeFragment_param param after
      rw [toList_text_param, String.toList_ofList, List.cons_append, List.append_assoc,
        List.singleton_append, none_taken] at read
      cases read
    · by_cases closes : c = '\x7d'
      · -- a closing brace needs an opening one in what was read, where they are all closed
        subst closes
        obtain ⟨before, name, isName, unclosed⟩ := h.closing _ _ text
        obtain ⟨name', after, _, closed⟩ := (template canonical).opening before name unclosed
        exact absurd rfl (isName.2 '\x7d' (by rw [closed]; simp)).2
      · have slash : ¬ c = '/' := fun eq => slashless rest (by rw [eq])
        rw [endsLiteral_eq_false_iff.mpr ⟨slash, opens, closes⟩] at ends
        cases ends

end BracesGrouped

/-- A text is read as a template exactly if the template is canonical and writes that text. So the
texts that are read begin with a slash and have their braces in groups, and all such are read. -/
theorem parse_inverse_text (s : String) :
    (∀ t, parse s = .ok t ↔ t.Canonical ∧ s = t.text) ∧
      ((∃ t, parse s = .ok t) ↔ (∃ rest, s.toList = '/' :: rest) ∧ BracesGrouped s.toList) := by
  refine ⟨fun t => parse_eq_ok_iff_text, ?_, ?_⟩
  · rintro ⟨t, h⟩
    obtain ⟨canonical, rfl⟩ := parse_eq_ok_iff_text.mp h
    obtain ⟨ss⟩ := t
    refine ⟨?_, BracesGrouped.template canonical.segments⟩
    cases ss with
    | nil => exact absurd rfl canonical.nonempty
    | cons s ss => exact ⟨_, toList_text_cons s ss⟩
  · rintro ⟨⟨rest, slash⟩, grouped⟩
    cases taken : takeSegments s.toList with
    | mk ss left =>
      have nonempty : ss ≠ [] := by
        rw [slash, takeSegments_slash (Prod.eta (takeFragments rest)).symm] at taken
        rw [← (Prod.mk.inj taken).1]
        exact List.cons_ne_nil _ _
      rw [grouped.rest_eq_nil taken nonempty] at taken
      exact ⟨⟨ss⟩, parse_eq_ok_iff_takeSegments.mpr ⟨nonempty, taken⟩⟩

end LoadClients.Template
