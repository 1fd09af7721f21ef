import LoadClients.Proofs.Template.Fragment
import Mathlib.Data.List.Chain

/-!
Path templates and their texts. Each template in canonical form is read back from its text, and a
text that is read is the text of the template that was read, so the two forms tell the same.
-/

namespace LoadClients

/-- Literal texts that stand side by side would be one. -/
structure Segment.Canonical (s : Segment) : Prop where
  fragments : ∀ f ∈ s.fragments, f.Canonical
  apart : s.fragments.IsChain fun f g => ¬ (f.isLiteral ∧ g.isLiteral)

structure Template.Canonical (t : Template) : Prop where
  nonempty : t.segments ≠ []
  segments : ∀ s ∈ t.segments, s.Canonical

theorem Segment.toList_text_cons (f : Fragment) (fs : List Fragment) :
    (Segment.mk (f :: fs)).text.toList = f.text.toList ++ (Segment.mk fs).text.toList := by
  simp [Segment.text, String.toList_join]

namespace Template

theorem toList_text_cons (s : Segment) (ss : List Segment) :
    (Template.mk (s :: ss)).text.toList =
      '/' :: (s.text.toList ++ (Template.mk ss).text.toList) := by
  simp [Template.text, String.toList_join]

theorem takeFragment_slash (cs : List Char) : takeFragment ('/' :: cs) = none := by
  simp [takeFragment, endsLiteral]

/-- Only a literal fragment could go on in a canonical one, and only if that is literal too. -/
theorem endsBefore_text_iff {f g : Fragment} (hg : g.Canonical) (rest : List Char) :
    f.EndsBefore (g.text.toList ++ rest) ↔ ¬ (f.isLiteral ∧ g.isLiteral) := by
  cases g with
  | param n =>
    rw [toList_text_param]
    refine iff_of_true ?_ (fun both => Bool.noConfusion both.2)
    intro _ c hc
    cases hc
    rfl
  | literal t =>
    rw [toList_text_literal]
    cases ht : t.toList with
    | nil => exact absurd (String.toList_eq_nil_iff.mp ht) hg.1
    | cons c cs =>
      have first : endsLiteral c = false := endsLiteral_eq_false_iff.mpr (hg.2 c (by simp [ht]))
      simp [Fragment.EndsBefore, Fragment.isLiteral, first]

theorem endsBefore_segment_iff {f : Fragment} {fs : List Fragment} {rest : List Char}
    (hfs : ∀ g ∈ fs, g.Canonical) (stop : takeFragment rest = none) :
    f.EndsBefore ((Segment.mk fs).text.toList ++ rest) ↔
      ∀ g ∈ fs.head?, ¬ (f.isLiteral ∧ g.isLiteral) := by
  cases fs with
  | nil =>
    refine iff_of_true ?_ (fun g hg => by cases hg)
    intro _ c hc
    exact endsLiteral_of_takeFragment_eq_none stop c hc
  | cons g fs =>
    rw [Segment.toList_text_cons, List.append_assoc, endsBefore_text_iff (hfs g (by simp))]
    simp

theorem takeFragments_of_none {cs : List Char} (h : takeFragment cs = none) :
    takeFragments cs = ([], cs) := by
  rw [takeFragments]
  split
  · rfl
  · next taken =>
    rw [h] at taken
    cases taken

theorem takeFragments_of_some {cs rest : List Char} {f : Fragment}
    (h : takeFragment cs = some (f, rest)) :
    takeFragments cs = (f :: (takeFragments rest).1, (takeFragments rest).2) := by
  rw [takeFragments]
  split
  · next stop =>
    rw [h] at stop
    cases stop
  · next taken =>
    rw [h] at taken
    cases taken
    rfl

/-- The fragments that are read are a canonical segment, and no other could be read after them. -/
theorem takeFragments_eq_iff {cs rest : List Char} {fs : List Fragment} :
    takeFragments cs = (fs, rest) ↔
      (Segment.mk fs).Canonical ∧ cs = (Segment.mk fs).text.toList ++ rest ∧
        takeFragment rest = none := by
  constructor
  · intro h
    induction fs generalizing cs with
    | nil =>
      cases taken : takeFragment cs with
      | none =>
        rw [takeFragments_of_none taken] at h
        cases h
        exact ⟨⟨by simp, List.IsChain.nil⟩, rfl, taken⟩
      | some r =>
        rw [takeFragments_of_some taken] at h
        cases h
    | cons f fs ih =>
      cases taken : takeFragment cs with
      | none =>
        rw [takeFragments_of_none taken] at h
        cases h
      | some r =>
        obtain ⟨g, after⟩ := r
        rw [takeFragments_of_some taken] at h
        obtain ⟨heads, rest_eq⟩ := Prod.mk.inj h
        obtain ⟨rfl, tails⟩ := List.cons.inj heads
        obtain ⟨canonical, split, ends⟩ := takeFragment_eq_some_iff.mp taken
        obtain ⟨others, text, stop⟩ := ih (Prod.ext tails rest_eq)
        rw [text, endsBefore_segment_iff others.fragments stop] at ends
        refine ⟨⟨?_, List.isChain_cons.mpr ⟨ends, others.apart⟩⟩, ?_, stop⟩
        · intro f' hf
          rcases List.mem_cons.mp hf with rfl | later
          · exact canonical
          · exact others.fragments f' later
        · rw [split, text, Segment.toList_text_cons, List.append_assoc]
  · rintro ⟨canonical, rfl, stop⟩
    induction fs with
    | nil => exact takeFragments_of_none stop
    | cons f fs ih =>
      obtain ⟨apart, apart_rest⟩ := List.isChain_cons.mp canonical.apart
      have others : (Segment.mk fs).Canonical :=
        ⟨fun g hg => canonical.fragments g (List.mem_cons_of_mem f hg), apart_rest⟩
      have ends := (endsBefore_segment_iff others.fragments stop).mpr apart
      have taken := takeFragment_eq_some_iff.mpr ⟨canonical.fragments f (by simp), rfl, ends⟩
      rw [Segment.toList_text_cons, List.append_assoc, takeFragments_of_some taken, ih others]

theorem takeSegments_of_not_slash {cs : List Char} (h : ∀ tail, cs ≠ '/' :: tail) :
    takeSegments cs = ([], cs) := by
  cases cs with
  | nil => rw [takeSegments]
  | cons c cs =>
    have other : ¬ c = '/' := fun slash => h cs (by rw [slash])
    rw [takeSegments, if_neg other]

theorem takeSegments_slash {cs rest : List Char} {fs : List Fragment}
    (h : takeFragments cs = (fs, rest)) :
    takeSegments ('/' :: cs) = (⟨fs⟩ :: (takeSegments rest).1, (takeSegments rest).2) := by
  rw [takeSegments, if_pos rfl, h]

/-- A segment ends at the slash of the next one, or where the segments end. -/
theorem takeFragment_segments_eq_none {ss : List Segment} {rest : List Char}
    (stop : ss = [] → takeFragment rest = none) :
    takeFragment ((Template.mk ss).text.toList ++ rest) = none := by
  cases ss with
  | nil => exact stop rfl
  | cons s ss =>
    rw [toList_text_cons]
    exact takeFragment_slash _

/-- The segments that are read are canonical, and nothing could be read on after them. -/
theorem takeSegments_eq_iff {cs rest : List Char} {ss : List Segment} :
    takeSegments cs = (ss, rest) ↔
      (∀ s ∈ ss, s.Canonical) ∧ cs = (Template.mk ss).text.toList ++ rest ∧
        (∀ tail, rest ≠ '/' :: tail) ∧ (ss ≠ [] → takeFragment rest = none) := by
  constructor
  · intro h
    induction ss generalizing cs with
    | nil =>
      by_cases slash : ∃ tail, cs = '/' :: tail
      · obtain ⟨tail, rfl⟩ := slash
        rw [takeSegments_slash (Prod.eta (takeFragments tail)).symm] at h
        cases h
      · rw [not_exists] at slash
        rw [takeSegments_of_not_slash slash] at h
        cases h
        exact ⟨by simp, rfl, slash, fun bad => absurd rfl bad⟩
    | cons s ss ih =>
      by_cases slash : ∃ tail, cs = '/' :: tail
      · obtain ⟨tail, rfl⟩ := slash
        rw [takeSegments_slash (Prod.eta (takeFragments tail)).symm] at h
        obtain ⟨heads, rest_eq⟩ := Prod.mk.inj h
        obtain ⟨rfl, tails⟩ := List.cons.inj heads
        obtain ⟨canonical, split, stop⟩ :=
          takeFragments_eq_iff.mp (Prod.eta (takeFragments tail)).symm
        obtain ⟨others, text, slashless, last⟩ := ih (Prod.ext tails rest_eq)
        refine ⟨?_, ?_, slashless, ?_⟩
        · intro s hs
          rcases List.mem_cons.mp hs with rfl | later
          · exact canonical
          · exact others s later
        · rw [toList_text_cons, List.cons_append, List.append_assoc, ← text, ← split]
        · intro _
          cases ss with
          | nil =>
            rw [text] at stop
            exact stop
          | cons s' ss => exact last (List.cons_ne_nil s' ss)
      · rw [not_exists] at slash
        rw [takeSegments_of_not_slash slash] at h
        cases h
  · rintro ⟨canonical, rfl, slashless, stop⟩
    induction ss with
    | nil => exact takeSegments_of_not_slash slashless
    | cons s ss ih =>
      have last := stop (List.cons_ne_nil s ss)
      have taken : takeFragments (s.text.toList ++ ((Template.mk ss).text.toList ++ rest)) =
          (s.fragments, (Template.mk ss).text.toList ++ rest) :=
        takeFragments_eq_iff.mpr
          ⟨canonical s (by simp), rfl, takeFragment_segments_eq_none fun _ => last⟩
      have others := ih (fun s' hs => canonical s' (List.mem_cons_of_mem s hs)) fun _ => last
      rw [toList_text_cons, List.cons_append, List.append_assoc, takeSegments_slash taken, others]

theorem parse_eq_ok_iff_takeSegments {s : String} {t : Template} :
    parse s = .ok t ↔ t.segments ≠ [] ∧ takeSegments s.toList = (t.segments, []) := by
  obtain ⟨ss⟩ := t
  unfold parse
  split
  · next g gs taken =>
    rw [taken]
    constructor
    · intro h
      cases h
      exact ⟨List.cons_ne_nil g gs, rfl⟩
    · rintro ⟨_, h⟩
      cases h
      rfl
  · next absent taken =>
    refine iff_of_false (fun h => by cases h) ?_
    rintro ⟨nonempty, h⟩
    cases ss with
    | nil => exact nonempty rfl
    | cons g gs =>
      obtain ⟨segments, rest⟩ := Prod.mk.inj (taken.symm.trans h)
      exact absent g gs segments rest

/-- What is read is the canonical template with the given text. -/
theorem parse_eq_ok_iff_text {s : String} {t : Template} :
    parse s = .ok t ↔ t.Canonical ∧ s = t.text := by
  rw [parse_eq_ok_iff_takeSegments, takeSegments_eq_iff, List.append_nil, String.toList_inj]
  constructor
  · rintro ⟨nonempty, segments, text, _⟩
    exact ⟨⟨nonempty, segments⟩, text⟩
  · rintro ⟨⟨nonempty, segments⟩, text⟩
    exact ⟨nonempty, segments, text, by simp, fun _ => rfl⟩

end Template

end LoadClients
