import LoadClients.Proofs.Template.RoundTrip

/-!
Texts with holes. A path template is a text in which names stand in braces, and there is only one way
to see it so. What the template is made into by putting something else for its names keeps all of the
text around them.
-/

namespace LoadClients

def Braceless (s : String) : Prop := ∀ c ∈ s.toList, c ≠ '\x7b' ∧ c ≠ '\x7d'

namespace Braceless
variable {s t : String}

theorem not_mem (h : Braceless s) : '\x7b' ∉ s.toList ∧ '\x7d' ∉ s.toList :=
  ⟨fun bad => (h _ bad).1 rfl, fun bad => (h _ bad).2 rfl⟩

theorem append (hs : Braceless s) (ht : Braceless t) : Braceless (s ++ t) := by
  intro c hc
  rw [String.toList_append] at hc
  exact (List.mem_append.mp hc).elim (hs c) (ht c)

end Braceless

def Fragment.fill (f : String → String) : Fragment → String
  | literal t => t
  | param n => f n

/-- A literal text without braces, or a name that fits between braces. -/
def Fragment.Plain : Fragment → Prop
  | literal t => Braceless t
  | param n => n ≠ "" ∧ Braceless n

theorem Fragment.Canonical.plain {f : Fragment} (h : f.Canonical) : f.Plain := by
  cases f with
  | literal t => exact fun c hc => (h.2 c hc).2
  | param n => exact h

/-- A text in front of all holes, and the name of each hole with the text behind it. -/
@[ext] structure Pattern where
  front : String
  holes : List (String × String)
deriving DecidableEq, Repr

namespace Pattern

def behind (f : String → String) (holes : List (String × String)) : String :=
  String.join (holes.map fun h => f h.1 ++ h.2)

/-- The text that results from putting something for each name. -/
def fill (f : String → String) (p : Pattern) : String := p.front ++ behind f p.holes

def braced (name : String) : String := "\x7b" ++ name ++ "\x7d"

/-- The text in which the names stand in braces. -/
def text (p : Pattern) : String := p.fill braced

structure PlainHole (h : String × String) : Prop where
  nonempty : h.1 ≠ ""
  name : Braceless h.1
  after : Braceless h.2

/-- No braces but those around names, which are not empty. -/
structure Plain (p : Pattern) : Prop where
  front : Braceless p.front
  holes : ∀ h ∈ p.holes, PlainHole h

/-- Texts that end where a character first stands are told apart by what is in front of it. -/
theorem split_inj {c : Char} {a b x y : List Char} (ha : c ∉ a) (hb : c ∉ b)
    (hx : ∀ d ∈ x.head?, d = c) (hy : ∀ d ∈ y.head?, d = c) (h : a ++ x = b ++ y) :
    a = b ∧ x = y := by
  have spans {a x : List Char} (ha : c ∉ a) (hx : ∀ d ∈ x.head?, d = c) :
      (a ++ x).takeWhile (fun d => d ≠ c) = a ∧ (a ++ x).dropWhile (fun d => d ≠ c) = x := by
    refine span_eq_iff.mpr ⟨rfl, ?_, ?_⟩
    · intro d hd
      exact decide_eq_true fun same => ha (same ▸ hd)
    · intro d hd
      simp [hx d hd]
  obtain ⟨taken, dropped⟩ := spans ha hx
  rw [h] at taken dropped
  obtain ⟨taken', dropped'⟩ := spans hb hy
  exact ⟨taken.symm.trans taken', dropped.symm.trans dropped'⟩

theorem toList_behind_cons (name after : String) (holes : List (String × String)) :
    (behind braced ((name, after) :: holes)).toList =
      '\x7b' :: (name.toList ++ '\x7d' :: (after.toList ++ (behind braced holes).toList)) := by
  simp [behind, braced, String.toList_join]

/-- What stands behind a text is a brace, if it is anything. -/
theorem head?_behind (holes : List (String × String)) :
    ∀ c ∈ (behind braced holes).toList.head?, c = '\x7b' := by
  cases holes with
  | nil => simp [behind]
  | cons h holes =>
    rw [toList_behind_cons]
    rintro c ⟨⟩
    rfl

theorem behind_inj {hs hs' : List (String × String)}
    (plain : ∀ h ∈ hs, PlainHole h) (plain' : ∀ h ∈ hs', PlainHole h)
    (same : (behind braced hs).toList = (behind braced hs').toList) : hs = hs' := by
  induction hs generalizing hs' with
  | nil =>
    cases hs' with
    | nil => rfl
    | cons h' hs' =>
      rw [toList_behind_cons] at same
      cases same
  | cons h hs ih =>
    cases hs' with
    | nil =>
      rw [toList_behind_cons] at same
      cases same
    | cons h' hs' =>
      have first := plain h (by simp)
      have first' := plain' h' (by simp)
      rw [toList_behind_cons, toList_behind_cons] at same
      -- a name ends at the closing brace, and the text behind it at the next opening one
      obtain ⟨names, rest⟩ := split_inj first.name.not_mem.2 first'.name.not_mem.2
        (by simp) (by simp) (List.cons.inj same).2
      obtain ⟨afters, rest⟩ := split_inj first.after.not_mem.1 first'.after.not_mem.1
        (head?_behind hs) (head?_behind hs') (List.cons.inj rest).2
      have others := ih (fun h hh => plain h (by simp [hh])) (fun h hh => plain' h (by simp [hh])) rest
      rw [Prod.ext (String.toList_inj.mp names) (String.toList_inj.mp afters), others]

/-- A text has at most one pattern. -/
theorem text_inj {p q : Pattern} (hp : p.Plain) (hq : q.Plain) (h : p.text = q.text) : p = q := by
  unfold text fill at h
  rw [← String.toList_inj, String.toList_append, String.toList_append] at h
  obtain ⟨fronts, rest⟩ := split_inj hp.front.not_mem.1 hq.front.not_mem.1 (head?_behind p.holes)
    (head?_behind q.holes) h
  exact Pattern.ext (String.toList_inj.mp fronts) (behind_inj hp.holes hq.holes rest)

/-- Fragments side by side: literal texts are put together, and parameters are the holes. -/
def ofFragments : List Fragment → Pattern
  | [] => ⟨"", []⟩
  | .literal t :: fs => let p := ofFragments fs; ⟨t ++ p.front, p.holes⟩
  | .param n :: fs => let p := ofFragments fs; ⟨"", (n, p.front) :: p.holes⟩

theorem fill_ofFragments (f : String → String) (fs : List Fragment) :
    (ofFragments fs).fill f = String.join (fs.map (Fragment.fill f)) := by
  induction fs with
  | nil => rfl
  | cons g fs ih =>
    rw [List.map_cons, String.join_cons, ← ih]
    cases g with
    | literal t => exact String.append_assoc
    | param n => simp [ofFragments, fill, behind, Fragment.fill, String.append_assoc]

theorem plain_ofFragments {fs : List Fragment} (h : ∀ f ∈ fs, f.Plain) :
    (ofFragments fs).Plain := by
  induction fs with
  | nil => exact ⟨by simp [ofFragments, Braceless], by simp [ofFragments]⟩
  | cons f fs ih =>
    obtain ⟨front, holes⟩ := ih fun g hg => h g (List.mem_cons_of_mem f hg)
    have first := h f (by simp)
    cases f with
    | literal t => exact ⟨first.append front, holes⟩
    | param n =>
      refine ⟨by simp [ofFragments, Braceless], ?_⟩
      exact List.forall_mem_cons.mpr ⟨⟨first.1, first.2, front⟩, holes⟩

end Pattern

namespace Template

/-- The fragments of all segments, with their slashes. -/
def pieces (t : Template) : List Fragment :=
  t.segments.flatMap fun s => .literal "/" :: s.fragments

def pattern (t : Template) : Pattern := Pattern.ofFragments t.pieces

/-- Putting something for each name keeps the slashes and the literal texts. -/
theorem fill_pattern (f : String → String) (t : Template) :
    t.pattern.fill f = String.join (t.segments.map fun s =>
      "/" ++ String.join (s.fragments.map (Fragment.fill f))) := by
  rw [pattern, Pattern.fill_ofFragments, pieces, List.map_flatMap]
  induction t.segments with
  | nil => rfl
  | cons s ss ih =>
    rw [List.flatMap_cons, List.map_cons, String.join_append, String.join_cons, ih, List.map_cons,
      String.join_cons]
    rfl

theorem text_pattern (t : Template) : t.pattern.text = t.text := by
  have fragment : Fragment.fill Pattern.braced = Fragment.text := by
    funext f
    cases f <;> rfl
  rw [Pattern.text, fill_pattern, fragment]
  rfl

theorem plain_pattern {t : Template} (h : t.Canonical) : t.pattern.Plain := by
  apply Pattern.plain_ofFragments
  intro f hf
  obtain ⟨s, hs, hf⟩ := List.mem_flatMap.mp hf
  rcases List.mem_cons.mp hf with rfl | inside
  · intro c hc
    cases List.mem_singleton.mp hc
    decide
  · exact ((h.segments s hs).fragments f inside).plain

/-- The text that is read as a template has one pattern, that of the template. -/
theorem existsUnique_pattern {s : String} {t : Template} (h : parse s = .ok t) :
    (t.pattern.Plain ∧ s = t.pattern.text) ∧ ∀ p : Pattern, p.Plain → s = p.text → p = t.pattern := by
  obtain ⟨canonical, rfl⟩ := parse_eq_ok_iff_text.mp h
  have plain := plain_pattern canonical
  refine ⟨⟨plain, t.text_pattern.symm⟩, ?_⟩
  intro p hp same
  exact Pattern.text_inj hp plain (same.symm.trans t.text_pattern.symm)

end Template

end LoadClients
