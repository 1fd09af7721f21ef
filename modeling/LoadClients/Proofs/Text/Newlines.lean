import LoadClients.Proofs.Text.Lines

/-!
The lines of a text in another way: all breaks are made line feeds first, and the text is cut at
those. And the lines as slices, taken one after the other from the front of the text by byte
offsets: each of them begins and ends where characters do, since a break takes one byte for every
character of it.
-/

namespace LoadClients.Text

/-- Every occurrence of `mark`, from the left, is replaced. -/
def replaceAll (mark replacement : List Char) : List Char → List Char
  | [] => []
  | c :: cs =>
    if mark.isPrefixOf (c :: cs) then
      replacement ++ replaceAll mark replacement (cs.drop (mark.length - 1))
    else c :: replaceAll mark replacement cs
termination_by cs => cs.length

/-- The text with line feeds for all breaks. Those of two characters come first. -/
def unifyBreaks (cs : List Char) : List Char :=
  replaceAll ['\r'] ['\n'] (replaceAll ['\r', '\n'] ['\n'] cs)

theorem replaceAll_append {mark : List Char} (nonempty : mark ≠ []) (replacement cs : List Char) :
    replaceAll mark replacement (mark ++ cs) = replacement ++ replaceAll mark replacement cs := by
  cases mark with
  | nil => exact absurd rfl nonempty
  | cons c mark => simp [replaceAll]

theorem replaceAll_cons {mark : List Char} {c : Char} {cs : List Char} (other : ¬ mark <+: c :: cs)
    (replacement : List Char) :
    replaceAll mark replacement (c :: cs) = c :: replaceAll mark replacement cs := by
  rw [replaceAll, if_neg]
  rwa [List.isPrefixOf_iff_prefix]

theorem unifyBreaks_pair (cs : List Char) :
    unifyBreaks ('\r' :: '\n' :: cs) = '\n' :: unifyBreaks cs := by
  have pair : replaceAll ['\r', '\n'] ['\n'] ('\r' :: '\n' :: cs) =
      '\n' :: replaceAll ['\r', '\n'] ['\n'] cs :=
    replaceAll_append (List.cons_ne_nil _ _) ['\n'] cs
  have feed : ∀ cs, ¬ ['\r'] <+: '\n' :: cs := by simp
  rw [unifyBreaks, pair, replaceAll_cons (feed _), unifyBreaks]

theorem unifyBreaks_cons {c : Char} {cs : List Char} (alone : ¬ ['\r', '\n'] <+: c :: cs) :
    unifyBreaks (c :: cs) = (if c = '\r' then '\n' else c) :: unifyBreaks cs := by
  rw [unifyBreaks, replaceAll_cons alone]
  split
  · next carriage =>
    subst carriage
    exact replaceAll_append (List.cons_ne_nil _ _) ['\n'] _
  · next other =>
    have plain : ∀ cs, ¬ ['\r'] <+: c :: cs := by simpa using fun h => other h.symm
    exact replaceAll_cons (plain _) _

theorem splitOn_cons_self (c : Char) (cs : List Char) :
    (c :: cs).splitOn c = [] :: cs.splitOn c := by
  simp [List.splitOn, List.splitOnP_cons_eq_if_modifyHead]

theorem splitOn_cons_of_ne {c d : Char} (h : c ≠ d) (cs : List Char) :
    (c :: cs).splitOn d = prependToHead c (cs.splitOn d) := by
  have nonempty : cs.splitOn d ≠ [] := List.splitOnP_ne_nil _ _
  have other : (c == d) = false := beq_false_of_ne h
  rw [List.splitOn, List.splitOnP_cons_eq_if_modifyHead, other, if_neg Bool.false_ne_true]
  change (cs.splitOn d).modifyHead (c :: ·) = _
  obtain ⟨first, rest, parts⟩ := List.exists_cons_of_ne_nil nonempty
  rw [parts]
  rfl

/-- Reading breaks as they come is cutting at line feeds after all breaks are made such. -/
theorem splitLines_eq_splitOn (cs : List Char) : splitLines cs = (unifyBreaks cs).splitOn '\n' := by
  fun_induction splitLines cs with
  | case1 => simp [unifyBreaks, replaceAll]
  | case2 cs ih => rw [unifyBreaks_pair, splitOn_cons_self, ih]
  | case3 c cs pair kind ih =>
    have alone : ¬ ['\r', '\n'] <+: c :: cs := by
      rintro ⟨cs', same⟩
      cases same
      exact pair cs' rfl rfl
    have feed : (if c = '\r' then '\n' else c) = '\n' := by
      rcases kind with rfl | rfl <;> rfl
    rw [unifyBreaks_cons alone, feed, splitOn_cons_self, ih]
  | case4 c cs pair plain ih =>
    rw [not_or] at plain
    have alone : ¬ ['\r', '\n'] <+: c :: cs := by
      rintro ⟨cs', same⟩
      cases same
      exact plain.1 rfl
    rw [unifyBreaks_cons alone, if_neg plain.1, splitOn_cons_of_ne plain.2, ih]

/-- The byte offset of the first break. -/
def breakOffset? (s : String) : Option Nat :=
  if s.toList.any isBreak then
    some (String.ofList (s.toList.takeWhile (!isBreak ·))).utf8ByteSize
  else none

/-- The text is cut at a byte offset. There has to be the end of a character. -/
def CutsAt (s : String) (offset : Nat) (front back : String) : Prop :=
  s = front ++ back ∧ front.utf8ByteSize = offset

/-- The slices that are taken of a text: the line in front of its first break, and what is left
behind that break, which is cut off at the offset after that of the break, or is what follows a
line feed if the break is one of two characters. -/
inductive Slicing : String → List String → Prop
  | last {rest : String} (unbroken : breakOffset? rest = none) : Slicing rest [rest]
  | pair {rest line next : String} {offset : Nat} {ls : List String}
    (found : breakOffset? rest = some offset) (front : CutsAt rest offset line ("\r\n" ++ next))
    (later : Slicing next ls) : Slicing rest (line :: ls)
  | single {rest line back passed next : String} {offset : Nat} {ls : List String}
    (found : breakOffset? rest = some offset) (front : CutsAt rest offset line back)
    (alone : ∀ t, back ≠ "\r\n" ++ t) (behind : CutsAt rest (offset + 1) passed next)
    (later : Slicing next ls) : Slicing rest (line :: ls)

theorem breakOffset?_eq_none {l : List Char} (h : Unbroken l) :
    breakOffset? (String.ofList l) = none := by
  rw [breakOffset?, if_neg]
  simpa [Unbroken] using h

theorem breakOffset?_append_cons {l : List Char} (h : Unbroken l) {c : Char} (hc : isBreak c)
    (cs : List Char) :
    breakOffset? (String.ofList (l ++ c :: cs)) = some (String.ofList l).utf8ByteSize := by
  have plain : ∀ d ∈ l, (!isBreak d) = true := by
    intro d hd
    rw [h d hd]
    rfl
  have front : (l ++ c :: cs).takeWhile (!isBreak ·) = l := by
    rw [List.takeWhile_append_of_pos plain]
    simp [hc]
  rw [breakOffset?, String.toList_ofList, if_pos (by simp [hc]), front]

namespace Slicing
variable {l : List Char} (unbroken : Unbroken l) {ls : List String}
include unbroken

theorem of_pair {next : List Char} (later : Slicing (String.ofList next) ls) :
    Slicing (String.ofList (l ++ '\r' :: '\n' :: next)) (String.ofList l :: ls) := by
  have text : String.ofList (l ++ '\r' :: '\n' :: next) =
      String.ofList l ++ ("\r\n" ++ String.ofList next) := by
    rw [← String.toList_inj]
    simp
  exact .pair (breakOffset?_append_cons unbroken rfl _) ⟨text, rfl⟩ later

theorem of_isBreak {c : Char} (hc : isBreak c) {rest : List Char}
    (alone : c = '\r' → rest.head? ≠ some '\n') (later : Slicing (String.ofList rest) ls) :
    Slicing (String.ofList (l ++ c :: rest)) (String.ofList l :: ls) := by
  have front : CutsAt (String.ofList (l ++ c :: rest)) (String.ofList l).utf8ByteSize
      (String.ofList l) (String.ofList (c :: rest)) := ⟨String.ofList_append, rfl⟩
  have lone : ∀ t, String.ofList (c :: rest) ≠ "\r\n" ++ t := by
    intro t same
    have chars := congrArg String.toList same
    rw [String.toList_ofList, String.toList_append] at chars
    cases chars
    exact alone rfl rfl
  -- the offset behind the break is the end of a character since the break takes one byte
  have byte : (String.ofList [c]).utf8ByteSize = 1 := by
    rcases of_decide_eq_true hc with rfl | rfl <;> decide
  have behind : CutsAt (String.ofList (l ++ c :: rest)) ((String.ofList l).utf8ByteSize + 1)
      (String.ofList (l ++ [c])) (String.ofList rest) := by
    constructor
    · rw [← String.ofList_append, List.append_assoc, List.singleton_append]
    · rw [String.ofList_append, String.utf8ByteSize_append, byte]
  exact .single (breakOffset?_append_cons unbroken hc rest) front lone behind later

/-- All slices can be taken, and they are the lines. -/
theorem splitLines_append (cs : List Char) :
    Slicing (String.ofList (l ++ cs)) ((splitLines (l ++ cs)).map String.ofList) := by
  fun_induction splitLines cs generalizing l with
  | case1 =>
    rw [List.append_nil, splitLines_unbroken unbroken]
    exact .last (breakOffset?_eq_none unbroken)
  | case2 cs ih =>
    have first : splitLines ('\r' :: '\n' :: cs) = [] :: splitLines cs := rfl
    rw [splitLines_unbroken_append_of_first unbroken first]
    exact of_pair unbroken (ih unbroken_nil)
  | case3 c cs pair kind ih =>
    have alone : c = '\r' → cs.head? ≠ some '\n' := by
      intro carriage feed
      obtain ⟨next, rfl⟩ := List.head?_eq_some_iff.mp feed
      exact pair next carriage rfl
    have first := splitLines_cons_of_isBreak (decide_eq_true kind) alone
    rw [splitLines_unbroken_append_of_first unbroken first]
    exact of_isBreak unbroken (decide_eq_true kind) alone (ih unbroken_nil)
  | case4 c cs _ plain ih =>
    have longer : Unbroken (l ++ [c]) :=
      List.forall_mem_append.mpr ⟨unbroken, List.forall_mem_singleton.mpr (decide_eq_false plain)⟩
    have sliced := ih longer
    rwa [List.append_assoc, List.singleton_append] at sliced

end Slicing

/-- The lines of a text are what stands between the line feeds once every break is made one, and
they are slices of it from character to character. There is a line at least, none holds a part of a
break, and with line feeds between them they give the text in which every break is one. -/
theorem lines_eq_splitOn (s : String) :
    lines s = ((unifyBreaks s.toList).splitOn '\n').map String.ofList ∧
    lines s ≠ [] ∧
    (∀ l ∈ lines s, '\r' ∉ l.toList ∧ '\n' ∉ l.toList) ∧
    "\n".intercalate (lines s) = String.ofList (unifyBreaks s.toList) ∧
    Slicing s (lines s) := by
  refine ⟨?_, ?_, ?_, ?_, ?_⟩
  · rw [lines, splitLines_eq_splitOn]
  · rw [lines, ne_eq, List.map_eq_nil_iff]
    exact splitLines_ne_nil s.toList
  · intro l hl
    obtain ⟨cs, hcs, rfl⟩ := List.mem_map.mp hl
    rw [String.toList_ofList]
    have unbroken := unbroken_of_mem_splitLines hcs
    exact ⟨fun carriage => absurd (unbroken _ carriage) (by decide),
      fun feed => absurd (unbroken _ feed) (by decide)⟩
  · have chars : (lines s).map String.toList = (unifyBreaks s.toList).splitOn '\n' := by
      simp [lines, splitLines_eq_splitOn]
    have feed : "\n".toList = ['\n'] := rfl
    rw [← String.toList_inj, String.toList_intercalate, chars, feed, String.toList_ofList,
      List.intercalate_splitOn]
  · have sliced := Slicing.splitLines_append unbroken_nil s.toList
    rwa [List.nil_append, String.ofList_toList] at sliced

-- Two characters are one break in the one order only.
example : lines "a\r\r\nb\n\rc" = ["a", "", "b", "", "c"] := by decide

end LoadClients.Text
