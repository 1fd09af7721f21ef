import LoadClients.Path

/-!
The names in a path. Between two slashes there is one name, and a name that is joined to a directory
comes after those of the directory.
-/

namespace LoadClients

namespace Text
variable {p : Char → Bool}

theorem splitWhere_of_no_separator {cs : List Char} (h : ∀ c ∈ cs, p c = false) :
    splitWhere p cs = [cs] := by
  induction cs with
  | nil => rfl
  | cons c cs ih =>
    have others := ih fun d hd => h d (List.mem_cons_of_mem c hd)
    rw [splitWhere, h c (by simp), others]
    rfl

theorem splitWhere_append {c : Char} (hc : p c = true) (front back : List Char) :
    splitWhere p (front ++ c :: back) = splitWhere p front ++ splitWhere p back := by
  induction front with
  | nil => simp [splitWhere, hc]
  | cons d front ih =>
    rw [List.cons_append, splitWhere, splitWhere, ih]
    split
    · rfl
    · cases parts : splitWhere p front with
      | nil => exact absurd parts (splitWhere_ne_nil p front)
      | cons part parts => rfl

theorem no_separator_of_mem_splitWhere {cs part : List Char} (h : part ∈ splitWhere p cs) :
    ∀ c ∈ part, p c = false := by
  induction cs generalizing part with
  | nil => simp_all [splitWhere]
  | cons c cs ih =>
    rw [splitWhere] at h
    split at h
    · rcases List.mem_cons.mp h with rfl | later
      · simp
      · exact ih later
    · next plain =>
      cases parts : splitWhere p cs with
      | nil => exact absurd parts (splitWhere_ne_nil p cs)
      | cons first rest =>
        rw [parts] at ih h
        rcases List.mem_cons.mp h with rfl | later
        · exact List.forall_mem_cons.mpr ⟨by simpa using plain, ih (by simp)⟩
        · exact ih (List.mem_cons_of_mem first later)

end Text

namespace Path

/-- A name for an entry of a directory. -/
structure IsProper (name : String) : Prop where
  slashless : '/' ∉ name.toList
  leads : staysHere name = false
  descends : name ≠ ".."

theorem slashless_of_mem_names {path name : String} (h : name ∈ names path) :
    '/' ∉ name.toList := by
  obtain ⟨part, mem, rfl⟩ := List.mem_map.mp h
  rw [String.toList_ofList]
  intro slash
  exact absurd (Text.no_separator_of_mem_splitWhere mem '/' slash) (by decide)

theorem names_of_slashless {name : String} (h : '/' ∉ name.toList) : names name = [name] := by
  have plain : ∀ c ∈ name.toList, (c == '/') = false := by
    intro c hc
    rw [beq_eq_false_iff_ne]
    exact fun slash => h (slash ▸ hc)
  rw [names, Text.splitWhere_of_no_separator plain, List.map_singleton, String.ofList_toList]

theorem names_append_slash (directory rest : String) :
    names (directory ++ "/" ++ rest) = names directory ++ names rest := by
  have slash : (directory ++ "/" ++ rest).toList = directory.toList ++ '/' :: rest.toList := by
    simp
  unfold names
  rw [slash, Text.splitWhere_append (by decide), List.map_append]

/-- What is long enough is neither empty nor a name for the directory or the one around it. -/
theorem isProper_append {stem extension : String} (clean : '/' ∉ stem.toList)
    (slashless : '/' ∉ extension.toList) (long : 2 < extension.toList.length) :
    IsProper (stem ++ extension) := by
  have length : 2 < (stem ++ extension).toList.length := by
    rw [String.toList_append, List.length_append]
    omega
  refine ⟨?_, ?_, ?_⟩
  · rw [String.toList_append, List.mem_append]
    exact fun slash => slash.elim clean slashless
  · rw [staysHere, Bool.or_eq_false_iff, beq_eq_false_iff_ne, beq_eq_false_iff_ne]
    refine ⟨fun same => ?_, fun same => ?_⟩ <;> rw [same] at length <;> revert length <;> decide
  · intro same
    rw [same] at length
    revert length
    decide

variable {name : String}

theorem not_isAbsolute (h : '/' ∉ name.toList) : isAbsolute name = false := by
  rw [isAbsolute, beq_eq_false_iff_ne]
  exact fun first => h (List.mem_of_mem_head? first)

/-- There is one slash in front of a name that is joined to a directory, unless the directory is left
out. -/
theorem join_cases (directory : String) (h : '/' ∉ name.toList) :
    directory = "" ∧ join directory name = name ∨
      (∃ front, directory = front ++ "/" ∧ join directory name = front ++ "/" ++ name) ∨
      directory ≠ "" ∧ join directory name = directory ++ "/" ++ name := by
  rw [join, not_isAbsolute h, if_neg Bool.false_ne_true]
  by_cases empty : directory = ""
  · subst empty
    exact Or.inl ⟨rfl, by simp⟩
  · by_cases slash : directory.toList.getLast? = some '/'
    · obtain ⟨front, split⟩ := List.getLast?_eq_some_iff.mp slash
      have ends : directory = String.ofList front ++ "/" := by
        rw [← String.toList_inj, split]
        simp
      refine Or.inr (Or.inl ⟨String.ofList front, ends, ?_⟩)
      rw [if_pos (by simp [slash]), ends]
    · exact Or.inr (Or.inr ⟨empty, by rw [if_neg (by simp [slash, empty])]⟩)

/-- The name comes after those of the directory, of which an empty one at the end does not count. -/
theorem names_join (directory : String) (h : '/' ∉ name.toList) :
    ∃ ns, names (join directory name) = ns ++ [name] ∧
      (names directory = ns ∨ names directory = ns ++ [""]) := by
  have empty : names "" = [""] := names_of_slashless (by simp)
  rcases join_cases directory h with
    ⟨rfl, joined⟩ | ⟨front, rfl, joined⟩ | ⟨_, joined⟩
  · exact ⟨[], by rw [joined, names_of_slashless h, List.nil_append], Or.inr empty⟩
  · refine ⟨names front, by rw [joined, names_append_slash, names_of_slashless h], Or.inr ?_⟩
    rw [← String.append_empty (s := front ++ "/"), names_append_slash, empty]
  · exact ⟨names directory, by rw [joined, names_append_slash, names_of_slashless h], Or.inl rfl⟩

theorem isAbsolute_append {front : String} (nonempty : front ≠ "") (rest : String) :
    isAbsolute (front ++ rest) = isAbsolute front := by
  rw [isAbsolute, isAbsolute, String.toList_append]
  cases chars : front.toList with
  | nil => exact absurd (String.toList_eq_nil_iff.mp chars) nonempty
  | cons c cs => rfl

theorem isAbsolute_join (directory : String) (h : '/' ∉ name.toList) :
    isAbsolute (join directory name) = isAbsolute directory := by
  rcases join_cases directory h with
    ⟨rfl, joined⟩ | ⟨front, rfl, joined⟩ | ⟨nonempty, joined⟩
  · rw [joined, not_isAbsolute h, not_isAbsolute (by simp)]
  · rw [joined, isAbsolute_append (by simp)]
  · rw [joined, String.append_assoc, isAbsolute_append nonempty]

end Path

end LoadClients
