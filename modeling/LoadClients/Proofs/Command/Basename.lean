import LoadClients.Command.Basename
import LoadClients.Modules
import LoadClients.Proofs.FileTree.Walks
import LoadClients.Proofs.Path.Stem
import Mathlib.Data.List.Basic

/-!
The names of the two written files. Their common part is the first of three names of which something
is left, and whatever that is, the files are two entries of the directory that they are written to.
-/

namespace LoadClients

namespace Basename

/-- A text without its forbidden characters. All others are kept in their order. -/
structure Stripped (s t : String) : Prop where
  sublist : t.toList.Sublist s.toList
  allowed : ∀ c ∈ t.toList, isForbidden c = false
  kept : ∀ c, isForbidden c = false → t.toList.count c = s.toList.count c

/-- What the files for an input are called: the name that was given, or else the configured one, as far
as the name has characters that are not forbidden; or else the stem of the input as it is. -/
inductive Named (input : String) : Option String → Option String → String → Prop where
  | given {s basename : String} {configured : Option String} (stripped : Stripped s basename)
      (nonempty : basename ≠ "") : Named input (some s) configured basename
  | configured {s basename : String} {given : Option String}
      (nothing_given : ∀ g ∈ given, Stripped g "") (stripped : Stripped s basename)
      (nonempty : basename ≠ "") : Named input given (some s) basename
  | input {basename : String} {given configured : Option String}
      (nothing_given : ∀ g ∈ given, Stripped g "")
      (nothing_configured : ∀ c ∈ configured, Stripped c "")
      (stem : Path.HasStem input basename) : Named input given configured basename

theorem sanitize_eq_iff {s t : String} : sanitize s = t ↔ Stripped s t := by
  rw [sanitize, ← String.toList_inj, String.toList_ofList]
  constructor
  · intro filtered
    refine ⟨filtered ▸ List.filter_sublist, ?_, ?_⟩
    · intro c hc
      rw [← filtered] at hc
      simpa using (List.mem_filter.mp hc).2
    · intro c allowed
      rw [← filtered, List.count_filter (by simp [allowed])]
  · rintro ⟨sublist, allowed, kept⟩
    -- what is kept is a part of the text that was filtered, and as long as it
    have same : t.toList.filter (!isForbidden ·) = t.toList := by
      rw [List.filter_eq_self]
      intro c hc
      simp [allowed c hc]
    have inside : t.toList.Sublist (s.toList.filter (!isForbidden ·)) :=
      same ▸ sublist.filter _
    have counts : (s.toList.filter (!isForbidden ·)).Perm t.toList := by
      rw [List.perm_iff_count]
      intro c
      by_cases forbidden : isForbidden c
      · rw [List.count_eq_zero_of_not_mem, List.count_eq_zero_of_not_mem]
        · exact fun hc => absurd (allowed c hc) (by simp [forbidden])
        · simp [forbidden]
      · rw [List.count_filter (by simp [forbidden]), kept c (by simpa using forbidden)]
    exact (inside.eq_of_length_le (Nat.le_of_eq counts.length_eq)).symm

/-- What is left of a name that may not be there. -/
def remainder? (name : Option String) : Option String := (name.map sanitize).filter (!·.isEmpty)

theorem remainder?_eq_some_iff {name : Option String} {basename : String} :
    remainder? name = some basename ↔ ∃ s, name = some s ∧ Stripped s basename ∧ basename ≠ "" := by
  cases name with
  | none => simp [remainder?]
  | some s =>
    simp only [remainder?, Option.map_some, Option.filter_eq_some_iff, Option.some.injEq,
      sanitize_eq_iff, exists_eq_left']
    simp

theorem remainder?_eq_none_iff {name : Option String} :
    remainder? name = none ↔ ∀ s ∈ name, Stripped s "" := by
  cases name with
  | none => simp [remainder?]
  | some s =>
    simp only [← sanitize_eq_iff]
    simp [remainder?]

theorem find?_map_sanitize (name : Option String) :
    (name.toList.map sanitize).find? (!·.isEmpty) = remainder? name := by
  cases name with
  | none => rfl
  | some s =>
    rw [Option.toList_some, List.map_singleton, List.find?_singleton]
    rfl

theorem resolve_eq_remainders (input : String) (given configured : Option String) :
    resolve input given configured =
      (remainder? given).or ((remainder? configured).or (Path.stem? input)) := by
  rw [resolve, List.map_append, List.find?_append, find?_map_sanitize, find?_map_sanitize,
    ← Option.or_assoc]
  cases (remainder? given).or (remainder? configured) <;> rfl

theorem resolve_eq_some_iff {input basename : String} {given configured : Option String} :
    resolve input given configured = some basename ↔ Named input given configured basename := by
  rw [resolve_eq_remainders, Option.or_eq_some_iff, Option.or_eq_some_iff]
  simp only [remainder?_eq_some_iff, remainder?_eq_none_iff, Path.stem?_eq_some_iff]
  constructor
  · rintro (⟨s, rfl, stripped, nonempty⟩ | ⟨nothing_given, chosen⟩)
    · exact .given stripped nonempty
    · rcases chosen with ⟨s, rfl, stripped, nonempty⟩ | ⟨nothing_configured, stem⟩
      · exact .configured nothing_given stripped nonempty
      · exact .input nothing_given nothing_configured stem
  · intro named
    cases named with
    | given stripped nonempty => exact Or.inl ⟨_, rfl, stripped, nonempty⟩
    | configured nothing_given stripped nonempty =>
      exact Or.inr ⟨nothing_given, Or.inl ⟨_, rfl, stripped, nonempty⟩⟩
    | input nothing_given nothing_configured stem =>
      exact Or.inr ⟨nothing_given, Or.inr ⟨nothing_configured, stem⟩⟩

section
variable {input basename : String} {given configured : Option String}

theorem Stripped.slashless {s t : String} (h : Stripped s t) : '/' ∉ t.toList :=
  fun slash => absurd (h.allowed '/' slash) (by decide)

theorem Named.ne_empty (h : Named input given configured basename) : basename ≠ "" := by
  cases h with
  | given _ nonempty => exact nonempty
  | configured _ _ nonempty => exact nonempty
  | input _ _ stem =>
    obtain ⟨name, ⟨proper, _⟩, stem⟩ := stem
    exact stem.ne_empty proper

theorem Named.slashless (h : Named input given configured basename) : '/' ∉ basename.toList := by
  cases h with
  | given stripped => exact stripped.slashless
  | configured _ stripped => exact stripped.slashless
  | input _ _ stem =>
    obtain ⟨name, ⟨proper, _⟩, stem⟩ := stem
    exact stem.slashless proper

theorem slashless_of_resolve (h : resolve input given configured = some basename) :
    '/' ∉ basename.toList :=
  (resolve_eq_some_iff.mp h).slashless

end

end Basename

namespace Modules
variable {basename : String}

theorem isProper_typesFile (h : '/' ∉ basename.toList) : Path.IsProper (typesFile basename) :=
  Path.isProper_append h (by decide) (by decide)

theorem isProper_clientsFile (h : '/' ∉ basename.toList) : Path.IsProper (clientsFile basename) :=
  Path.isProper_append h (by decide) (by decide)

theorem typesFile_ne_clientsFile (basename : String) :
    typesFile basename ≠ clientsFile basename := by
  intro same
  rw [typesFile, clientsFile, ← String.toList_inj, String.toList_append, String.toList_append,
    List.append_cancel_left_eq] at same
  exact absurd same (by decide)

end Modules

namespace Basename

/-- The files are called after the first of the given name, the configured one and the stem of the
input that leaves something, and there is no name for them only if the input has no stem. The name is
then not empty and without slashes, and the two files are different entries of the directory that
they are written to, whatever the texts are. -/
theorem resolve_names_entries (input : String) (given configured : Option String) :
    (∀ basename, resolve input given configured = some basename ↔
        Named input given configured basename) ∧
      (resolve input given configured = none → ∀ stem, ¬ Path.HasStem input stem) ∧
        ∀ basename, resolve input given configured = some basename →
          basename ≠ "" ∧ '/' ∉ basename.toList ∧ ∀ (m : Modules) (directory : String),
            ∃ types clients, m.files basename = [(types, m.types), (clients, m.clients)] ∧
              types ≠ clients ∧
                FileTree.EntryOf directory types (Path.join directory types) ∧
                  FileTree.EntryOf directory clients (Path.join directory clients) := by
  refine ⟨fun basename => resolve_eq_some_iff, ?_, ?_⟩
  · intro nameless stem has
    rw [resolve_eq_remainders, Option.or_eq_none_iff, Option.or_eq_none_iff] at nameless
    rw [Path.stem?_eq_some_iff.mpr has] at nameless
    cases nameless.2.2
  · intro basename resolved
    have clean := slashless_of_resolve resolved
    refine ⟨(resolve_eq_some_iff.mp resolved).ne_empty, clean, fun m directory => ?_⟩
    exact ⟨_, _, rfl, Modules.typesFile_ne_clientsFile basename,
      FileTree.entryOf_join directory (Modules.isProper_typesFile clean),
      FileTree.entryOf_join directory (Modules.isProper_clientsFile clean)⟩

/-- A name that would lead out of the directory, a hidden input that is named with a point behind a
slash, and one that is only the directory around. -/
theorem resolve_names_entries_dots :
    (resolve "ale.yaml" (some "../ ") (some "stout") = some ".." ∧
      '/' ∉ "..".toList ∧ ∀ (m : Modules) (directory : String),
        ∃ types clients, m.files ".." = [(types, m.types), (clients, m.clients)] ∧
          types ≠ clients ∧
            FileTree.EntryOf directory types (Path.join directory types) ∧
              FileTree.EntryOf directory clients (Path.join directory clients)) ∧
    (resolve "casks/.ale.v2/." (some "?/") none = some ".ale" ∧
      Named "casks/.ale.v2/." (some "?/") none ".ale") ∧
    resolve "casks/.." none (some "") = none ∧ ∀ stem, ¬ Path.HasStem "casks/.." stem := by
  have up : resolve "ale.yaml" (some "../ ") (some "stout") = some ".." := by decide +kernel
  have hidden : resolve "casks/.ale.v2/." (some "?/") none = some ".ale" := by decide +kernel
  have around : resolve "casks/.." none (some "") = none := by decide +kernel
  obtain ⟨-, -, entries⟩ := resolve_names_entries "ale.yaml" (some "../ ") (some "stout")
  exact ⟨⟨up, (entries ".." up).2⟩,
    ⟨hidden, ((resolve_names_entries "casks/.ale.v2/." (some "?/") none).1 ".ale").mp hidden⟩,
    around, (resolve_names_entries "casks/.." none (some "")).2.1 around⟩

end Basename

end LoadClients
