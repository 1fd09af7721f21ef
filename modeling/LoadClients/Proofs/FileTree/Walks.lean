import LoadClients.FileTree
import LoadClients.Proofs.Path.Names

/-!
Where paths lead. A path leads to one address, through places that all have to be directories, and a
name that is joined to a directory leads to an entry of it.
-/

namespace LoadClients

namespace FileTree

/-- The places that names are followed from. -/
def passed : Address → List String → List Address
  | _, [] => []
  | here, name :: names => here :: passed (follow here name) names

/-- The places that names lead through, and the last of which they lead to. -/
def visited (here : Address) (names : List String) : List Address :=
  passed here names ++ [names.foldl follow here]

/-- Where a path leads if no name is too long and no directory missing. -/
def destination (t : FileTree) (path : String) : Address :=
  (Path.names path).foldl follow (t.start path)

/-- The places on a path, its destination included. -/
def places (t : FileTree) (path : String) : List Address :=
  visited (t.start path) (Path.names path)

/-- The name is one that an entry can have. -/
def Fits (name : String) : Prop := name.utf8ByteSize ≤ nameLimit

variable {here l : Address} {name : String} {names : List String}

theorem passed_append_singleton :
    passed here (names ++ [name]) = visited here names := by
  induction names generalizing here with
  | nil => rfl
  | cons n names ih => exact congrArg (here :: ·) ih

theorem foldl_follow_append_singleton :
    (names ++ [name]).foldl follow here = follow (names.foldl follow here) name := by
  rw [List.foldl_append, List.foldl_cons, List.foldl_nil]

theorem visited_cons :
    visited here (name :: names) = here :: visited (follow here name) names := rfl

/-- An empty name leads nowhere else. -/
theorem mem_visited_append_empty :
    l ∈ visited here (names ++ [""]) ↔ l ∈ visited here names := by
  have stays : (names ++ [""]).foldl follow here = names.foldl follow here :=
    foldl_follow_append_singleton
  rw [visited, passed_append_singleton, stays, List.mem_append, List.mem_singleton,
    or_iff_left_iff_imp, visited]
  rintro rfl
  exact List.mem_append_right _ (List.mem_singleton.mpr rfl)

theorem follow_of_isProper (proper : Path.IsProper name) : follow here name = here ++ [name] := by
  rw [follow, proper.leads, if_neg Bool.false_ne_true, if_neg proper.descends]

section
variable {t : FileTree} {path directory text : String}

theorem isPath_of_append {rest : String} (h : isPath (path ++ rest) = true) :
    isPath path = true := by
  rw [isPath, Bool.and_eq_true, decide_eq_true_eq, String.utf8ByteSize_append] at h
  rw [isPath, Bool.and_eq_true, decide_eq_true_eq]
  refine ⟨Nat.lt_of_le_of_lt (Nat.le_add_right _ _) h.1, ?_⟩
  have clean := h.2
  simp only [String.toList_append, List.contains_append, Bool.not_or, Bool.and_eq_true] at clean
  exact clean.1

theorem isPath_of_join (slashless : '/' ∉ name.toList)
    (h : isPath (Path.join directory name) = true) : isPath directory = true := by
  rcases Path.join_cases directory slashless with
    ⟨rfl, _⟩ | ⟨front, rfl, joined⟩ | ⟨_, joined⟩
  · decide
  · exact isPath_of_append (joined ▸ h)
  · exact isPath_of_append (isPath_of_append (joined ▸ h))

theorem walk_eq_ok_iff :
    t.walk here names = .ok l ↔
      names.foldl follow here = l ∧ (∀ p ∈ passed here names, t.entry? p = some .directory) ∧
        ∀ n ∈ names, Fits n := by
  induction names generalizing here with
  | nil => simp [walk, passed]
  | cons n names ih =>
    rw [walk, passed, List.foldl_cons, List.forall_mem_cons, List.forall_mem_cons, Fits]
    cases found : t.entry? here with
    | none => simp
    | some e =>
      cases e with
      | file => simp
      | binary => simp
      | directory =>
        by_cases long : nameLimit < n.utf8ByteSize
        · simp [long, Nat.not_le.mpr long]
        · simp only [long, if_false, ih, Nat.not_lt.mp long, true_and]

theorem locate_eq_ok_iff :
    t.locate path = .ok l ↔
      isPath path = true ∧ (Path.names path).foldl follow (t.start path) = l ∧
        (∀ p ∈ passed (t.start path) (Path.names path), t.entry? p = some .directory) ∧
          ∀ n ∈ Path.names path, Fits n := by
  rw [locate]
  split
  · next accepted => rw [walk_eq_ok_iff, and_iff_right accepted]
  · next refused => simp [refused]

theorem read_of_locate (found : t.locate path = .ok l) (file : t.entry? l = some (.file text)) :
    t.read path = .ok text := by
  rw [read, found]
  simp only [bind, Except.bind, file]

/-- A name comes after those of a directory, which lead through the places of the directory. -/
theorem exists_names_join (t : FileTree) (directory : String) (slashless : '/' ∉ name.toList) :
    ∃ names, Path.names (Path.join directory name) = names ++ [name] ∧
      t.start (Path.join directory name) = t.start directory ∧
        t.destination directory = names.foldl follow (t.start directory) ∧
          (∀ p, p ∈ t.places directory ↔ p ∈ visited (t.start directory) names) ∧
            ((∀ n ∈ Path.names directory, Fits n) ↔ ∀ n ∈ names, Fits n) := by
  obtain ⟨names, joined, split⟩ := Path.names_join directory slashless
  have start : t.start (Path.join directory name) = t.start directory := by
    rw [FileTree.start, Path.isAbsolute_join directory slashless, FileTree.start]
  refine ⟨names, joined, start, ?_, ?_, ?_⟩
  · rw [destination]
    rcases split with split | split <;> rw [split]
    rw [foldl_follow_append_singleton]
    rfl
  · intro p
    rw [places]
    rcases split with split | split <;> rw [split]
    exact mem_visited_append_empty
  · rcases split with split | split <;> rw [split]
    have empty : Fits "" := Nat.zero_le nameLimit
    simp only [List.forall_mem_append, List.forall_mem_singleton, empty, and_true]

theorem destination_join (t : FileTree) (proper : Path.IsProper name) :
    t.destination (Path.join directory name) = t.destination directory ++ [name] := by
  obtain ⟨names, joined, start, leads, -⟩ := t.exists_names_join directory proper.slashless
  rw [destination, joined, start, foldl_follow_append_singleton, follow_of_isProper proper, ← leads]

/-- A name that is joined to a directory leads to an entry of it, as soon as there is a directory
all the way. -/
theorem locate_join (proper : Path.IsProper name) :
    t.locate (Path.join directory name) = .ok l ↔
      isPath (Path.join directory name) = true ∧ t.destination directory ++ [name] = l ∧
        (∀ p ∈ t.places directory, t.entry? p = some .directory) ∧
          (∀ n ∈ Path.names directory, Fits n) ∧ Fits name := by
  obtain ⟨names, joined, start, leads, through, fit⟩ :=
    t.exists_names_join directory proper.slashless
  rw [locate_eq_ok_iff, joined, start, foldl_follow_append_singleton, follow_of_isProper proper,
    ← leads, passed_append_singleton, List.forall_mem_append, List.forall_mem_singleton, fit]
  simp only [through]

/-- A path leads to the entry that a directory has under a name: in all trees from the directory on
by this name alone, and where it is found in a tree, the directory is found around it. -/
structure EntryOf (directory name path : String) : Prop where
  proper : Path.IsProper name
  leads : ∀ t : FileTree, t.destination path = t.destination directory ++ [name]
  found : ∀ (t : FileTree) l, t.locate path = .ok l →
    ∃ d, t.locate directory = .ok d ∧ t.entry? d = some .directory ∧ l = d ++ [name]

theorem entryOf_join (directory : String) (proper : Path.IsProper name) :
    EntryOf directory name (Path.join directory name) := by
  refine ⟨proper, fun t => t.destination_join proper, ?_⟩
  intro t l located
  obtain ⟨accepted, rfl, through, fits, _⟩ := (locate_join proper).mp located
  rw [places, visited, List.forall_mem_append, List.forall_mem_singleton] at through
  refine ⟨t.destination directory, ?_, through.2, rfl⟩
  exact locate_eq_ok_iff.mpr ⟨isPath_of_join proper.slashless accepted, rfl, through.1, fits⟩

end

end FileTree

end LoadClients
