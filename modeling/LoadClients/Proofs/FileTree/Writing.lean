import LoadClients.Proofs.FileTree.Walks

/-!
What writing changes. Directories are made where they are missing on a path, and nowhere else; a file
is written into a directory as soon as there is room for it; and nothing else is touched.
-/

namespace LoadClients

namespace FileTree

variable {t t' t'' : FileTree} {l : Address} {path directory name text : String} {e : Entry}

/-- Of two trees the later has the same entries, except for some files, and for directories that were
made where nothing was. -/
structure Changed (t t' : FileTree) (made files : List Address) : Prop where
  working : t'.working = t.working
  others : ∀ l ∉ files, t'.entry? l = t.entry? l ∨
    l ∈ made ∧ t.entry? l = none ∧ t'.entry? l = some .directory

namespace Changed
variable {made files files' : List Address}

theorem refl (t : FileTree) (made files : List Address) : Changed t t made files :=
  ⟨rfl, fun _ _ => Or.inl rfl⟩

theorem mono {made' : List Address} (h : Changed t t' made files) (more : made ⊆ made')
    (extra : files ⊆ files') : Changed t t' made' files' where
  working := h.working
  others l hl := (h.others l fun hl' => hl (extra hl')).imp id (.imp (more ·) id)

theorem trans (first : Changed t t' made files) (second : Changed t' t'' made files) :
    Changed t t'' made files where
  working := second.working.trans first.working
  others l hl := by
    rcases second.others l hl with same | ⟨mem, missing, now⟩
    · rw [same]
      exact first.others l hl
    · rcases first.others l hl with same | ⟨_, _, already⟩
      · exact Or.inr ⟨mem, same ▸ missing, now⟩
      · rw [missing] at already
        cases already

/-- What there was is still there. -/
theorem keeps (h : Changed t t' made files) (other : l ∉ files) (was : t.entry? l = some e) :
    t'.entry? l = some e := by
  rcases h.others l other with same | ⟨_, missing, _⟩
  · exact same.trans was
  · rw [missing] at was
    cases was

theorem start_eq (h : Changed t t' made files) : t'.start path = t.start path := by
  rw [FileTree.start, h.working, FileTree.start]

theorem places_eq (h : Changed t t' made files) : t'.places path = t.places path := by
  rw [places, h.start_eq, places]

theorem destination_eq (h : Changed t t' made files) :
    t'.destination path = t.destination path := by
  rw [destination, h.start_eq, destination]

end Changed

/-- Nothing but a directory is at the address. -/
def Passable (t : FileTree) (l : Address) : Prop := ∀ e, t.entry? l = some e → e = .directory

theorem Passable.of_changed {made files : List Address} (h : t.Passable l)
    (changed : Changed t t' made files) (other : l ∉ files) : t'.Passable l := by
  intro e now
  rcases changed.others l other with same | ⟨_, _, directory⟩
  · exact h e (same ▸ now)
  · exact (Option.some.inj (directory.symm.trans now)).symm

theorem entry?_put {l' : Address} (h : l ≠ []) :
    FileTree.entry? (t.put l e) l' = if l' = l then some e else t.entry? l' := by
  unfold entry? put
  rw [Table.find?_put]
  by_cases root : l' = []
  · rw [if_pos root, if_pos root, if_neg (root ▸ h.symm)]
  · rw [if_neg root, if_neg root]

theorem ne_nil_of_not_directory (h : t.entry? l ≠ some .directory) : l ≠ [] := by
  rintro rfl
  exact h rfl

theorem changed_put (h : l ≠ []) : Changed t (t.put l e) [] [l] where
  working := rfl
  others l' hl' := by
    rw [entry?_put h, if_neg fun same => hl' (List.mem_singleton.mpr same)]
    exact Or.inl rfl

/-- The place is a directory from now on, if it can be. -/
theorem makeAlong_cases (t : FileTree) (here : Address) (names : List String) :
    ¬ t.Passable here ∧ t.makeAlong here names = (t, .error .notDirectory) ∨
      ∃ t', Changed t t' [here] [] ∧ t'.entry? here = some .directory ∧
        t.makeAlong here names =
          match names with
          | [] => (t', .ok ())
          | name :: names =>
            if nameLimit < name.utf8ByteSize then (t', .error .nameTooLong)
            else t'.makeAlong (follow here name) names := by
  rw [makeAlong.eq_def]
  dsimp only
  cases found : t.entry? here with
  | none =>
    have nonempty : here ≠ [] := ne_nil_of_not_directory (t := t) (by simp [found])
    have made : FileTree.entry? (t.put here .directory) here = some .directory := by
      rw [entry?_put nonempty, if_pos rfl]
    refine Or.inr ⟨t.put here .directory, ⟨rfl, fun l _ => ?_⟩, made, rfl⟩
    by_cases same : l = here
    · subst same
      exact Or.inr ⟨List.mem_singleton.mpr rfl, found, made⟩
    · rw [entry?_put nonempty, if_neg same]
      exact Or.inl rfl
  | some e =>
    by_cases directory : e = .directory
    · subst directory
      exact Or.inr ⟨t, .refl t _ _, found, rfl⟩
    · exact Or.inl ⟨fun passable => directory (passable e found), if_neg (by simp [directory])⟩

/-- Only places on the way are made. If nothing is in the way, they are all there in the end. -/
theorem makeAlong_spec (t : FileTree) (here : Address) (names : List String) :
    Changed t (t.makeAlong here names).1 (visited here names) [] ∧
      ((t.makeAlong here names).2 = .ok () →
        ∀ p ∈ visited here names,
          FileTree.entry? (t.makeAlong here names).1 p = some .directory) := by
  induction names generalizing t here with
  | nil =>
    rcases makeAlong_cases t here [] with ⟨_, fails⟩ | ⟨t', changed, now, step⟩
    · rw [fails]
      exact ⟨.refl t _ _, fun ok => nomatch ok⟩
    · rw [step]
      exact ⟨changed, fun _ p hp => List.mem_singleton.mp hp ▸ now⟩
  | cons name names ih =>
    rw [visited_cons]
    have first : [here] ⊆ here :: visited (follow here name) names := by simp
    rcases makeAlong_cases t here (name :: names) with ⟨_, fails⟩ | ⟨t', changed, now, step⟩
    · rw [fails]
      exact ⟨.refl t _ _, fun ok => nomatch ok⟩
    · rw [step]
      by_cases long : nameLimit < name.utf8ByteSize
      · simp only [long, if_true]
        exact ⟨changed.mono first (List.Subset.refl _), fun ok => nomatch ok⟩
      · simp only [long, if_false]
        obtain ⟨later, all⟩ := ih t' (follow here name)
        refine ⟨(changed.mono first (List.Subset.refl _)).trans
          (later.mono (List.subset_cons_self _ _) (List.Subset.refl _)), fun ok => ?_⟩
        rw [List.forall_mem_cons]
        exact ⟨later.keeps List.not_mem_nil now, all ok⟩

/-- Nothing that is not a directory is in the way, and no name is too long: then all is made. -/
theorem makeAlong_ok {here : Address} {names : List String}
    (through : ∀ p ∈ visited here names, t.Passable p) (fits : ∀ n ∈ names, Fits n) :
    (t.makeAlong here names).2 = .ok () := by
  induction names generalizing t here with
  | nil =>
    rcases makeAlong_cases t here [] with ⟨blocked, _⟩ | ⟨t', _, _, step⟩
    · exact absurd (through here (List.mem_singleton.mpr rfl)) blocked
    · rw [step]
  | cons name names ih =>
    rw [visited_cons, List.forall_mem_cons] at through
    rw [List.forall_mem_cons] at fits
    rcases makeAlong_cases t here (name :: names) with ⟨blocked, _⟩ | ⟨t', changed, _, step⟩
    · exact absurd through.1 blocked
    · rw [step]
      simp only [Nat.not_lt.mpr fits.1, if_false]
      exact ih (fun p hp => (through.2 p hp).of_changed changed List.not_mem_nil) fits.2

theorem makeDirectories_changed (t : FileTree) (path : String) :
    Changed t (t.makeDirectories path).1 (t.places path) [] := by
  rw [makeDirectories]
  split
  · exact (makeAlong_spec t (t.start path) (Path.names path)).1
  · exact .refl t _ _

theorem makeDirectories_made (h : t.makeDirectories path = (t', .ok ())) :
    ∀ p ∈ t.places path, t'.entry? p = some .directory := by
  rw [makeDirectories] at h
  split at h
  · have made := (makeAlong_spec t (t.start path) (Path.names path)).2
    rw [h] at made
    exact made rfl
  · cases h

theorem write_eq_ok (h : t.write path text = (t', .ok ())) :
    ∃ l, t.locate path = .ok l ∧ t.entry? l ≠ some .directory ∧ t' = t.put l (.file text) := by
  rw [write] at h
  cases found : t.locate path with
  | error o =>
    rw [found] at h
    cases h
  | ok l =>
    simp only [found] at h
    by_cases directory : t.entry? l = some .directory
    · rw [directory] at h
      cases h
    · refine ⟨l, rfl, directory, ?_⟩
      split at h
      · next is => exact absurd is directory
      · exact (congrArg Prod.fst h).symm

/-- A file is in its directory, which is there with all that is on the way to it. -/
structure Holds (t : FileTree) (directory name text : String) : Prop where
  locate : t.locate (Path.join directory name) = .ok (t.destination directory ++ [name])
  entry : t.entry? (t.destination directory ++ [name]) = some (.file text)

theorem Holds.read (h : Holds t directory name text) :
    t.read (Path.join directory name) = .ok text :=
  read_of_locate h.locate h.entry

/-- Neither a change of other files nor the making of directories moves a file. -/
theorem Holds.of_changed {made files : List Address} (proper : Path.IsProper name)
    (h : Holds t directory name text) (changed : Changed t t' made files)
    (other : t.destination directory ++ [name] ∉ files)
    (directories : ∀ p ∈ t.places directory, p ∉ files) : Holds t' directory name text := by
  obtain ⟨isPath, _, through, fits⟩ := (locate_join proper).mp h.locate
  refine ⟨(locate_join proper).mpr ⟨isPath, rfl, ?_, fits⟩, ?_⟩
  · intro p hp
    rw [changed.places_eq] at hp
    exact changed.keeps (directories p hp) (through p hp)
  · rw [changed.destination_eq]
    exact changed.keeps other h.entry

/-- Writing a file into a directory that was made for it. -/
theorem write_in_directory (proper : Path.IsProper name)
    (made : t.makeDirectories directory = (t', .ok ()))
    (written : t'.write (Path.join directory name) text = (t'', .ok ())) :
    Changed t t'' (t.places directory) [t.destination directory ++ [name]] ∧
      Holds t'' directory name text ∧ t.destination directory ++ [name] ∉ t.places directory := by
  have before : Changed t t' (t.places directory) [] := by
    have changed := makeDirectories_changed t directory
    rwa [made] at changed
  obtain ⟨l, found, notDirectory, rfl⟩ := write_eq_ok written
  obtain ⟨isPath, leads, through, fits⟩ := (locate_join proper).mp found
  rw [before.destination_eq] at leads
  subst leads
  have put : Changed t' (t'.put _ (.file text)) [] [t.destination directory ++ [name]] :=
    changed_put (ne_nil_of_not_directory notDirectory)
  have apart : ∀ p ∈ t.places directory, p ≠ t.destination directory ++ [name] := by
    rintro p hp rfl
    exact notDirectory (through _ (before.places_eq ▸ hp))
  refine ⟨(before.mono (List.Subset.refl _) (List.nil_subset _)).trans
    (put.mono (List.nil_subset _) (List.Subset.refl _)), ⟨?_, ?_⟩, fun mem => apart _ mem rfl⟩
  · refine (locate_join proper).mpr ⟨isPath, rfl, fun p hp => ?_, fits⟩
    rw [put.places_eq] at hp
    refine put.keeps (fun mem => apart p (before.places_eq ▸ hp) (List.mem_singleton.mp mem)) ?_
    exact through p hp
  · rw [put.destination_eq, before.destination_eq, entry?_put (by simp), if_pos rfl]

/-- Room for a file of a directory: nothing but directories on the way to it, as far as there is
anything, and no directory in its own place. -/
structure Room (t : FileTree) (directory name : String) : Prop where
  path : isPath (Path.join directory name) = true
  fits : (∀ n ∈ Path.names directory, Fits n) ∧ Fits name
  through : ∀ p ∈ t.places directory, t.Passable p
  apart : t.destination directory ++ [name] ∉ t.places directory
  free : t.entry? (t.destination directory ++ [name]) ≠ some .directory

/-- Neither a change of other files nor the making of directories takes the room. -/
theorem Room.of_changed {files : List Address} (room : t.Room directory name)
    (changed : Changed t t' (t.places directory) files)
    (other : t.destination directory ++ [name] ∉ files)
    (directories : ∀ p ∈ t.places directory, p ∉ files) : t'.Room directory name where
  path := room.path
  fits := room.fits
  through p hp := by
    rw [changed.places_eq] at hp
    exact (room.through p hp).of_changed changed (directories p hp)
  apart := by
    rw [changed.places_eq, changed.destination_eq]
    exact room.apart
  free := by
    rw [changed.destination_eq]
    rcases changed.others _ other with same | ⟨mem, _⟩
    · rw [same]
      exact room.free
    · exact absurd mem room.apart

theorem write_of_locate (found : t.locate path = .ok l) (free : t.entry? l ≠ some .directory) :
    t.write path text = (t.put l (.file text), .ok ()) := by
  rw [write, found]
  dsimp only
  split
  · next is => exact absurd is free
  · rfl

/-- Where there is room, the directory is made and the file is written. -/
theorem Room.write (proper : Path.IsProper name) (room : t.Room directory name) (text : String) :
    ∃ t₁ t₂, t.makeDirectories directory = (t₁, .ok ()) ∧
      t₁.write (Path.join directory name) text = (t₂, .ok ()) := by
  have made : (t.makeDirectories directory).2 = .ok () := by
    rw [makeDirectories, if_pos (isPath_of_join proper.slashless room.path)]
    exact makeAlong_ok room.through room.fits.1
  have changed := makeDirectories_changed t directory
  rcases result : t.makeDirectories directory with ⟨t₁, outcome⟩
  rw [result] at made changed
  cases made
  have later := room.of_changed changed List.not_mem_nil fun _ _ => List.not_mem_nil
  have found : t₁.locate (Path.join directory name) = .ok (t₁.destination directory ++ [name]) := by
    refine (locate_join proper).mpr ⟨room.path, rfl, fun p hp => ?_, room.fits⟩
    exact makeDirectories_made result p (changed.places_eq ▸ hp)
  exact ⟨t₁, _, rfl, write_of_locate found later.free⟩

end FileTree

end LoadClients
