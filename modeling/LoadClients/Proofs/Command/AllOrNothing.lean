import LoadClients.Command.Run
import LoadClients.Proofs.Command.Basename
import LoadClients.Proofs.FileTree.Writing
import LoadClients.Proofs.Results

/-!
A run that cannot be brought to its end leaves all files as they are, and one that ends well has
written both modules for the document that it read. Writing begins only after everything else has
succeeded, and neither of the two files is in the way of the other: a run that comes to writing ends
well as soon as there is room for them. The files are those of a tree without links.
-/

namespace LoadClients

theorem Ending.exitCode_eq_zero_iff {e : Ending} : e.exitCode = 0 ↔ e = .success := by
  cases e <;> simp [exitCode]

/-- A command carried out in a tree: how it ended, and the tree that it leaves behind. -/
def Command.runOn (c : Command) (t : FileTree) : Report × FileTree := (c.run : OnFiles Report).run t

namespace FileTree

/-- The configuration of a directory. Where there is no file for it, nothing is configured. -/
inductive Configured (t : FileTree) (directory : String) : Config → Prop where
  | file {text : String} {config : Config}
      (read : t.read (Path.join directory Config.fileName) = .ok text)
      (parsed : Config.ofText? text = some config) : Configured t directory config
  | missing (absent : t.read (Path.join directory Config.fileName) = .error .missing) :
      Configured t directory ⟨none⟩

/-- What keeps a run from writing the modules for an input. -/
inductive Hindered (t : FileTree) (input directory : String) (given : Option String) : Prop where
  /-- The configuration is there and cannot be read. -/
  | config {o : Obstacle} (read : t.read (Path.join directory Config.fileName) = .error o)
      (there : o ≠ .missing)
  | configText {text : String} (read : t.read (Path.join directory Config.fileName) = .ok text)
      (malformed : Config.ofText? text = none)
  | basename {config : Config} (configured : t.Configured directory config)
      (nameless : Basename.resolve input given config.basename = none)
  | input {o : Obstacle} (read : t.read input = .error o)
  | inputText {text : String} {e : Fault} (read : t.read input = .ok text)
      (malformed : (TextFormat.ofPath input).document text = .error e)
  | document {text : String} {d : Document} {e : Invalidity} (read : t.read input = .ok text)
      (parsed : (TextFormat.ofPath input).document text = .ok d) (invalid : d.validate = .error e)
  | generation {text : String} {d : Document} {e : GenerationError} (read : t.read input = .ok text)
      (parsed : (TextFormat.ofPath input).document text = .ok d)
      (fails : Modules.generate d = .error e)

/-- All that a run needs before it writes modules under a name. -/
structure Prepared (t : FileTree) (input directory : String) (given : Option String)
    (basename : String) (m : Modules) : Prop where
  name : ∃ config, t.Configured directory config ∧
    Basename.resolve input given config.basename = some basename
  document : ∃ text d, t.read input = .ok text ∧
    (TextFormat.ofPath input).document text = .ok d ∧ d.validate = .ok () ∧
      Modules.generate d = .ok m

/-- A tree holds the two files for some modules, and is otherwise as it was before. -/
structure Stored (t t' : FileTree) (directory basename : String) (m : Modules) : Prop where
  types : t'.Holds directory (Modules.typesFile basename) m.types
  clients : t'.Holds directory (Modules.clientsFile basename) m.clients
  others : Changed t t' (t.places directory)
    [t.destination directory ++ [Modules.typesFile basename],
      t.destination directory ++ [Modules.clientsFile basename]]

variable {t t' : FileTree} {input directory basename : String} {given : Option String}
  {config config' : Config} {m : Modules}

theorem Configured.unique (h : t.Configured directory config) (h' : t.Configured directory config') :
    config = config' := by
  cases h <;> cases h' <;> simp_all

theorem Prepared.unique {basename' : String} {m' : Modules}
    (h : t.Prepared input directory given basename m)
    (h' : t.Prepared input directory given basename' m') : basename = basename' ∧ m = m' := by
  obtain ⟨⟨config, configured, named⟩, text, d, read, parsed, _, generated⟩ := h
  obtain ⟨⟨config', configured', named'⟩, text', d', read', parsed', _, generated'⟩ := h'
  obtain rfl := configured.unique configured'
  obtain rfl := Except.ok.inj (read.symm.trans read')
  obtain rfl := Except.ok.inj (parsed.symm.trans parsed')
  exact ⟨Option.some.inj (named.symm.trans named'), Except.ok.inj (generated.symm.trans generated')⟩

theorem Hindered.not_prepared (h : t.Hindered input directory given) :
    ¬ t.Prepared input directory given basename m := by
  rintro ⟨⟨config, configured, named⟩, text, d, read, parsed, valid, generated⟩
  cases h with
  | config read' there => cases configured <;> simp_all
  | configText read' malformed => cases configured <;> simp_all
  | basename configured' nameless =>
    rw [configured'.unique configured, named] at nameless
    cases nameless
  | input read' => simp_all
  | inputText read' malformed => simp_all
  | document read' parsed' invalid => simp_all
  | generation read' parsed' fails => simp_all

end FileTree

open FileTree

section
variable {α β : Type} {t t' : FileTree} {path directory name text basename : String}
  {m : Modules}

theorem bind_onFiles (x : OnFiles α) (f : α → OnFiles β) (t : FileTree) :
    (x >>= f) t = f (x t).1 (x t).2 := rfl

theorem pure_onFiles (a : α) (t : FileTree) : (pure a : OnFiles α) t = (a, t) := rfl

theorem read_onFiles (path : String) (t : FileTree) :
    (Disk.read path : OnFiles (Except Obstacle String)) t = (t.read path, t) := rfl

theorem makeDirectories_onFiles (path : String) (t : FileTree) :
    (Disk.makeDirectories path : OnFiles (Except Obstacle Unit)) t =
      ((t.makeDirectories path).2, (t.makeDirectories path).1) := rfl

theorem write_onFiles (path text : String) (t : FileTree) :
    (Disk.write path text : OnFiles (Except Obstacle Unit)) t =
      ((t.write path text).2, (t.write path text).1) := rfl

/-- The configuration is looked for without a change. -/
theorem loadConfig_cases (directory : String) (t : FileTree) :
    (∃ config, t.Configured directory config ∧
        (loadConfig directory : OnFiles _) t = (.ok config, t)) ∨
      (∀ input given, t.Hindered input directory given) ∧
        (loadConfig directory : OnFiles _) t = (.error .refused, t) := by
  unfold loadConfig
  rw [bind_onFiles, read_onFiles]
  cases read : t.read (Path.join directory Config.fileName) with
  | ok text =>
    cases parsed : Config.ofText? text with
    | some config => exact Or.inl ⟨config, .file read parsed, by simp only [parsed]; rfl⟩
    | none => exact Or.inr ⟨fun _ _ => .configText read parsed, by simp only [parsed]; rfl⟩
  | error o =>
    by_cases absent : o = .missing
    · subst absent
      exact Or.inl ⟨⟨none⟩, .missing read, rfl⟩
    · refine Or.inr ⟨fun _ _ => .config read absent, ?_⟩
      cases o with
      | missing => exact absurd rfl absent
      | _ => rfl

theorem documentOf_cases (read : t.read path = .ok text) :
    (∃ d, (TextFormat.ofPath path).document text = .ok d ∧ d.validate = .ok () ∧
        documentOf path text = .ok d) ∨
      (∀ directory given, t.Hindered path directory given) ∧
        ∃ message, documentOf path text = .error (.failed message) := by
  unfold documentOf
  cases parsed : (TextFormat.ofPath path).document text with
  | error e => exact Or.inr ⟨fun _ _ => .inputText read parsed, _, rfl⟩
  | ok d =>
    cases valid : d.validate with
    | error e => exact Or.inr ⟨fun _ _ => .document read parsed valid, _, by simp only [valid]; rfl⟩
    | ok => exact Or.inl ⟨d, rfl, valid, by simp only [valid]⟩

/-- A document is read and checked without a change. -/
theorem load_cases (path : String) (t : FileTree) :
    (∃ text d, t.read path = .ok text ∧ (TextFormat.ofPath path).document text = .ok d ∧
        d.validate = .ok () ∧ (load path : OnFiles _) t = (.ok d, t)) ∨
      (∀ directory given, t.Hindered path directory given) ∧
        ∃ message, (load path : OnFiles _) t = (.error (.failed message), t) := by
  unfold load
  rw [bind_onFiles, read_onFiles]
  cases read : t.read path with
  | error o => exact Or.inr ⟨fun _ _ => .input read, _, rfl⟩
  | ok text =>
    rcases documentOf_cases read with ⟨d, parsed, valid, document⟩ | ⟨hindered, message, failed⟩
    · exact Or.inl ⟨text, d, rfl, parsed, valid, congrArg (·, t) document⟩
    · exact Or.inr ⟨hindered, message, congrArg (·, t) failed⟩

/-- Writing begins exactly when nothing hinders a run any more. -/
theorem codegen_cases (t : FileTree) (input directory : String) (given : Option String) :
    (∃ basename m events, t.Prepared input directory given basename m ∧
        (codegen input directory given : OnFiles Report) t =
          let stored := (store directory basename m : OnFiles Report) t
          (stored.1.after events, stored.2)) ∨
      t.Hindered input directory given ∧
        ((codegen input directory given : OnFiles Report) t).1.ending ≠ .success ∧
          ((codegen input directory given : OnFiles Report) t).2 = t := by
  unfold codegen
  rw [bind_onFiles]
  rcases loadConfig_cases directory t with ⟨config, configured, loaded⟩ | ⟨hindered, refused⟩
  · rw [loaded]
    cases named : Basename.resolve input given config.basename with
    | none =>
      right
      simp only [named, pure_onFiles]
      exact ⟨.basename configured named, nofun, trivial⟩
    | some basename =>
      simp only [named]
      unfold convert
      rw [bind_onFiles]
      rcases load_cases input t with
        ⟨text, d, read, parsed, valid, loaded⟩ | ⟨hindered, message, failed⟩
      · rw [loaded]
        cases generated : Modules.generate d with
        | error e =>
          right
          simp only [generated, pure_onFiles]
          exact ⟨.generation read parsed generated, nofun, trivial⟩
        | ok m =>
          left
          refine ⟨basename, m, .converting input :: d.event :: generationEvents d,
            ⟨⟨config, configured, named⟩, text, d, read, parsed, valid, generated⟩, ?_⟩
          simp only [generated]
          rfl
      · right
        rw [failed]
        exact ⟨hindered directory given, nofun, rfl⟩
  · right
    rw [refused]
    exact ⟨hindered input given, nofun, rfl⟩

/-- A file is written into a directory that was made before. -/
theorem save_of_written {t₁ t₂ : FileTree} (made : t.makeDirectories directory = (t₁, .ok ()))
    (written : t₁.write (Path.join directory name) text = (t₂, .ok ())) :
    (save directory name text : OnFiles _) t = (.ok (), t₂) := by
  unfold save
  rw [bind_onFiles, makeDirectories_onFiles, made]
  dsimp only
  rw [bind_onFiles, write_onFiles, written]
  rfl

theorem save_cases (directory name text : String) (t : FileTree) :
    (∃ t₁ t₂, t.makeDirectories directory = (t₁, .ok ()) ∧
        t₁.write (Path.join directory name) text = (t₂, .ok ())) ∨
      ∃ message t', (save directory name text : OnFiles _) t = (.error (.failed message), t') := by
  unfold save
  rw [bind_onFiles, makeDirectories_onFiles]
  rcases t.makeDirectories directory with ⟨t₁, _ | _⟩
  · exact Or.inr ⟨_, _, rfl⟩
  · dsimp only
    rw [bind_onFiles, write_onFiles]
    rcases written : t₁.write (Path.join directory name) text with ⟨t₂, _ | _⟩
    · exact Or.inr ⟨_, _, rfl⟩
    · exact Or.inl ⟨t₁, t₂, rfl, written⟩

/-- The types are saved first, and the clients after them. -/
theorem store_of_saved {t₁ t₂ : FileTree}
    (types : (save directory (Modules.typesFile basename) m.types : OnFiles _) t = (.ok (), t₁))
    (clients :
      (save directory (Modules.clientsFile basename) m.clients : OnFiles _) t₁ = (.ok (), t₂)) :
    ((store directory basename m : OnFiles Report) t).1.ending = .success ∧
      ((store directory basename m : OnFiles Report) t).2 = t₂ := by
  unfold store
  dsimp only
  rw [bind_onFiles, types]
  dsimp only
  rw [bind_onFiles, clients]
  exact ⟨rfl, rfl⟩

theorem store_cases (directory basename : String) (m : Modules) (t : FileTree) :
    (∃ t₁ t₂,
        (save directory (Modules.typesFile basename) m.types : OnFiles _) t = (.ok (), t₁) ∧
        (save directory (Modules.clientsFile basename) m.clients : OnFiles _) t₁ = (.ok (), t₂)) ∨
      ((store directory basename m : OnFiles Report) t).1.ending ≠ .success := by
  unfold store
  dsimp only
  rw [bind_onFiles]
  rcases save_cases directory (Modules.typesFile basename) m.types t with
    ⟨_, t₁, made, written⟩ | ⟨message, t', failed⟩
  · rw [save_of_written made written]
    dsimp only
    rw [bind_onFiles]
    rcases save_cases directory (Modules.clientsFile basename) m.clients t₁ with
      ⟨_, t₂, made, written⟩ | ⟨message, t', failed⟩
    · exact Or.inl ⟨t₁, t₂, rfl, save_of_written made written⟩
    · rw [failed]
      exact Or.inr nofun
  · rw [failed]
    exact Or.inr nofun

/-- What is saved is a file of the directory. -/
theorem save_spec (proper : Path.IsProper name)
    (h : (save directory name text : OnFiles _) t = (.ok (), t')) :
    Changed t t' (t.places directory) [t.destination directory ++ [name]] ∧
      t'.Holds directory name text ∧ t.destination directory ++ [name] ∉ t.places directory := by
  rcases save_cases directory name text t with ⟨t₁, t₂, made, written⟩ | ⟨_, _, failed⟩
  · rw [save_of_written made written] at h
    cases h
    exact write_in_directory proper made written
  · rw [failed] at h
    cases h

theorem save_of_room (proper : Path.IsProper name) (room : t.Room directory name)
    (text : String) : ∃ t', (save directory name text : OnFiles _) t = (.ok (), t') := by
  obtain ⟨t₁, t₂, made, written⟩ := room.write proper text
  exact ⟨t₂, save_of_written made written⟩

theorem files_apart (l : Address) (basename : String) :
    l ++ [Modules.typesFile basename] ≠ l ++ [Modules.clientsFile basename] := by
  rw [ne_eq, List.append_cancel_left_eq, List.singleton_inj]
  exact Modules.typesFile_ne_clientsFile basename

/-- The first file is still there when the second has been written. -/
theorem stored_of_success (clean : '/' ∉ basename.toList)
    (success : ((store directory basename m : OnFiles Report) t).1.ending = .success) :
    t.Stored ((store directory basename m : OnFiles Report) t).2 directory basename m := by
  rcases store_cases directory basename m t with ⟨t₁, t₂, types, clients⟩ | fails
  · have proper := Modules.isProper_typesFile clean
    obtain ⟨before, holds, _⟩ := save_spec proper types
    obtain ⟨after, holds', outside⟩ := save_spec (Modules.isProper_clientsFile clean) clients
    rw [(store_of_saved types clients).2]
    refine ⟨holds.of_changed proper after ?_ ?_, holds', ?_⟩
    · exact fun mem => files_apart _ basename (List.mem_singleton.mp mem)
    · intro p hp file
      exact outside (List.mem_singleton.mp file ▸ hp)
    · rw [before.destination_eq, before.places_eq] at after
      exact (before.mono (List.Subset.refl _) (by simp)).trans
        (after.mono (List.Subset.refl _) (by simp))
  · exact absurd success fails

/-- The first file takes no room from the second. -/
theorem success_of_room (clean : '/' ∉ basename.toList)
    (types : t.Room directory (Modules.typesFile basename))
    (clients : t.Room directory (Modules.clientsFile basename)) (m : Modules) :
    ((store directory basename m : OnFiles Report) t).1.ending = .success := by
  have proper := Modules.isProper_typesFile clean
  obtain ⟨t₁, saved⟩ := save_of_room proper types m.types
  obtain ⟨changed, _, outside⟩ := save_spec proper saved
  have later := clients.of_changed changed
    (fun mem => files_apart _ basename (List.mem_singleton.mp mem).symm)
    (fun p hp file => outside (List.mem_singleton.mp file ▸ hp))
  obtain ⟨t₂, saved'⟩ := save_of_room (Modules.isProper_clientsFile clean) later m.clients
  exact (store_of_saved saved saved').1

end

namespace Command

/-- A run that something hinders fails, and leaves all as it was. A run that ends well has written
the modules for the document that it read, the types and the clients, into the directory, which was
made with those around it as far as they were missing; all else is as it was. And a run that nothing
hinders ends well if there is room for the two files. -/
theorem codegen_all_or_nothing (t : FileTree) (input directory : String) (given : Option String) :
    let run := (codegen input directory given).runOn t
    (t.Hindered input directory given → run.1.ending.exitCode ≠ 0 ∧ run.2 = t) ∧
      (run.1.ending.exitCode = 0 → ∃ basename m,
        t.Prepared input directory given basename m ∧ t.Stored run.2 directory basename m) ∧
      ∀ basename m, t.Prepared input directory given basename m →
        t.Room directory (Modules.typesFile basename) →
          t.Room directory (Modules.clientsFile basename) → run.1.ending.exitCode = 0 := by
  intro run
  have outcome : run = (LoadClients.codegen input directory given : OnFiles Report) t := rfl
  rw [ne_eq, Ending.exitCode_eq_zero_iff]
  rcases codegen_cases t input directory given with
    ⟨basename, m, events, prepared, written⟩ | ⟨hindered, fails, same⟩
  · rw [written] at outcome
    obtain ⟨config, _, named⟩ := prepared.name
    have clean := Basename.slashless_of_resolve named
    rw [outcome]
    refine ⟨fun hindered => absurd prepared hindered.not_prepared, fun success => ?_, ?_⟩
    · exact ⟨basename, m, prepared, stored_of_success clean success⟩
    · intro basename' m' prepared' types clients
      obtain ⟨rfl, rfl⟩ := prepared.unique prepared'
      exact success_of_room clean types clients m
  · rw [← outcome] at fails same
    exact ⟨fun _ => ⟨fails, same⟩, fun success => absurd success fails,
      fun _ _ prepared => absurd prepared hindered.not_prepared⟩

/-- A tree with a document, and with a configuration in the directory for its modules. -/
def cellar : FileTree :=
  FileTree.ofFiles [("cellar.json", "\x7b\"openapi\": \"3.0.0\", " ++
    "\"info\": \x7b\"title\": \"Cellar\", \"version\": \"1.0.0\"\x7d, " ++
    "\"paths\": \x7b\"/casks\": \x7b\"get\": \x7b\"tags\": [\"cask\"], " ++
    "\"responses\": \x7b\"204\": \x7b\"description\": \"Empty\"\x7d\x7d\x7d\x7d\x7d\x7d"),
    ("clients/.k6-clients.toml", "basename = \"old cellar\"")]

/-- A run for the document, and a run for one that is not there. -/
theorem codegen_all_or_nothing_cellar :
    (((codegen "cellar.json" "clients" none).runOn cellar).1.ending.exitCode = 0 ∧
      ∃ basename m, cellar.Prepared "cellar.json" "clients" none basename m ∧
        cellar.Stored ((codegen "cellar.json" "clients" none).runOn cellar).2 "clients" basename m) ∧
    cellar.Hindered "attic.json" "new/clients" (some "?") ∧
      ((codegen "attic.json" "new/clients" (some "?")).runOn cellar).1.ending.exitCode ≠ 0 ∧
        ((codegen "attic.json" "new/clients" (some "?")).runOn cellar).2 = cellar := by
  have success : ((codegen "cellar.json" "clients" none).runOn cellar).1.ending.exitCode = 0 := by
    decide +kernel
  have read : cellar.read "attic.json" = .error .missing :=
    failure?_eq_some_iff.mp (by decide +kernel)
  have hindered : cellar.Hindered "attic.json" "new/clients" (some "?") := .input read
  exact ⟨⟨success, (codegen_all_or_nothing cellar "cellar.json" "clients" none).2.1 success⟩, hindered,
    (codegen_all_or_nothing cellar "attic.json" "new/clients" (some "?")).1 hindered⟩

end Command

end LoadClients
