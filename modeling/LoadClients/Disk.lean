import LoadClients.FileTree

/-! What a run needs of the place where files are kept. -/

namespace LoadClients

class Disk (m : Type → Type) where
  read : String → m (Except Obstacle String)
  makeDirectories : String → m (Except Obstacle Unit)
  write : String → String → m (Except Obstacle Unit)

/-- Computations that read and write a tree of files. -/
abbrev OnFiles := StateM FileTree

instance : Disk OnFiles where
  read path := fun t => (t.read path, t)
  makeDirectories path := fun t =>
    let r := t.makeDirectories path
    (r.2, r.1)
  write path text := fun t =>
    let r := t.write path text
    (r.2, r.1)

end LoadClients
