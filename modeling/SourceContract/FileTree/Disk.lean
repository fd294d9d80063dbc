import SourceContract.FileTree.Walk

/-!
# Disks

A disk is what a run needs from the outside, in a monad of the outside's own.  A
file tree with a working directory is a disk whose every operation is known.
-/

namespace SourceContract

structure Disk (m : Type → Type) where
  currentDirectory : m String
  canonicalize : String → m (Except FileFault String)
  isDirectory : String → m Bool
  isFile : String → m Bool
  read : String → m (Except FileFault ByteArray)
  walk : String → m (Except WalkFault (List WalkedFile))
  makeDirectories : String → m (Except FileFault Unit)
  write : String → String → m (Except FileFault Unit)

def FileTree.disk (cwd : Location) : Disk (StateM FileTree) where
  currentDirectory := return locationText cwd
  canonicalize path := return (← get).canonicalize cwd path
  isDirectory path := return (← get).isDirectory cwd path
  isFile path := return (← get).isFile cwd path
  read path := return (← get).read cwd path
  walk path := return (← get).walk cwd path
  makeDirectories path := do
    let (tree, result) := (← get).makeDirectories cwd path
    set tree
    return result
  write path text := do
    match (← get).write cwd path text.toUTF8 with
    | .ok tree =>
        set tree
        return .ok ()
    | .error fault => return .error fault

end SourceContract
