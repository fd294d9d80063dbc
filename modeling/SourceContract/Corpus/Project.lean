import SourceContract.Corpus.Basic
import SourceContract.FileTree.Disk
import SourceContract.Glob.Match
import SourceContract.Text.Quoted
import SourceContract.Text.Utf8

/-!
# A project as a source

A project is a directory on a disk.  Its files are named by paths relative to it,
also those that a walk finds; a walk gives them in ascending order.
-/

namespace SourceContract

variable {m : Type → Type} [Monad m]

def loadError (path : String) (isDirectory : Bool) (fault : FileFault) : LoadError :=
  if fault = .notFound || isDirectory then .notFound path
  else .unreadable path fault.message

def projectPath? (root path : String) : Option String :=
  (Path.relativeTo? root path).map Path.withSlashes

def globError (dir glob : String) (fault : Glob.Fault) : LoadError :=
  .unreadable dir ("invalid glob " ++ Text.Quoted.quote glob ++ ": " ++ fault.message glob)

def walkError (root dir : String) (fault : WalkFault) : LoadError :=
  .unreadable ((projectPath? root fault.path).getD dir) fault.message

def matching (root : String) (glob : Glob) (found : List WalkedFile) : List String :=
  let paths := (found.filter fun f => glob.isMatch f.name).filterMap
    fun f => projectPath? root f.path
  paths.mergeSort fun a b => a ≤ b

namespace Disk

def load (disk : Disk m) (root path : String) : m Entry := do
  let full := Path.join root path
  match ← disk.read full with
  | .ok bytes => return .ok (Text.Utf8.decode bytes)
  | .error fault => return .error (loadError path (← disk.isDirectory full) fault)

def discover (disk : Disk m) (root dir glob : String) :
    m (Except LoadError (List String)) := do
  let base := Path.join root dir
  if !(← disk.isDirectory base) then return .error (.notFound dir)
  else
    match Glob.compile glob with
    | .error fault => return .error (globError dir glob fault)
    | .ok compiled =>
        match ← disk.walk base with
        | .error fault => return .error (walkError root dir fault)
        | .ok found => return .ok (matching root compiled found)

def project (disk : Disk m) (root : String) : Source m := ⟨disk.load root, disk.discover root⟩

end Disk

end SourceContract
