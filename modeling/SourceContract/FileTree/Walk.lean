import SourceContract.FileTree.Basic

/-!
# Walking below a directory

A walk reaches every file below a directory and follows links.  It ends at the
first bad entry: a link that leads nowhere, or a link to a directory that the walk
is in at that moment.
-/

namespace SourceContract

structure WalkedFile where
  path : String
  name : String
deriving DecidableEq, Repr

inductive WalkFault where
  | unreadable (path : String) (fault : FileFault)
  | loop (path ancestor : String)
deriving DecidableEq, Repr

namespace WalkFault

def path : WalkFault → String
  | unreadable p _ => p
  | loop p _ => p

def message : WalkFault → String
  | unreadable p fault => "IO error for operation on " ++ p ++ ": " ++ fault.message
  | loop p ancestor => "File system loop found: " ++ p ++ " points to an ancestor " ++ ancestor

end WalkFault

namespace FileTree

/-- Directories that a walk is in, the innermost first, each with the path that led there. -/
abbrev Trail := List (Location × String)

/-- Files below the first directory of the trail.  A link is followed by its whole path, so the
links on the way to it count.  `fuel` bounds the depth. -/
def walkBelow (t : FileTree) (cwd : Location) :
    Nat → Location → String → Trail → Except WalkFault (List WalkedFile)
  | 0, _, _, _ => .ok []
  | fuel + 1, here, path, trail => do
      let parts ← (t.namesIn here).mapM fun name =>
        let child := Path.join path name
        let enter (l : Location) := t.walkBelow cwd fuel l child ((l, child) :: trail)
        match t.node? (here ++ [name]) with
        | some (.file _) => .ok [WalkedFile.mk child name]
        | some .directory => enter (here ++ [name])
        | some (.link _) =>
            match t.resolve cwd child with
            | .ok (l, .directory) =>
                match trail.lookup l with
                | some ancestor => .error (.loop child ancestor)
                | none => enter l
            | .ok _ => .ok [WalkedFile.mk child name]
            | .error fault => .error (.unreadable child fault)
        | none => .ok []
      return parts.flatten

/-- A trail holds each directory once as a link's target, and once more below each of the others at
most, so the square of the number of nodes bounds its length. -/
def walkFuel (t : FileTree) : Nat := (t.nodes.length + 2) * (t.nodes.length + 2)

def walk (t : FileTree) (cwd : Location) (path : String) : Except WalkFault (List WalkedFile) :=
  match t.resolve cwd path with
  | .ok (l, _) => t.walkBelow cwd t.walkFuel l path [(l, path)]
  | .error fault => .error (.unreadable path fault)

end FileTree

end SourceContract
