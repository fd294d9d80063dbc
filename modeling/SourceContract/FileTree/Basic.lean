import SourceContract.FileTree.Fault
import SourceContract.FileTree.Path

/-!
# File trees

A file tree is the whole of the files that a run can see: regular files,
directories and symbolic links, each at a location, the list of names that leads to
it from the top.

A path is followed name by name.  Links are replaced by their targets, at most
forty times; a name behind something that is no directory is an error, and so is a
name or a path that is too long.
-/

namespace SourceContract

inductive Node where
  | file (bytes : ByteArray)
  | directory
  | link (target : String)

abbrev Location := List String

/-- Nodes by location.  The top is a directory without an entry of its own. -/
structure FileTree where
  nodes : List (Location × Node)

/-- Where a path leads: to a node, or to a free name in a directory. -/
inductive Place where
  | taken (location : Location) (node : Node)
  | free (location : Location)

namespace FileTree

def empty : FileTree := ⟨[]⟩

/-! ## Nodes -/

def node? (t : FileTree) (l : Location) : Option Node :=
  if l.isEmpty then some .directory else t.nodes.lookup l

def put (t : FileTree) (l : Location) (n : Node) : FileTree :=
  if t.nodes.any fun e => e.1 == l then
    ⟨t.nodes.map fun e => if e.1 == l then (l, n) else e⟩
  else ⟨t.nodes ++ [(l, n)]⟩

def without (t : FileTree) (l : Location) : FileTree :=
  ⟨t.nodes.filter fun e => !l.isPrefixOf e.1⟩

def namesIn (t : FileTree) (l : Location) : List String :=
  t.nodes.filterMap fun e =>
    if e.1.length = l.length + 1 ∧ l.isPrefixOf e.1 then e.1.getLast? else none

def locationText (l : Location) : String := "/" ++ "/".intercalate l

/-! ## Limits -/

def maxLinks : Nat := 40

def maxNameSize : Nat := 255

def maxPathSize : Nat := 4095

/-! ## Following paths -/

/-- What is still to be followed: names, with a dot for a slash at the end. -/
def steps (path : String) : List String :=
  let ps := (Path.pieces path).filter fun p => !p.isEmpty
  if Path.hasEndSlash path then ps ++ ["."] else ps

/-- Follows names from a directory; `jump` goes on behind a link, from its directory and with its
target and the names that are left.  A link at the end is followed when `followLast` is set. -/
def followUntilLink (t : FileTree) (followLast : Bool)
    (jump : Location → String → List String → Except FileFault Place) (here : Location) :
    List String → Except FileFault Place
  | [] => .ok (.taken here ((t.node? here).getD .directory))
  | name :: rest =>
      if name == "." then t.followUntilLink followLast jump here rest
      else if name == ".." then t.followUntilLink followLast jump here.dropLast rest
      else if maxNameSize < name.utf8ByteSize then .error .nameTooLong
      else
        match t.node? (here ++ [name]) with
        | none => if rest.isEmpty then .ok (.free (here ++ [name])) else .error .notFound
        | some .directory => t.followUntilLink followLast jump (here ++ [name]) rest
        | some (.file bytes) =>
            if rest.isEmpty then .ok (.taken (here ++ [name]) (.file bytes))
            else .error .notDirectory
        | some (.link target) =>
            if rest.isEmpty && !followLast then .ok (.taken (here ++ [name]) (.link target))
            else jump here target rest

/-- Follows names from a directory, through as many links at most. -/
def follow (t : FileTree) (followLast : Bool) :
    Nat → Location → List String → Except FileFault Place
  | 0 => t.followUntilLink followLast fun _ _ _ => .error .tooManyLinks
  | links + 1 => t.followUntilLink followLast fun here target rest =>
      if target.isEmpty then .error .notFound
      else t.follow followLast links (if Path.isAbsolute target then [] else here)
        (steps target ++ rest)

def locate (t : FileTree) (followLast : Bool) (cwd : Location) (path : String) :
    Except FileFault Place :=
  if '\x00' ∈ path.toList then .error .nullInName
  else if path.isEmpty then .error .notFound
  else if maxPathSize < path.utf8ByteSize then .error .nameTooLong
  else t.follow followLast maxLinks (if Path.isAbsolute path then [] else cwd) (steps path)

def resolve (t : FileTree) (cwd : Location) (path : String) : Except FileFault (Location × Node) :=
  match t.locate true cwd path with
  | .ok (.taken l n) => .ok (l, n)
  | .ok (.free _) => .error .notFound
  | .error e => .error e

/-! ## Questions -/

def canonicalize (t : FileTree) (cwd : Location) (path : String) : Except FileFault String :=
  (t.resolve cwd path).map fun r => locationText r.1

def isDirectory (t : FileTree) (cwd : Location) (path : String) : Bool :=
  match t.resolve cwd path with
  | .ok (_, .directory) => true
  | _ => false

def isFile (t : FileTree) (cwd : Location) (path : String) : Bool :=
  match t.resolve cwd path with
  | .ok (_, .file _) => true
  | _ => false

def read (t : FileTree) (cwd : Location) (path : String) : Except FileFault ByteArray :=
  match t.resolve cwd path with
  | .ok (_, .file bytes) => .ok bytes
  | .ok _ => .error .isDirectory
  | .error e => .error e

/-! ## Changes -/

def makeDirectory (t : FileTree) (cwd : Location) (path : String) : Except FileFault FileTree :=
  match t.locate false cwd (Path.withoutEndSlash path) with
  | .ok (.taken ..) => .error .exists
  | .ok (.free l) => .ok (t.put l .directory)
  | .error e => .error e

def makeDirectoriesUp (cwd : Location) : Nat → FileTree → String → FileTree × Except FileFault Unit
  | 0, t, _ => (t, .ok ())
  | fuel + 1, t, path =>
      if path.isEmpty then (t, .ok ())
      else
        match t.makeDirectory cwd path with
        | .ok t => (t, .ok ())
        | .error .notFound =>
            match Path.parent? path with
            | none => (t, .error (.other "failed to create whole tree"))
            | some above =>
                match makeDirectoriesUp cwd fuel t above with
                | (t, .error e) => (t, .error e)
                | (t, .ok ()) =>
                    match t.makeDirectory cwd path with
                    | .ok t => (t, .ok ())
                    | .error e => (t, if t.isDirectory cwd path then .ok () else .error e)
        | .error e => (t, if t.isDirectory cwd path then .ok () else .error e)

def makeDirectories (t : FileTree) (cwd : Location) (path : String) :
    FileTree × Except FileFault Unit :=
  makeDirectoriesUp cwd (path.length + 1) t path

def write (t : FileTree) (cwd : Location) (path : String) (bytes : ByteArray) :
    Except FileFault FileTree :=
  match t.locate true cwd (Path.withoutEndSlash path) with
  | .error e => .error e
  | .ok (.taken _ .directory) => .error .isDirectory
  | .ok (.taken l _) | .ok (.free l) =>
      if Path.endsInSlash path then .error .isDirectory else .ok (t.put l (.file bytes))

def remove (t : FileTree) (cwd : Location) (path : String) : Except FileFault FileTree :=
  match t.locate false cwd path with
  | .ok (.taken l _) => .ok (t.without l)
  | .ok (.free _) => .error .notFound
  | .error e => .error e

end FileTree

end SourceContract
