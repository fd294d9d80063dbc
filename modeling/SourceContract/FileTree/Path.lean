/-!
# Path texts

A path is a text of names between slashes.  Here are the operations that only look
at the text and never at files: joining, the parent, and what is left behind a
leading part.  A dot between slashes and a doubled slash name nothing; they stay in
the text where an operation does not cut.
-/

namespace SourceContract.Path

def isAbsolute (path : String) : Bool := path.toList.head? == some '/'

def hasEndSlash (path : String) : Bool := path.toList.getLast? == some '/'

def join (base path : String) : String :=
  if isAbsolute path then path
  else if hasEndSlash base || base.isEmpty then base ++ path
  else base ++ "/" ++ path

def pieces (path : String) : List String := (path.toList.splitOn '/').map String.ofList

def isVoid (piece : String) : Bool := piece.isEmpty || piece == "."

/-! ## Names

The names of a path are its pieces that stand for something.  A relative path may
begin with a dot, which counts as a name. -/

def names (path : String) : List String :=
  let own := (pieces path).filter fun p => !isVoid p
  if !isAbsolute path && (pieces path).head? == some "." then "." :: own else own

def endsInSlash (path : String) : Bool := hasEndSlash path && path.toList.any fun c => c != '/'

def withoutEndSlash (path : String) : String :=
  if endsInSlash path then (path.dropEndWhile '/').toString else path

/-! ## Parents -/

def trimEnd (ps : List String) : List String := (ps.reverse.dropWhile isVoid).reverse

/-- The text of the directory that a path lies in; nothing when the path names nothing. -/
def parent? (path : String) : Option String :=
  match names path with
  | [] => none
  | [_] => some (if isAbsolute path then "/" else "")
  | _ =>
      let kept := trimEnd (trimEnd (pieces path)).dropLast
      some (match kept with
        | [] => if isAbsolute path then "/" else "."
        | ps => "/".intercalate ps)

/-! ## Leading parts -/

def afterNames : List String → List String → Option (List String)
  | [], ps => some (ps.dropWhile isVoid)
  | _ :: _, [] => none
  | n :: ns, p :: ps =>
      if p == n then afterNames ns ps
      else if isVoid p then afterNames (n :: ns) ps
      else none

/-- What is left of a path below a directory, if the path begins with it.  The empty directory
leaves all of it. -/
def relativeTo? (directory path : String) : Option String :=
  if isAbsolute directory != isAbsolute path then none
  else
    let left := if directory.isEmpty then some (pieces path)
      else afterNames (names directory) (pieces path)
    left.map fun ps => "/".intercalate (trimEnd ps)

def withSlashes (path : String) : String := path.map fun c => if c = '\\' then '/' else c

end SourceContract.Path
