/-!
# Programs that ask for files

A check is decided by a program that asks for the texts of files and for the files
below directories.  The program says nothing about how it is answered: from a disk,
from a snapshot, alone or among others.
-/

namespace SourceContract

/-! ## Files that cannot be had -/

inductive LoadError where
  | notFound (path : String)
  | unreadable (path reason : String)
deriving DecidableEq, Repr

namespace LoadError

def path : LoadError → String
  | notFound p => p
  | unreadable p _ => p

def message : LoadError → String
  | notFound p => "file not found: " ++ p
  | unreadable p reason => "file unreadable: " ++ p ++ ": " ++ reason

end LoadError

abbrev Entry := Except LoadError String

/-! ## Programs -/

inductive Access (α : Type) where
  | done (a : α)
  | load (path : String) (next : Entry → Access α)
  | list (dir glob : String) (next : Except LoadError (List String) → Access α)

namespace Access

variable {α β : Type}

def bind (p : Access α) (f : α → Access β) : Access β :=
  match p with
  | done a => f a
  | load path next => load path fun e => (next e).bind f
  | list dir glob next => list dir glob fun e => (next e).bind f

instance : Monad Access where
  pure := done
  bind := bind

def entry (path : String) : Access Entry := load path done

def files (dir glob : String) : Access (Except LoadError (List String)) := list dir glob done

/-- The text of a file, and nothing for a file that cannot be had. -/
def text (path : String) : Access String := do
  match ← entry path with
  | .ok t => return t
  | .error _ => return ""

def entries : List String → Access (List (String × Entry))
  | [] => return []
  | path :: rest => do
      let e ← entry path
      return (path, e) :: (← entries rest)

def textsOf : List String → Access (List String)
  | [] => return []
  | path :: rest => do
      let t ← text path
      return t :: (← textsOf rest)

theorem bind_done (p : Access α) : p.bind done = p := by
  induction p with
  | done a => rfl
  | load path next ih => simp only [bind, ih]
  | list dir glob next ih => simp only [bind, ih]

theorem bind_assoc {γ : Type} (p : Access α) (f : α → Access β) (g : β → Access γ) :
    (p.bind f).bind g = p.bind fun a => (f a).bind g := by
  induction p with
  | done a => rfl
  | load path next ih => simp only [bind, ih]
  | list dir glob next ih => simp only [bind, ih]

end Access

end SourceContract
