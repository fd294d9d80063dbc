import SourceContract.Corpus.Access
import SourceContract.Verdict.Summary

/-!
# The corpus of a run

A corpus remembers what asking for each path gave the first time, text or error,
and answers every later question about the path with it.  So a run reads each file
once, and the checks of a run never see two states of one file.
-/

namespace SourceContract

/-- Answers so far, the latest path first; each path stands once. -/
structure Corpus where
  answers : List (String × Entry)

namespace Corpus

def empty : Corpus := ⟨[]⟩

def find? (c : Corpus) (path : String) : Option Entry := c.answers.lookup path

def add (c : Corpus) (path : String) (e : Entry) : Corpus := ⟨(path, e) :: c.answers⟩

def isText : Entry → Bool
  | .ok _ => true
  | .error _ => false

def stats (c : Corpus) : CorpusStats where
  filesInspected := (c.answers.filter fun a => isText a.2).length
  filesMissing := (c.answers.filter fun a => !isText a.2).length

end Corpus

/-! ## Answering programs -/

/-- Where answers come from when the corpus has none. -/
structure Source (m : Type → Type) where
  read : String → m Entry
  list : String → String → m (Except LoadError (List String))

variable {m : Type → Type} [Monad m] {α : Type}

/-- Runs a program on a corpus: a path that was asked for before is not read again. -/
def Access.run (s : Source m) : Access α → Corpus → m (α × Corpus)
  | .done a, c => pure (a, c)
  | .load path next, c =>
      match c.find? path with
      | some e => (next e).run s c
      | none => do
          let e ← s.read path
          (next e).run s (c.add path e)
  | .list dir glob next, c => do
      let found ← s.list dir glob
      (next found).run s c

end SourceContract
