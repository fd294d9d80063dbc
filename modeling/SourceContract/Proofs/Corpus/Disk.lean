import SourceContract.Corpus.Project
import SourceContract.Proofs.Corpus.Cache

/-!
# The answers of a file tree

A project on a file tree is only read while its files are asked for and its
directories are listed.  So the tree is the same afterwards, and what it answers can
be said without running anything.
-/

namespace SourceContract.FileTree

variable (cwd : Location) (root : String) (t : FileTree)

def answerTo (path : String) : Entry :=
  match t.read cwd (Path.join root path) with
  | .ok bytes => .ok (Text.Utf8.decode bytes)
  | .error fault =>
      .error (loadError path (t.isDirectory cwd (Path.join root path)) fault)

variable {cwd root t} in
theorem answerTo_eq_ok_iff {path text : String} :
    t.answerTo cwd root path = .ok text ↔
      ∃ bytes, t.read cwd (Path.join root path) = .ok bytes ∧ Text.Utf8.decode bytes = text := by
  unfold answerTo
  cases t.read cwd (Path.join root path) <;> simp

def listingOf (dir glob : String) : Except LoadError (List String) :=
  if t.isDirectory cwd (Path.join root dir) then
    match Glob.compile glob with
    | .error fault => .error (globError dir glob fault)
    | .ok compiled =>
        match t.walk cwd (Path.join root dir) with
        | .error fault => .error (walkError root dir fault)
        | .ok found => .ok (matching root compiled found)
  else .error (.notFound dir)

def answers : Answers := ⟨t.answerTo cwd root, t.listingOf cwd root⟩

/-! ## The disk of a tree -/

theorem run_read (path : String) : ((disk cwd).read path).run t = (t.read cwd path, t) := (rfl)

theorem run_isDirectory (path : String) :
    ((disk cwd).isDirectory path).run t = (t.isDirectory cwd path, t) := (rfl)

theorem run_walk (path : String) : ((disk cwd).walk path).run t = (t.walk cwd path, t) := (rfl)

theorem run_load (path : String) :
    ((disk cwd).load root path).run t = (t.answerTo cwd root path, t) := by
  simp only [Disk.load, answerTo, run_bind, run_read]
  cases t.read cwd (Path.join root path) with
  | ok bytes => rfl
  | error fault => simp only [run_bind, run_isDirectory, StateT.run_pure]; rfl

theorem run_discover (dir glob : String) :
    ((disk cwd).discover root dir glob).run t = (t.listingOf cwd root dir glob, t) := by
  simp only [Disk.discover, listingOf, run_bind, run_isDirectory]
  by_cases hdir : t.isDirectory cwd (Path.join root dir) = true
  · simp only [hdir, Bool.not_true, Bool.false_eq_true, if_false, if_true]
    cases Glob.compile glob with
    | error fault => rfl
    | ok compiled =>
        simp only [run_bind, run_walk]
        cases t.walk cwd (Path.join root dir) <;> rfl
  · rw [Bool.not_eq_true] at hdir
    simp only [hdir, Bool.not_false, Bool.false_eq_true, if_false, if_true]
    rfl

/-! ## The project on a tree -/

theorem steady_project : ((disk cwd).project root).Steady t where
  read path := congrArg Prod.snd (run_load cwd root t path)
  list dir glob := congrArg Prod.snd (run_discover cwd root t dir glob)

theorem at_project : ((disk cwd).project root).at t = t.answers cwd root := by
  unfold Source.at answers
  congr
  · funext path
    exact congrArg Prod.fst (run_load cwd root t path)
  · funext dir glob
    exact congrArg Prod.fst (run_discover cwd root t dir glob)

end SourceContract.FileTree
