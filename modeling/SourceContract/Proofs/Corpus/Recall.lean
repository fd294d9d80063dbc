import SourceContract.Proofs.Corpus.Snapshot

/-!
# A corpus in any state

A corpus may remember files as they were before the disk changed.  From then on, as long
as the files stay as they are, a program on the corpus is told what the corpus remembers,
and for any other path what the files answer.  Learning an answer changes nothing of it.
-/

namespace SourceContract

variable {σ α : Type}

namespace Corpus

variable {a : Answers} {c : Corpus} {path : String}

/-- What a program is told on the corpus: what it remembers, and what `a` answers otherwise. -/
def tells (c : Corpus) (a : Answers) : Answers where
  read path := (c.find? path).getD (a.read path)
  list := a.list

theorem read_tells_of_find? {e : Entry} (h : c.find? path = some e) :
    (c.tells a).read path = e := by
  simp only [tells, h, Option.getD_some]

theorem read_tells_of_new (h : c.find? path = none) : (c.tells a).read path = a.read path := by
  simp only [tells, h, Option.getD_none]

theorem tells_add (h : c.find? path = none) : (c.add path (a.read path)).tells a = c.tells a := by
  rw [tells, tells]
  congr
  funext q
  rw [find?_add]
  split
  next hq => rw [hq, h, Option.getD_some, Option.getD_none]
  next => rfl

end Corpus

theorem Access.run_tells {s : Source (StateM σ)} {w : σ} (still : s.Steady w) (p : Access α)
    (c : Corpus) : ((p.run s c).run w).1.1 = p.value (c.tells (s.at w)) := by
  induction p generalizing c with
  | done r => rfl
  | load path next ih =>
      cases hfind : c.find? path with
      | some e =>
          simp only [run, value, hfind, Corpus.read_tells_of_find? hfind]
          exact ih e c
      | none =>
          -- From here on the corpus remembers the answer, which changes nothing of what it tells.
          have hnext := ih ((s.at w).read path) (c.add path ((s.at w).read path))
          rw [Corpus.tells_add hfind] at hnext
          simp only [run, value, hfind, Corpus.read_tells_of_new hfind, run_bind, still.run_read]
          exact hnext
  | list dir glob next ih =>
      simp only [run, value, run_bind, still.run_list]
      exact ih _ c

end SourceContract
