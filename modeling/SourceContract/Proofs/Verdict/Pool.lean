import SourceContract.Proofs.Verdict.Isolation

/-!
# Checks side by side

A pool evaluates each check by a worker of its own.  The workers share one corpus and
one disk, and take turns in any order.  One turn is one access to what is shared: a
look into the corpus, a read from the disk, or the keeping of what was read.
Between a look that finds nothing and the keeping, other workers may have kept an
answer for the same path; then theirs stays and is the one that is used.
-/

namespace SourceContract

open Matching (MatchMode)

variable {σ : Type}

/-! ## Workers -/

def Corpus.keep (c : Corpus) (path : String) (e : Entry) : Entry × Corpus :=
  match c.find? path with
  | some kept => (kept, c)
  | none => (e, c.add path e)

inductive Worker where
  /-- The check is not begun. -/
  | waiting (check : Check)
  | running (rest : Access CheckResult)
  /-- The corpus had no answer for the path. -/
  | reading (path : String) (next : Entry → Access CheckResult)
  /-- The disk has answered, but the corpus has not been told. -/
  | storing (path : String) (e : Entry) (next : Entry → Access CheckResult)
  /-- There is no result when the run was cancelled before the check was begun. -/
  | finished (outcome : Option CheckResult)

namespace Worker

/-- One turn of a worker, which may change the corpus and the disk. -/
def step (s : Source (StateM σ)) (cancelled : Bool) (mode : MatchMode) (corpus : Corpus)
    (disk : σ) : Worker → Worker × Corpus × σ
  | waiting c =>
      (if cancelled then finished none else running (c.evaluate mode), corpus, disk)
  | running (.done r) => (finished (some r), corpus, disk)
  | running (.load path next) =>
      match corpus.find? path with
      | some e => (running (next e), corpus, disk)
      | none => (reading path next, corpus, disk)
  | running (.list dir glob next) =>
      let (found, disk) := (s.list dir glob).run disk
      (running (next found), corpus, disk)
  | reading path next =>
      let (e, disk) := (s.read path).run disk
      (storing path e next, corpus, disk)
  | storing path e next =>
      let (kept, corpus) := corpus.keep path e
      (running (next kept), corpus, disk)
  | finished outcome => (finished outcome, corpus, disk)

def outcome? : Worker → Option (Option CheckResult)
  | finished outcome => some outcome
  | _ => none

end Worker

/-! ## Pools -/

structure Pool (σ : Type) where
  workers : List Worker
  corpus : Corpus
  disk : σ

namespace Pool

def start (checks : List Check) (disk : σ) : Pool σ := ⟨checks.map .waiting, .empty, disk⟩

def turn (s : Source (StateM σ)) (cancelled : Bool) (mode : MatchMode) (pool : Pool σ) (i : Nat) :
    Pool σ :=
  match pool.workers[i]? with
  | none => pool
  | some worker =>
      let (worker, corpus, disk) := worker.step s cancelled mode pool.corpus pool.disk
      ⟨pool.workers.set i worker, corpus, disk⟩

def after (s : Source (StateM σ)) (cancelled : Bool) (mode : MatchMode) (pool : Pool σ)
    (schedule : List Nat) : Pool σ :=
  schedule.foldl (turn s cancelled mode) pool

section Turns

variable {s : Source (StateM σ)} {cancelled : Bool} {mode : MatchMode} {pool : Pool σ} {i : Nat}

theorem turn_none (h : pool.workers[i]? = none) : pool.turn s cancelled mode i = pool := by
  simp only [turn, h]

theorem turn_some {worker : Worker} (h : pool.workers[i]? = some worker) :
    pool.turn s cancelled mode i =
      let (worker, corpus, disk) := worker.step s cancelled mode pool.corpus pool.disk
      ⟨pool.workers.set i worker, corpus, disk⟩ := by
  simp only [turn, h]

end Turns

def report? (name : String) (checks : List Check) (pool : Pool σ) : Option RunReport := do
  let evaluated ← pool.workers.mapM Worker.outcome?
  return .aggregate name (evaluated.filterMap id) pool.corpus.stats
    (evaluated.length < checks.length || evaluated.any Option.isNone)

end Pool

/-- The report of a run whose checks are evaluated side by side, with turns in the order of the
schedule.  There is none if the schedule leaves a check unfinished. -/
def runChecksInPool (s : Source (StateM σ)) (cancelled : Bool) (name : String) (mode : MatchMode)
    (checks : List Check) (schedule : List Nat) (disk : σ) : Option RunReport :=
  ((Pool.start checks disk).after s cancelled mode schedule).report? name checks

end SourceContract
