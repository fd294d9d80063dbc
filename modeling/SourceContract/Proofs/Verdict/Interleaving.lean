import SourceContract.Proofs.Verdict.Pool

/-!
# The order of turns does not matter

While the files do not change, a worker that has lost the race for a path goes on
with the same answer as the one that has won it.  So what a worker will give is
settled from the start, and so is the set of paths that will be known in the end.
Each turn keeps both, and brings its worker nearer to its end.
-/

namespace SourceContract

open Matching (MatchMode)

variable {σ : Type} {s : Source (StateM σ)} {w : σ}

/-! ## What lies before a worker -/

def Access.turns {α : Type} (a : Answers) : Access α → Nat
  | done _ => 1
  | load path next => (next (a.read path)).turns a + 3
  | list dir glob next => (next (a.list dir glob)).turns a + 1

theorem Access.turns_pos {α : Type} (a : Answers) (p : Access α) : 0 < p.turns a := by
  cases p <;> simp [turns]

namespace Worker

variable (a : Answers) (cancelled : Bool) (mode : MatchMode)

/-- What the worker will end with. -/
def promise : Worker → Option CheckResult
  | waiting c => if cancelled then none else some (c.verdict a mode)
  | running p => some (p.value a)
  | reading path next | storing path _ next => some ((next (a.read path)).value a)
  | finished outcome => outcome

def due : Worker → List String
  | waiting c => if cancelled then [] else c.touched a mode
  | running p => p.asked a
  | reading path next | storing path _ next => path :: (next (a.read path)).asked a
  | finished _ => []

def left : Worker → Nat
  | waiting c => if cancelled then 1 else (c.evaluate mode).turns a + 1
  | running p => p.turns a
  | reading path next => (next (a.read path)).turns a + 2
  | storing path _ next => (next (a.read path)).turns a + 1
  | finished _ => 0

def Honest : Worker → Prop
  | storing path e _ => e = a.read path
  | _ => True

theorem eq_finished_of_left {worker : Worker} (h : worker.left a cancelled mode = 0) :
    ∃ outcome, worker = finished outcome := by
  cases worker with
  | waiting c =>
      cases cancelled <;> simp [left] at h
  | running p => exact absurd h (Nat.pos_iff_ne_zero.mp (p.turns_pos a))
  | reading path next => simp [left] at h
  | storing path e next => simp [left] at h
  | finished outcome => exact ⟨outcome, rfl⟩

/-- What one turn does to the worker that takes it and to the corpus. -/
structure Advance (before after : Worker) (corpus corpus' : Corpus) : Prop where
  agrees : corpus'.Agrees a
  honest : after.Honest a
  promise_eq : after.promise a cancelled mode = before.promise a cancelled mode
  kept : ∀ path ∈ corpus.paths, path ∈ corpus'.paths
  covered : ∀ path,
    path ∈ corpus'.paths ∨ path ∈ after.due a cancelled mode ↔
      path ∈ corpus.paths ∨ path ∈ before.due a cancelled mode
  left_le : after.left a cancelled mode ≤ before.left a cancelled mode - 1

end Worker

theorem Corpus.keep_eq {a : Answers} {c : Corpus} (h : c.Agrees a) (path : String) :
    c.keep path (a.read path) = (a.read path, c.learn a path) := by
  unfold keep learn
  cases hfind : c.find? path with
  | some e =>
      have known : path ∈ c.paths := List.mem_map_of_mem (mem_answers_of_find? hfind)
      rw [if_pos known, h.find?_eq hfind]
  | none =>
      have new : path ∉ c.paths := find?_eq_none_iff.mp hfind
      rw [if_neg new]

namespace Worker

theorem step_advance (still : s.Steady w) (cancelled : Bool) (mode : MatchMode)
    {worker : Worker} {corpus : Corpus} (agrees : corpus.Agrees (s.at w))
    (honest : worker.Honest (s.at w)) :
    ∃ after corpus', worker.step s cancelled mode corpus w = (after, corpus', w) ∧
      Advance (s.at w) cancelled mode worker after corpus corpus' := by
  cases worker with
  | waiting c =>
      refine ⟨_, corpus, rfl, ?_⟩
      cases cancelled
      · exact ⟨agrees, trivial, rfl, fun _ h => h, fun _ => Iff.rfl, Nat.le_refl _⟩
      · exact ⟨agrees, trivial, rfl, fun _ h => h, fun _ => Iff.rfl, Nat.le_refl _⟩
  | running p =>
      cases p with
      | done r =>
          exact ⟨_, corpus, rfl, agrees, trivial, rfl, fun _ h => h, fun _ => Iff.rfl,
            Nat.le_refl _⟩
      | load path next =>
          cases hfind : corpus.find? path with
          | some e =>
              obtain rfl := agrees.find?_eq hfind
              have known : path ∈ corpus.paths :=
                List.mem_map_of_mem (Corpus.mem_answers_of_find? hfind)
              refine ⟨running (next ((s.at w).read path)), corpus, by simp [step, hfind],
                agrees, trivial, rfl, fun _ h => h, ?_, ?_⟩
              · intro q
                simp only [due, Access.asked, List.mem_cons]
                constructor
                · rintro (h | h)
                  · exact Or.inl h
                  · exact Or.inr (Or.inr h)
                · rintro (h | rfl | h)
                  · exact Or.inl h
                  · exact Or.inl known
                  · exact Or.inr h
              · simp only [left, Access.turns]
                omega
          | none =>
              exact ⟨reading path next, corpus, by simp [step, hfind], agrees, trivial, rfl,
                fun _ h => h, fun _ => Iff.rfl, Nat.le_refl _⟩
      | list dir glob next =>
          refine ⟨running (next ((s.at w).list dir glob)), corpus, ?_, agrees, trivial, rfl,
            fun _ h => h, fun _ => Iff.rfl, Nat.le_refl _⟩
          simp only [step, still.run_list]
  | reading path next =>
      refine ⟨storing path ((s.at w).read path) next, corpus, ?_, agrees, rfl, rfl,
        fun _ h => h, fun _ => Iff.rfl, Nat.le_refl _⟩
      simp only [step, still.run_read]
  | storing path e next =>
      -- Whether or not the race for the path is lost, the corpus now has this very answer.
      obtain rfl : e = (s.at w).read path := honest
      refine ⟨running (next ((s.at w).read path)), corpus.learn (s.at w) path, ?_,
        agrees.learn path, trivial, rfl, ?_, ?_, Nat.le_refl _⟩
      · simp only [step, Corpus.keep_eq agrees]
      · intro q hq
        exact Corpus.mem_paths_learn.mpr (Or.inl hq)
      · intro q
        simp only [due, Corpus.mem_paths_learn, List.mem_cons, or_assoc]
  | finished outcome =>
      exact ⟨_, corpus, rfl, agrees, trivial, rfl, fun _ h => h, fun _ => Iff.rfl,
        Nat.zero_le _⟩

end Worker

/-! ## Pools -/

namespace Pool

/-- What holds of a pool after any turns: nothing is lost of what the checks promised, and every
path that they need is known or still to be asked for. -/
structure Sound (a : Answers) (cancelled : Bool) (mode : MatchMode) (checks : List Check) (w : σ)
    (pool : Pool σ) : Prop where
  disk_eq : pool.disk = w
  agrees : pool.corpus.Agrees a
  honest : ∀ worker ∈ pool.workers, worker.Honest a
  promises : pool.workers.map (Worker.promise a cancelled mode) =
    (checks.map Worker.waiting).map (Worker.promise a cancelled mode)
  covered : ∀ path,
    path ∈ pool.corpus.paths ∨ path ∈ pool.workers.flatMap (Worker.due a cancelled mode) ↔
      path ∈ (checks.map Worker.waiting).flatMap (Worker.due a cancelled mode)

theorem sound_start (a : Answers) (cancelled : Bool) (mode : MatchMode) (checks : List Check)
    (w : σ) : (start checks w).Sound a cancelled mode checks w where
  disk_eq := rfl
  agrees := Corpus.empty_agrees a
  honest := by
    intro worker hworker
    obtain ⟨c, -, rfl⟩ := List.mem_map.mp hworker
    trivial
  promises := rfl
  covered := by simp [start]

private theorem set_split {α : Type} {l : List α} {i : Nat} {x : α} (h : l[i]? = some x) (y : α) :
    ∃ before rest, l = before ++ x :: rest ∧ l.set i y = before ++ y :: rest := by
  obtain ⟨hi, rfl⟩ := List.getElem?_eq_some_iff.mp h
  refine ⟨l.take i, l.drop (i + 1), ?_, ?_⟩
  · rw [← List.drop_eq_getElem_cons hi, List.take_append_drop]
  · rw [List.set_eq_take_append_cons_drop, if_pos hi]

def leftOf (a : Answers) (cancelled : Bool) (mode : MatchMode) (pool : Pool σ) (i : Nat) : Nat :=
  (pool.workers[i]?.map (Worker.left a cancelled mode)).getD 0

variable {cancelled : Bool} {mode : MatchMode} {checks : List Check} {pool : Pool σ}

theorem Sound.turn_eq (still : s.Steady w) (sound : pool.Sound (s.at w) cancelled mode checks w)
    {i : Nat} {worker : Worker} (hworker : pool.workers[i]? = some worker) :
    ∃ after corpus, pool.turn s cancelled mode i = ⟨pool.workers.set i after, corpus, w⟩ ∧
      Worker.Advance (s.at w) cancelled mode worker after pool.corpus corpus := by
  have honest := sound.honest worker (List.mem_of_getElem? hworker)
  obtain ⟨after, corpus, hstep, advance⟩ :=
    Worker.step_advance still cancelled mode sound.agrees honest
  refine ⟨after, corpus, ?_, advance⟩
  rw [turn_some hworker, sound.disk_eq, hstep]

theorem Sound.turn (still : s.Steady w) (sound : pool.Sound (s.at w) cancelled mode checks w)
    (i : Nat) : (pool.turn s cancelled mode i).Sound (s.at w) cancelled mode checks w := by
  cases hworker : pool.workers[i]? with
  | none =>
      rw [turn_none hworker]
      exact sound
  | some worker =>
      obtain ⟨after, corpus, hturn, advance⟩ := sound.turn_eq still hworker
      obtain ⟨before, rest, hsplit, hset⟩ := set_split hworker after
      rw [hturn, hset]
      obtain ⟨disk_eq, agrees, honest, promises, covered⟩ := sound
      rw [hsplit] at honest promises covered
      refine ⟨rfl, advance.agrees, ?_, ?_, ?_⟩
      · intro other hother
        rcases List.mem_append.mp hother with h | h
        · exact honest other (List.mem_append_left _ h)
        · rcases List.mem_cons.mp h with rfl | h
          · exact advance.honest
          · exact honest other (List.mem_append_right _ (List.mem_cons_of_mem _ h))
      · rw [← promises]
        simp only [List.map_append, List.map_cons, advance.promise_eq]
      · intro path
        rw [← covered path]
        have hone := advance.covered path
        simp only [List.flatMap_append, List.flatMap_cons, List.mem_append]
        grind

theorem Sound.after (still : s.Steady w) (sound : pool.Sound (s.at w) cancelled mode checks w)
    (schedule : List Nat) :
    (pool.after s cancelled mode schedule).Sound (s.at w) cancelled mode checks w := by
  induction schedule generalizing pool with
  | nil => exact sound
  | cons i rest ih => exact ih (sound.turn still i)

/-! ## Coming to an end -/

theorem Sound.leftOf_turn (still : s.Steady w)
    (sound : pool.Sound (s.at w) cancelled mode checks w) (i j : Nat) :
    (pool.turn s cancelled mode j).leftOf (s.at w) cancelled mode i ≤
      pool.leftOf (s.at w) cancelled mode i - if j = i then 1 else 0 := by
  cases hworker : pool.workers[j]? with
  | none =>
      rw [turn_none hworker]
      split
      next heq => simp [leftOf, ← heq, hworker]
      next => exact Nat.le_refl _
  | some worker =>
      obtain ⟨after, corpus, hturn, advance⟩ := sound.turn_eq still hworker
      rw [hturn]
      split
      next heq =>
          subst heq
          have hj : j < pool.workers.length := (List.getElem?_eq_some_iff.mp hworker).1
          simp only [leftOf, List.getElem?_set_self hj, hworker]
          exact advance.left_le
      next hne =>
          simp only [leftOf, List.getElem?_set_ne hne]
          exact Nat.le_refl _

theorem Sound.leftOf_after (still : s.Steady w)
    (sound : pool.Sound (s.at w) cancelled mode checks w) (schedule : List Nat) (i : Nat) :
    (pool.after s cancelled mode schedule).leftOf (s.at w) cancelled mode i ≤
      pool.leftOf (s.at w) cancelled mode i - schedule.count i := by
  induction schedule generalizing pool with
  | nil => exact Nat.le_refl _
  | cons j rest ih =>
      have hrest := ih (sound.turn still j)
      have hturn := sound.leftOf_turn still i j
      change ((pool.turn s cancelled mode j).after s cancelled mode rest).leftOf _ _ _ _ ≤ _
      simp only [List.count_cons, beq_iff_eq]
      omega

theorem exists_turns (a : Answers) (cancelled : Bool) (mode : MatchMode) (pool : Pool σ) :
    ∃ turns, ∀ i, pool.leftOf a cancelled mode i ≤ turns := by
  obtain ⟨turns, hturns⟩ : ∃ turns, ∀ worker ∈ pool.workers,
      worker.left a cancelled mode ≤ turns := by
    generalize pool.workers = workers
    induction workers with
    | nil => exact ⟨0, by simp⟩
    | cons worker rest ih =>
        obtain ⟨turns, hturns⟩ := ih
        refine ⟨turns + worker.left a cancelled mode, ?_⟩
        intro other hother
        rcases List.mem_cons.mp hother with rfl | h
        · omega
        · have := hturns other h
          omega
  refine ⟨turns, fun i => ?_⟩
  unfold leftOf
  cases hworker : pool.workers[i]? with
  | none => exact Nat.zero_le _
  | some worker => exact hturns worker (List.mem_of_getElem? hworker)

/-! ## The report of a pool -/

theorem mapM_outcome? (evaluated : List (Option CheckResult)) :
    (evaluated.map Worker.finished).mapM Worker.outcome? = some evaluated := by
  induction evaluated with
  | nil => rfl
  | cons outcome rest ih =>
      rw [List.map_cons, List.mapM_cons, ih]
      rfl

theorem eq_finished_of_mapM {workers : List Worker} {evaluated : List (Option CheckResult)}
    (h : workers.mapM Worker.outcome? = some evaluated) :
    workers = evaluated.map .finished := by
  induction workers generalizing evaluated with
  | nil =>
      cases h
      rfl
  | cons worker rest ih =>
      rw [List.mapM_cons] at h
      obtain ⟨outcome, hfirst, h⟩ := Option.bind_eq_some_iff.mp h
      obtain ⟨others, hothers, h⟩ := Option.bind_eq_some_iff.mp h
      cases h
      cases worker with
      | finished o =>
          cases hfirst
          rw [List.map_cons, ih hothers]
      | _ => cases hfirst

def settledReport (a : Answers) (cancelled : Bool) (name : String) (mode : MatchMode)
    (checks : List Check) : RunReport :=
  if cancelled then .aggregate name [] Corpus.empty.stats (0 < checks.length)
  else .aggregate name (checks.map (Check.verdict a mode))
    (Corpus.afterChecks a mode checks).stats false

theorem runChecks_eq_settled (still : s.Steady w) (cancelled : Bool) (name : String)
    (mode : MatchMode) (checks : List Check) :
    (runChecks s cancelled name mode checks).run w =
      (settledReport (s.at w) cancelled name mode checks, w) := by
  cases cancelled with
  | false => exact runChecks_eq still name mode checks
  | true => rfl

theorem Sound.report?_eq (sound : pool.Sound (s.at w) cancelled mode checks w)
    {evaluated : List (Option CheckResult)} (name : String)
    (hfinished : pool.workers = evaluated.map .finished) :
    pool.report? name checks = some (settledReport (s.at w) cancelled name mode checks) := by
  have hpromised : evaluated =
      (checks.map Worker.waiting).map (Worker.promise (s.at w) cancelled mode) := by
    rw [← sound.promises, hfinished, List.map_map]
    exact (List.map_id evaluated).symm
  have hknown (path : String) : path ∈ pool.corpus.paths ↔
      path ∈ (checks.map Worker.waiting).flatMap (Worker.due (s.at w) cancelled mode) := by
    have hdue : pool.workers.flatMap (Worker.due (s.at w) cancelled mode) = [] := by
      rw [hfinished, List.flatMap_map]
      exact List.flatMap_eq_nil_iff.mpr fun _ _ => rfl
    rw [← sound.covered path, hdue]
    simp
  unfold report?
  rw [hfinished, mapM_outcome?]
  rw [List.map_map] at hpromised
  cases cancelled with
  | false =>
      have hstats : pool.corpus.stats = (Corpus.afterChecks (s.at w) mode checks).stats := by
        apply sound.agrees.stats_eq (Corpus.afterChecks_agrees (s.at w) mode checks)
        intro path
        rw [hknown, Corpus.mem_afterChecks, List.flatMap_map, List.mem_flatMap]
        rfl
      have hresults : evaluated.filterMap id = checks.map (Check.verdict (s.at w) mode) := by
        rw [hpromised, List.filterMap_map]
        exact congrFun List.filterMap_eq_map checks
      have hcancelled :
          (evaluated.length < checks.length || evaluated.any Option.isNone) = false := by
        simp [hpromised, Worker.promise]
      simp only [settledReport, Option.bind_eq_bind, Option.bind_some, hresults, hstats,
        hcancelled, Bool.false_eq_true, if_false]
      rfl
  | true =>
      have hstats : pool.corpus.stats = Corpus.empty.stats := by
        apply sound.agrees.stats_eq (Corpus.empty_agrees (s.at w))
        intro path
        rw [hknown]
        simp [Worker.due]
      have hresults : evaluated.filterMap id = [] := by
        simp [hpromised, Worker.promise]
      have hcancelled : (evaluated.length < checks.length || evaluated.any Option.isNone) =
          decide (0 < checks.length) := by
        cases checks <;> simp [hpromised, Worker.promise]
      simp only [settledReport, Option.bind_eq_bind, Option.bind_some, hresults, hstats,
        hcancelled, if_true]
      rfl

theorem Sound.finished (sound : pool.Sound (s.at w) cancelled mode checks w)
    (h : ∀ i < checks.length, pool.leftOf (s.at w) cancelled mode i = 0) :
    ∃ evaluated : List (Option CheckResult), pool.workers = evaluated.map .finished := by
  have hlength : pool.workers.length = checks.length := by
    simpa using congrArg List.length sound.promises
  have hdone : ∀ worker ∈ pool.workers, ∃ outcome, worker = .finished outcome := by
    intro worker hworker
    obtain ⟨i, hi⟩ := List.getElem?_of_mem hworker
    have hlt : i < checks.length := hlength ▸ (List.getElem?_eq_some_iff.mp hi).1
    have hleft := h i hlt
    simp only [leftOf, hi, Option.map_some, Option.getD_some] at hleft
    exact Worker.eq_finished_of_left (s.at w) cancelled mode hleft
  refine ⟨pool.workers.map (Worker.promise (s.at w) cancelled mode), ?_⟩
  rw [List.map_map]
  conv => lhs; rw [← List.map_id pool.workers]
  apply List.map_congr_left
  intro worker hworker
  obtain ⟨outcome, rfl⟩ := hdone worker hworker
  rfl

end Pool

/-- While the files do not change, no order of turns changes the report: a pool that has finished
gives the report of the checks in sequence, and every pool finishes whose workers have had turns
enough.  With the flag set from the start nothing is evaluated, and the run counts as cancelled
unless there was nothing to evaluate. -/
theorem runChecksInPool_eq (still : s.Steady w) (flag : Option Bool) (name : String)
    (mode : MatchMode) (checks : List Check) :
    let cancelled := flag.getD false
    let sequential := ((runChecks s cancelled name mode checks).run w).1
    (∀ schedule report, runChecksInPool s cancelled name mode checks schedule w = some report →
        report = sequential) ∧
      (∃ turns, ∀ schedule : List Nat, (∀ i < checks.length, turns ≤ schedule.count i) →
        runChecksInPool s cancelled name mode checks schedule w = some sequential) ∧
      sequential.cancelled = (cancelled && !checks.isEmpty) := by
  intro cancelled sequential
  have hsequential : sequential = Pool.settledReport (s.at w) cancelled name mode checks :=
    congrArg Prod.fst (Pool.runChecks_eq_settled still cancelled name mode checks)
  have sound (schedule : List Nat) :=
    (Pool.sound_start (s.at w) cancelled mode checks w).after still schedule
  refine ⟨?_, ?_, ?_⟩
  · intro schedule report h
    obtain ⟨evaluated, hevaluated, -⟩ := Option.bind_eq_some_iff.mp h
    have hreport := (sound schedule).report?_eq name (Pool.eq_finished_of_mapM hevaluated)
    rw [hsequential]
    exact Option.some.inj (h.symm.trans hreport)
  · obtain ⟨turns, hturns⟩ :=
      Pool.exists_turns (s.at w) cancelled mode (Pool.start checks w)
    refine ⟨turns, fun schedule hcount => ?_⟩
    have hleft : ∀ i < checks.length, Pool.leftOf (s.at w) cancelled mode
        ((Pool.start checks w).after s cancelled mode schedule) i = 0 := by
      intro i hi
      have hafter := (Pool.sound_start (s.at w) cancelled mode checks w).leftOf_after still
        schedule i
      have henough := hturns i
      have := hcount i hi
      omega
    obtain ⟨evaluated, hevaluated⟩ := (sound schedule).finished hleft
    rw [hsequential]
    exact (sound schedule).report?_eq name hevaluated
  · rw [hsequential]
    cases cancelled <;> cases checks <;> rfl

theorem runChecksInPool_eq_on_tree :
    let tree : FileTree := ⟨[(["p"], .directory), (["p", "a.h"], .file "open".toUTF8)]⟩
    let s := (FileTree.disk []).project "/p"
    let checks : List Check :=
      [⟨"header", none, false, .present ["a.h"]⟩,
        ⟨"pair", none, false, .paired "a.h" "open" "close" false⟩]
    let sequential := ((runChecks s false "c" .literal checks).run tree).1
    s.Steady tree ∧
      (∀ schedule report, runChecksInPool s false "c" .literal checks schedule tree = some report →
        report = sequential) ∧
      ∃ turns, ∀ schedule : List Nat, (∀ i < 2, turns ≤ schedule.count i) →
        runChecksInPool s false "c" .literal checks schedule tree = some sequential := by
  intro tree s checks sequential
  have still : s.Steady tree := FileTree.steady_project [] "/p" tree
  have h := runChecksInPool_eq still none "c" .literal checks
  exact ⟨still, h.1, h.2.1⟩

end SourceContract
