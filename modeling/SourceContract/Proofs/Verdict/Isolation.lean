import SourceContract.Proofs.Corpus.Disk
import SourceContract.Verdict.Run

/-!
# Checks do not influence each other

The checks of a run share one corpus, yet each result is the one that the check has
by itself.  The report depends on the order of the checks only in the order of what
it lists.
-/

namespace SourceContract

open Matching (MatchMode)

variable {σ : Type} {s : Source (StateM σ)} {w : σ}

/-! ## A check by itself -/

namespace Check

/-- The result of a check on its own: evaluated on a corpus that holds nothing. -/
def alone (s : Source (StateM σ)) (w : σ) (mode : MatchMode) (c : Check) : CheckResult :=
  (((c.evaluate mode).run s .empty).run w).1.1

def verdict (a : Answers) (mode : MatchMode) (c : Check) : CheckResult :=
  (c.evaluate mode).value a

def touched (a : Answers) (mode : MatchMode) (c : Check) : List String :=
  (c.evaluate mode).asked a

theorem alone_eq (still : s.Steady w) (mode : MatchMode) (c : Check) :
    c.alone s w mode = c.verdict (s.at w) mode := by
  unfold alone
  rw [Access.run_eq still _ (Corpus.empty_agrees _)]
  rfl

end Check

/-! ## A run -/

def Corpus.afterChecks (a : Answers) (mode : MatchMode) (checks : List Check) : Corpus :=
  empty.learnAll a (checks.flatMap (Check.touched a mode))

theorem Corpus.afterChecks_agrees (a : Answers) (mode : MatchMode) (checks : List Check) :
    (afterChecks a mode checks).Agrees a :=
  (empty_agrees a).learnAll _

theorem Corpus.mem_afterChecks {a : Answers} {mode : MatchMode} {checks : List Check}
    {path : String} :
    path ∈ (afterChecks a mode checks).paths ↔ ∃ c ∈ checks, path ∈ c.touched a mode := by
  simp [afterChecks, mem_paths_learnAll]

theorem evaluateAll_eq (still : s.Steady w) (mode : MatchMode) (checks : List Check)
    {corpus : Corpus} (h : corpus.Agrees (s.at w)) :
    (evaluateAll s mode checks corpus).run w =
      ((checks.map (Check.verdict (s.at w) mode),
        corpus.learnAll (s.at w) (checks.flatMap (Check.touched (s.at w) mode))), w) := by
  induction checks generalizing corpus with
  | nil => rfl
  | cons c rest ih =>
      simp only [evaluateAll, run_bind, Access.run_eq still _ h, ih (h.learnAll _)]
      rw [List.flatMap_cons, Corpus.learnAll_append]
      rfl

theorem runChecks_eq (still : s.Steady w) (name : String) (mode : MatchMode)
    (checks : List Check) :
    (runChecks s false name mode checks).run w =
      (.aggregate name (checks.map (Check.verdict (s.at w) mode))
        (Corpus.afterChecks (s.at w) mode checks).stats false, w) := by
  have hrun := evaluateAll_eq still mode checks (Corpus.empty_agrees (s.at w))
  unfold runChecks
  simp only [Bool.false_eq_true, if_false, run_bind, hrun, List.length_map, Nat.lt_irrefl,
    decide_false]
  rfl

/-! ## The order of the checks -/

theorem Corpus.stats_afterChecks_perm (a : Answers) (mode : MatchMode)
    {checks others : List Check} (h : others.Perm checks) :
    (afterChecks a mode others).stats = (afterChecks a mode checks).stats := by
  apply (afterChecks_agrees a mode others).stats_eq (afterChecks_agrees a mode checks)
  intro path
  simp only [mem_afterChecks, h.mem_iff]

theorem RunReport.statsOf_perm {results others : List CheckResult} (h : others.Perm results)
    (corpus : CorpusStats) : statsOf others corpus = statsOf results corpus := by
  have hgating : (gating others).Perm (gating results) := h.filter _
  have hpassed := (hgating.filter CheckResult.passed).length_eq
  have hissues :
      (((gating others).flatMap CheckResult.issues).map Issue.count).foldr (· + ·) 0 =
        (((gating results).flatMap CheckResult.issues).map Issue.count).foldr (· + ·) 0 := by
    apply ((hgating.flatMap_right _).map _).foldr_eq'
    intro m _ n _ total
    exact Nat.add_left_comm n m total
  simp only [statsOf, hgating.length_eq, hpassed, hissues, h.length_eq]

/-- While the files do not change, a run gives one result for each check in the order of the checks,
and it is the result that the check has alone.  So each check keeps its result when the checks are
permuted, and nothing that is added up changes. -/
theorem runChecks_isolated (still : s.Steady w) (name : String) (mode : MatchMode)
    (checks : List Check) :
    let report (cs : List Check) := ((runChecks s false name mode cs).run w).1
    ((runChecks s false name mode checks).run w).2 = w ∧
      (report checks).results = checks.map (Check.alone s w mode) ∧
      ∀ others : List Check, others.Perm checks →
        (others.zip (report others).results).Perm (checks.zip (report checks).results) ∧
          (report others).stats = (report checks).stats ∧
          (report others).recommendation = (report checks).recommendation := by
  intro report
  have hresults (cs : List Check) :
      (report cs).results = cs.map (Check.verdict (s.at w) mode) := by
    simp only [report, runChecks_eq still, RunReport.aggregate]
  have hstats (others : List Check) (h : others.Perm checks) :
      (report others).stats = (report checks).stats := by
    simp only [report, runChecks_eq still, RunReport.aggregate]
    rw [Corpus.stats_afterChecks_perm _ _ h]
    exact RunReport.statsOf_perm (h.map _) _
  have hkept (cs : List Check) :
      cs.zip (report cs).results = cs.map fun c => (c, c.verdict (s.at w) mode) := by
    calc
      cs.zip (report cs).results =
          (cs.map id).zip (cs.map (Check.verdict (s.at w) mode)) := by
        rw [hresults, List.map_id]
      _ = cs.map fun c => (c, c.verdict (s.at w) mode) := List.zip_map'
  have hband (cs : List Check) :
      (report cs).recommendation = .ofPassRate (report cs).stats.passRate := by
    simp only [report, runChecks_eq still, RunReport.aggregate]
  refine ⟨by rw [runChecks_eq still], ?_, ?_⟩
  · rw [hresults]
    exact List.map_congr_left fun c _ => (Check.alone_eq still mode c).symm
  · intro others h
    refine ⟨?_, hstats others h, ?_⟩
    · rw [hkept, hkept]
      exact h.map _
    · rw [hband, hband, hstats others h]

theorem runChecks_isolated_on_tree :
    let tree : FileTree := ⟨[(["p"], .directory), (["p", "a.h"], .file "open".toUTF8)]⟩
    let s := (FileTree.disk []).project "/p"
    let checks : List Check :=
      [⟨"header", none, false, .present ["a.h", "b.h"]⟩,
        ⟨"pair", none, false, .paired "a.h" "open" "close" false⟩]
    let report (cs : List Check) := ((runChecks s false "c" .literal cs).run tree).1
    s.Steady tree ∧
      (report checks).results = checks.map (Check.alone s tree .literal) ∧
      (report checks.reverse).stats = (report checks).stats := by
  intro tree s checks report
  have still : s.Steady tree := FileTree.steady_project [] "/p" tree
  have h := runChecks_isolated still "c" .literal checks
  exact ⟨still, h.2.1, (h.2.2 checks.reverse checks.reverse_perm).2.1⟩

end SourceContract
