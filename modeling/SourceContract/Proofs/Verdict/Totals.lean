import Mathlib.Algebra.GroupWithZero.Nat
import SourceContract.Proofs.Verdict.Gating

/-!
# Nothing is lost in adding up

A report takes several passes over its results: it counts those that count, those of
them that have passed, and gathers and weighs their issues.  Whatever the results are,
the passes agree with each other: each result goes into exactly one of the counts, and
each issue of a result that counts goes into the list and into the sum.
-/

namespace SourceContract.RunReport

variable {results others : List CheckResult}

/-! ## Counts -/

theorem total_aggregate (name : String) (results : List CheckResult) (corpus : CorpusStats)
    (cancelled : Bool) :
    (aggregate name results corpus cancelled).stats.total =
      results.countP fun c => !c.informational :=
  (List.countP_eq_length_filter ..).symm

theorem passed_aggregate (name : String) (results : List CheckResult) (corpus : CorpusStats)
    (cancelled : Bool) :
    (aggregate name results corpus cancelled).stats.passed =
      results.countP fun c => c.passed && !c.informational := by
  rw [← List.countP_filter, List.countP_eq_length_filter]
  rfl

theorem recommendation_aggregate (name : String) (results : List CheckResult)
    (corpus : CorpusStats) (cancelled : Bool) :
    let r := aggregate name results corpus cancelled
    r.recommendation = .ofPassRate r.stats.passRate := by
  simp only [aggregate]

theorem countP_passed_add_countP_failed (results : List CheckResult) :
    (results.countP fun c => c.passed && !c.informational) +
        (results.countP fun c => !c.passed && !c.informational) =
      results.countP fun c => !c.informational := by
  rw [← List.countP_filter, ← List.countP_filter]
  have hsplit := List.length_eq_countP_add_countP CheckResult.passed (l := gating results)
  simpa [gating, ← List.countP_eq_length_filter] using hsplit.symm

theorem countP_counted_add_countP_informational (results : List CheckResult) :
    (results.countP fun c => !c.informational) + results.countP CheckResult.informational =
      results.length := by
  have hsplit := List.length_eq_countP_add_countP CheckResult.informational (l := results)
  simpa [Nat.add_comm] using hsplit.symm

/-! ## Issues -/

def issueBlocks (results : List CheckResult) : List (List Issue) :=
  (results.filter fun c => !c.informational).map CheckResult.issues

theorem issueBlocks_perm (h : others.Perm results) :
    (issueBlocks others).Perm (issueBlocks results) :=
  (h.filter _).map _

theorem issues_aggregate (name : String) (results : List CheckResult) (corpus : CorpusStats)
    (cancelled : Bool) :
    (aggregate name results corpus cancelled).issues = (issueBlocks results).flatten := rfl

theorem issueCount_eq_sum (results : List CheckResult) :
    ((results.flatMap CheckResult.issues).map Issue.count).foldr (· + ·) 0 =
      (results.map CheckResult.issueCount).sum := by
  induction results with
  | nil => rfl
  | cons r rest ih =>
      rw [List.flatMap_cons, List.map_append, List.map_cons, List.sum_cons, ← ih]
      rw [← List.sum_eq_foldr, List.sum_append, List.sum_eq_foldr, List.sum_eq_foldr]
      rfl

/-! ## The law -/

/-- The report accounts for the results: its counts partition them, and its issues are those of the
results that count, block by block. -/
structure Conserves (results : List CheckResult) (cancelled : Bool) (r : RunReport) : Prop where
  results_eq : r.results = results
  total_eq : r.stats.total = results.countP fun c => !c.informational
  passed_eq : r.stats.passed = results.countP fun c => c.passed && !c.informational
  failed_eq : r.stats.failed = results.countP fun c => !c.passed && !c.informational
  informational_eq : r.stats.informational = results.countP CheckResult.informational
  /-- No more is taken away than there is. -/
  passed_le : r.stats.passed ≤ r.stats.total
  total_le : r.stats.total ≤ results.length
  passed_add_failed : r.stats.passed + r.stats.failed = r.stats.total
  total_add_informational : r.stats.total + r.stats.informational = results.length
  issues_eq : r.issues = (issueBlocks results).flatten
  issueCount_eq : r.stats.issueCount =
    ((results.filter fun c => !c.informational).map CheckResult.issueCount).sum
  allPassed_iff : r.allPassed = true ↔
    cancelled = false ∧ ∀ c ∈ results, c.informational = false → c.passed = true

theorem conserves_aggregate (name : String) (results : List CheckResult) (corpus : CorpusStats)
    (cancelled : Bool) :
    Conserves results cancelled (aggregate name results corpus cancelled) := by
  have htotal := total_aggregate name results corpus cancelled
  have hpassed := passed_aggregate name results corpus cancelled
  have hjudged := countP_passed_add_countP_failed results
  have hcounted := countP_counted_add_countP_informational results
  have hfailed : (aggregate name results corpus cancelled).stats.failed =
      (aggregate name results corpus cancelled).stats.total -
        (aggregate name results corpus cancelled).stats.passed := rfl
  have hextra : (aggregate name results corpus cancelled).stats.informational =
      results.length - (aggregate name results corpus cancelled).stats.total := rfl
  refine
    { results_eq := rfl
      total_eq := htotal
      passed_eq := hpassed
      failed_eq := by omega
      informational_eq := by omega
      passed_le := by omega
      total_le := by omega
      passed_add_failed := by omega
      total_add_informational := by omega
      issues_eq := issues_aggregate name results corpus cancelled
      issueCount_eq := issueCount_eq_sum (gating results)
      allPassed_iff := ?_ }
  simp [allPassed_iff, gating]

/-- Adding up conserves results and issues.  The counts of a report partition its results, and the
subtractions in them lose nothing; its issues are those of the results that count, in order, and
their number is the sum over these results; all have passed when the run was not cancelled and each
result that counts has.  For results in another order the numbers and the recommendation are the
same, and the issues are the same blocks in that order. -/
theorem aggregate_conserves (name : String) (results : List CheckResult) (corpus : CorpusStats)
    (cancelled : Bool) :
    let r := aggregate name results corpus cancelled
    Conserves results cancelled r ∧
      ∀ others : List CheckResult, others.Perm results →
        let r' := aggregate name others corpus cancelled
        r'.stats = r.stats ∧ r'.recommendation = r.recommendation ∧
          ∃ blocks : List (List Issue), blocks.Perm (issueBlocks results) ∧
            r'.issues = blocks.flatten := by
  refine ⟨conserves_aggregate name results corpus cancelled, fun others h => ?_⟩
  have hstats : (aggregate name others corpus cancelled).stats =
      (aggregate name results corpus cancelled).stats := statsOf_perm h corpus
  refine ⟨hstats, ?_, issueBlocks others, issueBlocks_perm h, rfl⟩
  rw [recommendation_aggregate, recommendation_aggregate, hstats]

/-- A result that passed may have issues, one that failed may have none, and one that does not
count may have both a verdict and issues. -/
theorem aggregate_conserves_of_three_results :
    let heavy : CheckResult := (CheckResult.pass "a" "count" "").weighted .partialMatch "m" 3
    let bare : CheckResult := CheckResult.fail "b" "exists" ""
    let extra : CheckResult :=
      ((CheckResult.fail "c" "tokens" "").issue .imbalance "n").withInformational true
    let r := aggregate "k" [heavy, extra, bare] ⟨2, 1⟩ false
    let r' := aggregate "k" [bare, heavy, extra] ⟨2, 1⟩ false
    Conserves [heavy, extra, bare] false r ∧ r'.stats = r.stats ∧ r.stats.issueCount = 3 ∧
      ∃ blocks : List (List Issue), blocks.Perm [heavy.issues, []] ∧
        r'.issues = blocks.flatten := by
  intro heavy bare extra r r'
  have hperm : [bare, heavy, extra].Perm [heavy, extra, bare] := by decide
  obtain ⟨hlaw, hothers⟩ := aggregate_conserves "k" [heavy, extra, bare] ⟨2, 1⟩ false
  obtain ⟨hstats, -, hblocks⟩ := hothers [bare, heavy, extra] hperm
  exact ⟨hlaw, hstats, hlaw.issueCount_eq, hblocks⟩

end SourceContract.RunReport
