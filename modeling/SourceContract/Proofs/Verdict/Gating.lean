import SourceContract.Proofs.Verdict.Interleaving
import SourceContract.Proofs.Verdict.Meaning

/-!
# Checks that do not count

An informational check and a measurement are evaluated like any other, on the corpus
that all checks share, and their results are listed.  Nothing that the verdict rests
on depends on them: a report agrees with the one of the run that leaves them out,
but for the extra results, their number and the counters of files.
-/

namespace SourceContract

open Matching (MatchMode)

/-! ## Results that count -/

namespace Check

theorem verdict_informational (a : Answers) (mode : MatchMode) (c : Check) :
    (c.verdict a mode).informational = !c.isGating := by
  rw [verdict_eq]
  rfl

end Check

namespace RunReport

theorem gating_verdicts (a : Answers) (mode : MatchMode) (checks : List Check) :
    gating (checks.map (Check.verdict a mode)) =
      (checks.filter Check.isGating).map (Check.verdict a mode) := by
  have hcounts : (fun r : CheckResult => !r.informational) ∘ Check.verdict a mode =
      Check.isGating := by
    funext c
    simp only [Function.comp, Check.verdict_informational, Bool.not_not]
  rw [gating, List.filter_map, hcounts]

/-! ## Adding up -/

theorem allPassed_iff {name : String} {results : List CheckResult} {corpus : CorpusStats}
    {cancelled : Bool} :
    (aggregate name results corpus cancelled).allPassed = true ↔
      cancelled = false ∧ ∀ r ∈ gating results, r.passed = true := by
  have hle := List.length_filter_le CheckResult.passed (gating results)
  have hnone : (gating results).length - ((gating results).filter CheckResult.passed).length = 0 ↔
      ∀ r ∈ gating results, r.passed = true := by
    rw [← List.length_filter_eq_length_iff]
    omega
  simp only [allPassed, aggregate, statsOf, Bool.and_eq_true, beq_iff_eq, Bool.not_eq_true', hnone]
  exact And.comm

/-- The report with those parts of another that results which do not count may touch: the list of
results, the number of such results, and the counters of files. -/
def withExtras (r other : RunReport) : RunReport :=
  { r with
    results := other.results
    stats := { r.stats with
      filesInspected := other.stats.filesInspected
      filesMissing := other.stats.filesMissing
      informational := other.stats.informational } }

theorem aggregate_eq_withExtras {results others : List CheckResult}
    (h : gating results = gating others) (name : String) (corpus corpus' : CorpusStats)
    (cancelled : Bool) :
    aggregate name results corpus cancelled =
      (aggregate name others corpus' cancelled).withExtras
        (aggregate name results corpus cancelled) := by
  simp only [aggregate, statsOf, withExtras, h]

theorem allPassed_withExtras (r other : RunReport) :
    (r.withExtras other).allPassed = r.allPassed := rfl

end RunReport

/-! ## Runs -/

variable {σ : Type}

/-- The report is that of a run which is not cancelled: one in sequence, or one side by side. -/
inductive Reports (s : Source (StateM σ)) (name : String) (mode : MatchMode)
    (checks : List Check) (w : σ) : RunReport → Prop where
  | inSequence : Reports s name mode checks w ((runChecks s false name mode checks).run w).1
  | sideBySide {schedule : List Nat} {report : RunReport}
      (h : runChecksInPool s false name mode checks schedule w = some report) :
      Reports s name mode checks w report

variable {s : Source (StateM σ)} {w : σ} {name : String} {mode : MatchMode}
  {checks : List Check}

theorem Reports.eq_aggregate (still : s.Steady w) {report : RunReport}
    (h : Reports s name mode checks w report) :
    report = .aggregate name (checks.map (Check.verdict (s.at w) mode))
      (Corpus.afterChecks (s.at w) mode checks).stats false := by
  cases h with
  | inSequence => rw [runChecks_eq still]
  | @sideBySide schedule _ h =>
      obtain ⟨evaluated, hevaluated, -⟩ := Option.bind_eq_some_iff.mp h
      have sound := (Pool.sound_start (s.at w) false mode checks w).after still schedule
      have hreport := sound.report?_eq name (Pool.eq_finished_of_mapM hevaluated)
      exact Option.some.inj (h.symm.trans hreport)

theorem Reports.results_eq (still : s.Steady w) {report : RunReport}
    (h : Reports s name mode checks w report) :
    report.results = checks.map (Check.alone s w mode) := by
  rw [h.eq_aggregate still]
  exact List.map_congr_left fun k _ => (k.alone_eq still mode).symm

theorem Reports.allPassed_iff (still : s.Steady w) {report : RunReport}
    (h : Reports s name mode checks w report) :
    report.allPassed = true ↔
      ∀ k ∈ checks, k.isGating = true → (k.alone s w mode).passed = true := by
  rw [h.eq_aggregate still, RunReport.allPassed_iff, RunReport.gating_verdicts]
  simp only [true_and, List.forall_mem_map, List.mem_filter, and_imp, Check.alone_eq still]

/-- Informational checks and measurements do not interfere: while the files do not change, a run of
the checks agrees with a run of those that count in everything but the extra results, their number
and the counters of files.  Whether all passed is the same, and the results of the second run are
those of the first that count, in order. -/
theorem reports_agree_without_informational (still : s.Steady w) {full reduced : RunReport}
    (hfull : Reports s name mode checks w full)
    (hreduced : Reports s name mode (checks.filter Check.isGating) w reduced) :
    full = reduced.withExtras full ∧ full.allPassed = reduced.allPassed ∧
      RunReport.gating full.results = reduced.results := by
  have hcount := RunReport.gating_verdicts (s.at w) mode checks
  have hsame : RunReport.gating (checks.map (Check.verdict (s.at w) mode)) =
      RunReport.gating ((checks.filter Check.isGating).map (Check.verdict (s.at w) mode)) := by
    rw [RunReport.gating_verdicts, RunReport.gating_verdicts, List.filter_filter]
    simp only [Bool.and_self]
  have hextras : full = reduced.withExtras full := by
    rw [hfull.eq_aggregate still, hreduced.eq_aggregate still]
    exact RunReport.aggregate_eq_withExtras hsame name _ _ false
  refine ⟨hextras, ?_, ?_⟩
  · rw [hextras, RunReport.allPassed_withExtras]
  · rw [hfull.eq_aggregate still, hreduced.eq_aggregate still]
    exact hcount

theorem reports_agree_without_informational_on_one_header :
    let s : Source (StateM Unit) :=
      { read := fun path =>
          pure (if path = "a.h" then .ok "open close open" else .error (.notFound path))
        list := fun dir _ => pure (.error (.notFound dir)) }
    let pair (informational : Bool) : Check :=
      ⟨"pair", none, informational, .paired "a.h" "open" "close" false⟩
    let uses : Check := ⟨"uses", none, false, .count (.paths ["a.h", "b.h"]) ["open"] .files⟩
    let often : Check := ⟨"often", none, false, .threshold "a.h" ["open"] 1⟩
    let schedule := (List.replicate 12 [2, 0, 1]).flatten
    ∃ full, runChecksInPool s false "c" .literal [pair true, uses, often] schedule () = some full ∧
      let reduced := ((runChecks s false "c" .literal [often]).run ()).1
      full = reduced.withExtras full ∧ full.allPassed = reduced.allPassed ∧
        RunReport.gating full.results = reduced.results := by
  intro s pair uses often schedule
  have still : s.Steady () := ⟨fun _ => rfl, fun _ _ => rfl⟩
  have hsome : (runChecksInPool s false "c" .literal [pair true, uses, often] schedule ()).isSome =
      true := by decide +kernel
  obtain ⟨full, hfull⟩ := Option.isSome_iff_exists.mp hsome
  have hreduced : Reports s "c" .literal ([pair true, uses, often].filter Check.isGating) () _ :=
    .inSequence
  exact ⟨full, hfull, reports_agree_without_informational still (.sideBySide hfull) hreduced⟩

end SourceContract
