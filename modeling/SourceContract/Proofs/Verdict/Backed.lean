import SourceContract.Proofs.Verdict.Decision
import SourceContract.Proofs.Verdict.Interleaving

/-!
# Verdicts are backed by issues

A check that fails says why, and one that passes has nothing to say.  This holds
whatever a check is told about its files, so it needs no files that stay the same:
the corpus may hold anything, the files may change between two questions, and other
checks may run at the same time.
-/

namespace SourceContract

open Matching (MatchMode Tally)

/-! ## One check -/

namespace Check

/-- The result is one of the check, and its verdict is the one that its issues show. -/
structure Backed (c : Check) (r : CheckResult) : Prop where
  name_eq : r.name = c.name
  kind_eq : r.kind = c.kind
  informational_iff : r.informational = true ↔
    c.informational = true ∨ c.requirement.isCount = true
  passed_iff : r.passed = true ↔ r.issues = []
  issues_own : ∀ i ∈ r.issues, i.check = c.name ∧ 1 ≤ i.count

variable {c : Check}

theorem Decided.backed {r : CheckResult} {good : Bool} (h : c.Decided r good) :
    c.Backed (r.withInformational (!c.isGating)) where
  name_eq := h.name_eq
  kind_eq := h.kind_eq
  informational_iff := by simp [CheckResult.withInformational, isGating]
  passed_iff := by
    change r.passed = true ↔ r.issues = []
    rw [h.passed_eq, h.issues_eq_nil]
  issues_own := h.issues_own

theorem judge_decided (mode : MatchMode) (requirement : Requirement) :
    (c.judge mode requirement).Always fun r => ∃ good, c.Decided r good := by
  cases requirement with
  | present paths =>
      exact .bind (.of_forall (fun answers => ⟨_, decided_present answers⟩) _)
  | interface owner declaration implementation methods =>
      refine .bind (.of_forall (fun declared => ?_) _)
      exact .bind (.of_forall (fun implemented => ⟨_, decided_interface ..⟩) _)
  | fields file owner names =>
      exact .bind (.of_forall (fun declared => ⟨_, decided_fields ..⟩) _)
  | paired file opening closing requireUsage =>
      exact .bind (.of_forall (fun text => ⟨_, decided_paired ..⟩) _)
  | threshold file tokens min =>
      exact .bind (.of_forall (fun text => ⟨_, decided_threshold ..⟩) _)
  | forbidden token files require allowEmpty =>
      refine .bind (.of_forall (fun found => ?_) _)
      cases found with
      | ok paths => exact .bind (.of_forall (fun answers => ⟨_, decided_forbidden ..⟩) _)
      | error e =>
          have hmissing := c.decided_missingFiles (List.cons_ne_nil e [])
          cases e with
          | notFound dir =>
              cases allowEmpty with
              | true => exact ⟨_, decided_forbidden token require true []⟩
              | false => exact ⟨_, hmissing⟩
          | unreadable path reason => exact ⟨_, hmissing⟩
  | tokens rules =>
      exact .bind (.of_forall (fun texts => ⟨_, decided_tokens _⟩) _)
  | patterns file patterns minCount =>
      exact .bind (.of_forall (fun text => ⟨_, decided_patterns ..⟩) _)
  | count files tokens unit =>
      refine .bind (.of_forall (fun found => ?_) _)
      cases found with
      | ok paths => exact .bind (.of_forall (fun answers => ⟨_, decided_count ..⟩) _)
      | error e =>
          cases e with
          | notFound dir => exact ⟨_, (decided_passing _).withValue 0⟩
          | unreadable path reason =>
              exact ⟨_, (decided_missingFiles (List.cons_ne_nil _ [])).withValue 0⟩

theorem evaluate_backed (mode : MatchMode) (c : Check) :
    (c.evaluate mode).Always c.Backed := by
  have hbacked : ∀ r, (∃ good, c.Decided r good) →
      (pure (r.withInformational (!c.isGating)) : Access CheckResult).Always c.Backed := by
    rintro r ⟨good, h⟩
    exact h.backed
  unfold evaluate
  refine .bind (.of_forall (fun answers => ?_) _)
  dsimp only
  cases errorsOf answers with
  | nil => exact .bind ((judge_decided mode c.requirement).mono hbacked)
  | cons e rest => exact hbacked _ ⟨_, decided_missingFiles (List.cons_ne_nil e rest)⟩

end Check

/-! ## Adding up -/

namespace RunReport

structure Backed (r : RunReport) : Prop where
  failed_le : r.stats.failed ≤ r.issues.length
  length_le : r.issues.length ≤ r.stats.issueCount
  allPassed_iff : r.allPassed = true ↔ r.issues = []
  issues_iff : r.issues = [] ↔ r.stats.issueCount = 0

variable {results : List CheckResult}

theorem length_le_passed_add_issues
    (h : ∀ r ∈ results, r.passed = true ↔ r.issues = []) :
    results.length ≤
      (results.filter CheckResult.passed).length +
        (results.flatMap CheckResult.issues).length := by
  induction results with
  | nil => exact Nat.le_refl 0
  | cons r rest ih =>
      have hrest := ih fun r' hr' => h r' (List.mem_cons_of_mem r hr')
      have hfirst := h r List.mem_cons_self
      simp only [List.length_cons, List.flatMap_cons, List.length_append]
      cases hpassed : r.passed with
      | true =>
          rw [List.filter_cons_of_pos hpassed, List.length_cons]
          omega
      | false =>
          have hissues : r.issues ≠ [] := by
            intro hnil
            rw [hfirst.mpr hnil] at hpassed
            contradiction
          have hpos := List.length_pos_iff.mpr hissues
          rw [List.filter_cons_of_neg (by simp [hpassed])]
          omega

theorem length_le_weight {issues : List Issue} (h : ∀ i ∈ issues, 1 ≤ i.count) :
    issues.length ≤ (issues.map Issue.count).foldr (· + ·) 0 := by
  induction issues with
  | nil => exact Nat.le_refl 0
  | cons i rest ih =>
      have hrest := ih fun j hj => h j (List.mem_cons_of_mem i hj)
      have hfirst := h i List.mem_cons_self
      simp only [List.length_cons, List.map_cons, List.foldr_cons]
      omega

theorem aggregate_backed (hpassed : ∀ r ∈ results, r.passed = true ↔ r.issues = [])
    (hweight : ∀ r ∈ results, ∀ i ∈ r.issues, 1 ≤ i.count) (name : String)
    (corpus : CorpusStats) : (aggregate name results corpus false).Backed := by
  have hgating : ∀ r ∈ gating results, r ∈ results := fun r hr => (List.mem_filter.mp hr).1
  have hlength := length_le_passed_add_issues fun r hr => hpassed r (hgating r hr)
  -- The subtraction in the number of failed checks loses nothing.
  have hcount := List.length_filter_le CheckResult.passed (gating results)
  have hissues : ∀ i ∈ (gating results).flatMap CheckResult.issues, 1 ≤ i.count := by
    intro i hi
    obtain ⟨r, hr, hi⟩ := List.mem_flatMap.mp hi
    exact hweight r (hgating r hr) i hi
  refine ⟨?_, length_le_weight hissues, ?_, ?_⟩
  · simp only [aggregate, statsOf]
    omega
  · simp only [allPassed, aggregate, statsOf, Bool.not_false, Bool.and_true, beq_iff_eq]
    constructor
    · intro hfailed
      have hall : ∀ r ∈ gating results, r.passed = true :=
        List.length_filter_eq_length_iff.mp (by omega)
      exact List.flatMap_eq_nil_iff.mpr fun r hr => (hpassed r (hgating r hr)).mp (hall r hr)
    · intro hnil
      rw [hnil, List.length_nil] at hlength
      omega
  · constructor
    · intro hnil
      simp only [aggregate, statsOf] at hnil ⊢
      rw [hnil]
      rfl
    · intro hzero
      have hle := length_le_weight hissues
      simp only [aggregate, statsOf] at hzero ⊢
      exact List.length_eq_zero_iff.mp (by omega)

theorem backed_of_checks (h : ∀ r ∈ results, ∃ c : Check, c.Backed r) (name : String)
    (corpus : CorpusStats) : (aggregate name results corpus false).Backed := by
  apply aggregate_backed
  · intro r hr
    obtain ⟨c, hc⟩ := h r hr
    exact hc.passed_iff
  · intro r hr i hi
    obtain ⟨c, hc⟩ := h r hr
    exact (hc.issues_own i hi).2

end RunReport

/-! ## Checks in sequence -/

variable {σ : Type}

theorem evaluateAll_backed (s : Source (StateM σ)) (mode : MatchMode) (checks : List Check)
    (corpus : Corpus) (w : σ) :
    ((evaluateAll s mode checks corpus).run w).1.1.length = checks.length ∧
      ∀ r ∈ ((evaluateAll s mode checks corpus).run w).1.1, ∃ c : Check, c.Backed r := by
  induction checks generalizing corpus w with
  | nil => exact ⟨rfl, List.forall_mem_nil _⟩
  | cons c rest ih =>
      have hfirst := (c.evaluate_backed mode).run s corpus w
      simp only [evaluateAll, run_bind]
      obtain ⟨hlength, hrest⟩ := ih (((c.evaluate mode).run s corpus).run w).1.2
        (((c.evaluate mode).run s corpus).run w).2
      refine ⟨congrArg Nat.succ hlength, ?_⟩
      intro r hr
      rcases List.mem_cons.mp hr with rfl | hr
      · exact ⟨c, hfirst⟩
      · exact hrest r hr

theorem runChecks_backed (s : Source (StateM σ)) (name : String) (mode : MatchMode)
    (checks : List Check) (w : σ) : ((runChecks s false name mode checks).run w).1.Backed := by
  obtain ⟨hlength, hresults⟩ := evaluateAll_backed s mode checks .empty w
  simp only [runChecks, Bool.false_eq_true, if_false, run_bind]
  rw [hlength, decide_eq_false (Nat.lt_irrefl _)]
  exact RunReport.backed_of_checks hresults name _

/-! ## Checks side by side -/

def Worker.Backed : Worker → Prop
  | waiting _ => True
  | running rest => ∃ c : Check, rest.Always c.Backed
  | reading _ next | storing _ _ next => ∃ c : Check, ∀ e, (next e).Always c.Backed
  | finished outcome => ∃ (c : Check) (r : CheckResult), outcome = some r ∧ c.Backed r

theorem Worker.step_backed (s : Source (StateM σ)) (mode : MatchMode) (corpus : Corpus) (disk : σ)
    {worker : Worker} (h : worker.Backed) :
    (worker.step s false mode corpus disk).1.Backed := by
  cases worker with
  | waiting c => exact ⟨c, c.evaluate_backed mode⟩
  | running rest =>
      obtain ⟨c, h⟩ := h
      cases rest with
      | done r => exact ⟨c, r, rfl, h⟩
      | load path next =>
          cases hfind : corpus.find? path with
          | some e =>
              simp only [step, hfind]
              exact ⟨c, h e⟩
          | none =>
              simp only [step, hfind]
              exact ⟨c, h⟩
      | list dir glob next => exact ⟨c, h _⟩
  | reading path next => exact h
  | storing path e next =>
      obtain ⟨c, h⟩ := h
      exact ⟨c, h _⟩
  | finished outcome => exact h

namespace Pool

structure Backed (checks : List Check) (pool : Pool σ) : Prop where
  length_eq : pool.workers.length = checks.length
  workers : ∀ worker ∈ pool.workers, worker.Backed

theorem start_backed (checks : List Check) (disk : σ) : (start checks disk).Backed checks where
  length_eq := List.length_map _
  workers := by
    intro worker hworker
    obtain ⟨c, -, rfl⟩ := List.mem_map.mp hworker
    trivial

variable {checks : List Check} {pool : Pool σ}

theorem Backed.turn (h : pool.Backed checks) (s : Source (StateM σ)) (mode : MatchMode) (i : Nat) :
    (pool.turn s false mode i).Backed checks := by
  cases hworker : pool.workers[i]? with
  | none =>
      rw [turn_none hworker]
      exact h
  | some worker =>
      rw [turn_some hworker]
      have hstep := Worker.step_backed s mode pool.corpus pool.disk
        (h.workers worker (List.mem_of_getElem? hworker))
      refine ⟨List.length_set.trans h.length_eq, ?_⟩
      intro other hother
      rcases List.mem_or_eq_of_mem_set hother with hold | rfl
      · exact h.workers other hold
      · exact hstep

theorem Backed.after (h : pool.Backed checks) (s : Source (StateM σ)) (mode : MatchMode)
    (schedule : List Nat) : (pool.after s false mode schedule).Backed checks := by
  induction schedule generalizing pool with
  | nil => exact h
  | cons i rest ih => exact ih (h.turn s mode i)

theorem Backed.report (h : pool.Backed checks) {name : String} {report : RunReport}
    (hreport : pool.report? name checks = some report) : report.Backed := by
  obtain ⟨evaluated, hevaluated, hreport⟩ := Option.bind_eq_some_iff.mp hreport
  have hfinished := eq_finished_of_mapM hevaluated
  have hlength : evaluated.length = checks.length := by
    rw [← h.length_eq, hfinished, List.length_map]
  have houtcome : ∀ outcome ∈ evaluated,
      ∃ (c : Check) (r : CheckResult), outcome = some r ∧ c.Backed r := by
    intro outcome houtcome
    exact h.workers (.finished outcome) (hfinished ▸ List.mem_map_of_mem houtcome)
  have hnone : evaluated.any Option.isNone = false := by
    rw [List.any_eq_false]
    intro outcome hmem
    obtain ⟨c, r, rfl, -⟩ := houtcome outcome hmem
    exact Bool.false_ne_true
  cases hreport
  rw [hnone, hlength, decide_eq_false (Nat.lt_irrefl _)]
  apply RunReport.backed_of_checks
  intro r hr
  obtain ⟨outcome, hmem, houtcome'⟩ := List.mem_filterMap.mp hr
  obtain ⟨c, r', rfl, hbacked⟩ := houtcome outcome hmem
  cases houtcome'
  exact ⟨c, hbacked⟩

end Pool

/-- A verdict is backed by its issues: the verdict of each check, whatever the corpus holds and
whatever the files are, and the verdict of each run in which all checks are evaluated, whether in
sequence or side by side. -/
theorem verdicts_backed (s : Source (StateM σ)) (mode : MatchMode) :
    (∀ (c : Check) (corpus : Corpus) (w : σ),
        c.Backed (((c.evaluate mode).run s corpus).run w).1.1) ∧
      (∀ (name : String) (checks : List Check) (w : σ),
        ((runChecks s false name mode checks).run w).1.Backed) ∧
      ∀ (name : String) (checks : List Check) (schedule : List Nat) (w : σ) (report : RunReport),
        runChecksInPool s false name mode checks schedule w = some report → report.Backed := by
  refine ⟨?_, ?_, ?_⟩
  · intro c corpus w
    exact (c.evaluate_backed mode).run s corpus w
  · intro name checks w
    exact runChecks_backed s name mode checks w
  · intro name checks schedule w report hreport
    exact ((Pool.start_backed checks w).after s mode schedule).report hreport

theorem verdicts_backed_of_two_turns :
    let tree : FileTree := ⟨[(["p"], .directory)]⟩
    let s := (FileTree.disk []).project "/p"
    let checks : List Check := [⟨"locks", none, false, .forbidden "lock" (.paths []) [] false⟩]
    ∃ report, runChecksInPool s false "c" .literal checks [0, 0] tree = some report ∧
      report.Backed := by
  intro tree s checks
  have hsome : (runChecksInPool s false "c" .literal checks [0, 0] tree).isSome = true := rfl
  obtain ⟨report, hreport⟩ := Option.isSome_iff_exists.mp hsome
  exact ⟨report, hreport, (verdicts_backed s .literal).2.2 "c" checks [0, 0] tree report hreport⟩

end SourceContract
