import SourceContract.Proofs.Corpus.Access
import SourceContract.Verdict.Evaluate

/-!
# What each decision says

For every kind of requirement, the verdict of a decision and the issues that go with
it.  A decision passes exactly when it lists no issue, whichever way its verdict is
reached: by a tally, by a comparison of counts, or by the list of issues itself.
-/

namespace SourceContract

open Matching

/-! ## Building results -/

namespace CheckResult

theorem withIssues_eq (r : CheckResult) (kind : IssueKind) (messages : List String) :
    r.withIssues kind messages =
      { r with issues := r.issues ++ messages.map fun m => ⟨r.name, kind, m, 1⟩ } := by
  induction messages generalizing r with
  | nil => simp [withIssues]
  | cons m rest ih =>
      change (r.issue kind m).withIssues kind rest = _
      rw [ih]
      simp [issue, weighted]

theorem withIssues_withTally (r : CheckResult) (kind : IssueKind) (messages : List String)
    (tally : Tally) :
    (r.withTally tally).withIssues kind messages = (r.withIssues kind messages).withTally tally := by
  simp only [withIssues_eq, withTally]

end CheckResult

/-! ## Tallies -/

namespace Matching.Tally

variable {α : Type} {p : α → Bool} {label : α → String} {items : List α}

theorem missing_isEmpty_ofItems (p : α → Bool) (label : α → String) (items : List α) :
    (ofItems p label items).missing.isEmpty = items.all p := by
  induction items with
  | nil => rfl
  | cons x rest ih =>
      simp only [ofItems, List.isEmpty_map] at ih ⊢
      cases hx : p x <;> simp [hx, ih]

theorem found_add_missing (p : α → Bool) (label : α → String) (items : List α) :
    (ofItems p label items).found + (ofItems p label items).missing.length = items.length := by
  simp only [ofItems, List.length_map]
  induction items with
  | nil => rfl
  | cons x rest ih =>
      cases hx : p x
      · simp [hx]
        omega
      · simp [hx]
        omega

theorem isComplete_ofItems : (ofItems p label items).isComplete = items.all p := by
  have hsum := found_add_missing p label items
  have hempty := missing_isEmpty_ofItems p label items
  rw [isComplete, hempty]
  cases hall : items.all p with
  | false => rw [Bool.and_false]
  | true =>
      have hnone : (ofItems p label items).missing = [] :=
        List.isEmpty_iff.mp (hempty.trans hall)
      rw [hnone, List.length_nil, Nat.add_zero] at hsum
      rw [Bool.and_true]
      exact beq_iff_eq.mpr hsum

theorem missing_ne_nil (label : α → String) (h : items.all p = false) :
    (ofItems p label items).missing ≠ [] := by
  intro hnil
  have hempty := missing_isEmpty_ofItems p label items
  rw [hnil, h] at hempty
  contradiction

end Matching.Tally

namespace Check

variable {c : Check}

/-! ## Verdicts with their issues -/

/-- The result is one of the check, its verdict is `good`, and it lists issues of the check exactly
when the verdict is not good. -/
structure Decided (c : Check) (r : CheckResult) (good : Bool) : Prop where
  name_eq : r.name = c.name
  kind_eq : r.kind = c.kind
  passed_eq : r.passed = good
  issues_eq_nil : r.issues = [] ↔ good = true
  issues_own : ∀ i ∈ r.issues, i.check = c.name ∧ 1 ≤ i.count

theorem decided_passing (message : String) : c.Decided (c.passing message) true :=
  ⟨rfl, rfl, rfl, by simp [passing, CheckResult.pass], by simp [passing, CheckResult.pass]⟩

theorem decided_failing (message : String) (kind : IssueKind) {messages : List String}
    (h : messages ≠ []) :
    c.Decided ((c.failing message).withIssues kind messages) false := by
  rw [CheckResult.withIssues_eq]
  refine ⟨rfl, rfl, rfl, ?_, ?_⟩
  · simpa [failing, CheckResult.fail, CheckResult.pass] using h
  · intro i hi
    simp only [failing, CheckResult.fail, CheckResult.pass, List.nil_append, List.mem_map] at hi
    obtain ⟨m, -, rfl⟩ := hi
    exact ⟨rfl, Nat.le_refl 1⟩

theorem decided_failing_issue (message : String) (kind : IssueKind) (detail : String) :
    c.Decided ((c.failing message).issue kind detail) false := by
  have h : [detail] ≠ [] := List.cons_ne_nil detail []
  exact decided_failing message kind h

namespace Decided

variable {r : CheckResult} {good : Bool}

theorem withTally (h : c.Decided r good) (tally : Tally) : c.Decided (r.withTally tally) good :=
  ⟨h.name_eq, h.kind_eq, h.passed_eq, h.issues_eq_nil, h.issues_own⟩

theorem withValue (h : c.Decided r good) (value : Nat) : c.Decided (r.withValue value) good :=
  ⟨h.name_eq, h.kind_eq, h.passed_eq, h.issues_eq_nil, h.issues_own⟩

end Decided

/-! ## Files that cannot be had -/

theorem decided_missingFiles {errors : List LoadError} (h : errors ≠ []) :
    c.Decided (c.missingFiles errors) false :=
  decided_failing _ _ (by simpa using h)

theorem issues_missingFiles (errors : List LoadError) :
    (c.missingFiles errors).issues =
      errors.map fun e => c.issue .missingResource e.message 1 := by
  rw [missingFiles, CheckResult.withIssues_eq, List.map_map]
  rfl

/-! ## Decisions by tally -/

theorem decided_by_tally {tally : Tally} {good : Bool} (hgood : tally.isComplete = good)
    (met unmet : String) (kind : IssueKind) {messages : List String}
    (h : good = false → messages ≠ []) :
    c.Decided (if tally.isComplete then (c.passing met).withTally tally
      else ((c.failing unmet).withIssues kind messages).withTally tally) good := by
  cases good with
  | true =>
      rw [if_pos hgood]
      exact (decided_passing met).withTally tally
  | false =>
      rw [if_neg (by simp [hgood])]
      exact (decided_failing unmet kind (h rfl)).withTally tally

theorem decided_present (answers : List (String × Entry)) :
    c.Decided (c.decidePresent answers) (answers.all fun a => isPresent a.2) := by
  unfold decidePresent
  simp only [Tally.missing_isEmpty_ofItems, CheckResult.withIssues_withTally]
  cases hall : answers.all fun a => isPresent a.2 with
  | true =>
      rw [if_pos rfl]
      exact (decided_passing _).withTally _
  | false =>
      rw [if_neg (by simp)]
      have hmissing := Tally.missing_ne_nil Prod.fst hall
      exact (decided_failing _ _ (by simpa using hmissing)).withTally _

theorem decided_interface (owner : String) (p : String → Bool) (names : List String) :
    c.Decided (c.decideInterface owner (Tally.ofNames p names)) (names.all p) := by
  unfold decideInterface
  exact decided_by_tally Tally.isComplete_ofItems _ _ _
    fun h => by simpa [Tally.ofNames] using Tally.missing_ne_nil id h

theorem decided_fields (file : String) (absentOwner : Option String) (p : String → Bool)
    (names : List String) :
    c.Decided (c.decideFields file absentOwner (Tally.ofNames p names)) (names.all p) := by
  unfold decideFields
  refine decided_by_tally Tally.isComplete_ofItems _ _ _ fun h => ?_
  have hmissing : (Tally.ofNames p names).missing ≠ [] := Tally.missing_ne_nil id h
  simp [hmissing]

theorem decided_tokens (rules : List CountedRule) :
    c.Decided (c.decideTokens rules) (rules.all CountedRule.isMet) := by
  unfold decideTokens
  refine decided_by_tally Tally.isComplete_ofItems _ _ _ fun h => ?_
  have hmissing := Tally.missing_ne_nil (fun r : CountedRule => r.1.label) h
  simpa [Tally.ofItems] using hmissing

theorem decided_patterns (file : String) (min : Nat) (patterns : List CountedPattern) :
    c.Decided (c.decidePatterns file min patterns) (patterns.all (CountedPattern.isMet min)) := by
  unfold decidePatterns
  simp only [Tally.isComplete_ofItems]
  cases hall : patterns.all (CountedPattern.isMet min) with
  | true =>
      have hmet : (patterns.filter fun p => !CountedPattern.isMet min p) = [] := by
        simpa using hall
      rw [hmet, if_pos rfl]
      exact (decided_passing _).withTally _
  | false =>
      have hmissing := Tally.missing_ne_nil Prod.fst hall
      rw [if_neg (by simp)]
      exact (decided_failing _ _ (by simpa [Tally.ofItems] using hmissing)).withTally _

/-! ## Decisions by comparison -/

theorem decided_paired (file opening closing : String) (begins ends : Nat) (requireUsage : Bool) :
    c.Decided (c.decidePaired file opening closing begins ends requireUsage)
      (balanced begins ends requireUsage) := by
  unfold decidePaired
  cases balanced begins ends requireUsage with
  | true => exact decided_passing _
  | false =>
      rw [if_neg Bool.false_ne_true]
      split
      next => exact decided_failing_issue _ _ _
      next => exact decided_failing_issue _ _ _

theorem decided_threshold (file : String) (tokens : List String) (total min : Nat) :
    c.Decided (c.decideThreshold file tokens total min) (exceeds total min) := by
  unfold decideThreshold
  cases exceeds total min with
  | true => exact decided_passing _
  | false => exact decided_failing_issue _ _ _

/-! ## Decisions by the list of issues -/

def isClean (token : String) (require : List String) : Entry → Bool
  | .ok text => count text token == 0 && require.all fun r => count text r != 0
  | .error _ => false

theorem forbiddenIssues_eq_nil_iff (token : String) (require : List String) (path : String)
    (e : Entry) :
    c.forbiddenIssues token require path e = [] ↔ isClean token require e = true := by
  cases e with
  | error e => simp [forbiddenIssues, isClean]
  | ok text =>
      have hrequire : ((require.filter fun r => count text r == 0).map fun r =>
          c.issue .conventionViolation (path ++ " does not use " ++ r) 1) = [] ↔
            (require.all fun r => count text r != 0) = true := by
        rw [List.map_eq_nil_iff, List.filter_eq_nil_iff, List.all_eq_true]
        simp
      simp only [forbiddenIssues, isClean]
      by_cases hcount : count text token = 0
      · rw [if_pos hcount, List.nil_append, hrequire]
        simp [hcount]
      · rw [if_neg hcount]
        simp [hcount]

/-- The weight of a use of the token is how often it is used, which is not zero. -/
theorem forbiddenIssues_own {token : String} {require : List String} {path : String} {e : Entry} :
    ∀ i ∈ c.forbiddenIssues token require path e, i.check = c.name ∧ 1 ≤ i.count := by
  intro i hi
  cases e with
  | error e =>
      obtain rfl := List.mem_singleton.mp hi
      exact ⟨rfl, Nat.le_refl 1⟩
  | ok text =>
      rcases List.mem_append.mp hi with huse | hlack
      · by_cases hcount : count text token = 0
        · rw [if_pos hcount] at huse
          exact absurd huse List.not_mem_nil
        · rw [if_neg hcount] at huse
          obtain rfl := List.mem_singleton.mp huse
          exact ⟨rfl, Nat.pos_of_ne_zero hcount⟩
      · obtain ⟨r, -, rfl⟩ := List.mem_map.mp hlack
        exact ⟨rfl, Nat.le_refl 1⟩

theorem decided_forbidden (token : String) (require : List String) (allowEmpty : Bool)
    (answers : List (String × Entry)) :
    c.Decided (c.decideForbidden token require allowEmpty answers)
      (if answers.isEmpty then allowEmpty
        else answers.all fun a => isClean token require a.2) := by
  unfold decideForbidden
  split
  next =>
      cases allowEmpty with
      | true => exact decided_passing _
      | false => exact decided_failing_issue _ _ _
  next =>
      have hclean : (answers.flatMap fun a => c.forbiddenIssues token require a.1 a.2) = [] ↔
          (answers.all fun a => isClean token require a.2) = true := by
        simp only [List.flatMap_eq_nil_iff, forbiddenIssues_eq_nil_iff, List.all_eq_true]
      refine ⟨rfl, rfl, ?_, hclean, ?_⟩
      · rw [Bool.eq_iff_iff, ← hclean]
        exact List.isEmpty_iff
      · intro i hi
        obtain ⟨a, -, hi⟩ := List.mem_flatMap.mp hi
        exact forbiddenIssues_own i hi

theorem decided_count (tokens : List String) (unit : CountUnit)
    (answers : List (String × Entry)) :
    c.Decided (c.decideCount tokens unit answers) (errorsOf answers).isEmpty := by
  unfold decideCount
  apply Decided.withValue
  rw [CheckResult.withIssues_eq]
  refine ⟨rfl, rfl, ?_, ?_, ?_⟩
  · simp [CheckResult.settled, passing, CheckResult.pass]
  · simp [CheckResult.settled, passing, CheckResult.pass]
  · intro i hi
    obtain ⟨m, -, rfl⟩ := List.mem_map.mp hi
    exact ⟨rfl, Nat.le_refl 1⟩

end Check

end SourceContract
