import Mathlib.Data.List.Forall2
import SourceContract.Proofs.Verdict.Gating
import SourceContract.Proofs.Contract.Validate
import SourceContract.Proofs.Verdict.Backed
import SourceContract.Report.Rows

/-!
# Rows show their checks

The rows of a report are looked up by the names of checks.  In a report on a contract
that was accepted each of these look-ups ends at the one check that is meant, and the
row shows what came of that check and of no other.
-/

namespace SourceContract

open Matching (MatchMode)

/-! ## Measured values -/

namespace CheckResult

variable (r : CheckResult)

@[simp] theorem value_withIssues (kind : IssueKind) (messages : List String) :
    (r.withIssues kind messages).value = r.value := by
  rw [withIssues_eq]

@[simp] theorem value_issue (kind : IssueKind) (message : String) :
    (r.issue kind message).value = r.value := rfl

@[simp] theorem value_withTally (tally : Matching.Tally) :
    (r.withTally tally).value = r.value := rfl

@[simp] theorem value_withValue (value : Nat) : (r.withValue value).value = some value := rfl

@[simp] theorem value_withInformational (informational : Bool) :
    (r.withInformational informational).value = r.value := rfl

end CheckResult

namespace Check

variable {c : Check}

@[simp] theorem value_passing (message : String) : (c.passing message).value = none := rfl

@[simp] theorem value_failing (message : String) : (c.failing message).value = none := rfl

@[simp] theorem value_missingFiles (errors : List LoadError) :
    (c.missingFiles errors).value = none := by
  simp [missingFiles]

@[simp] theorem value_decidePresent (answers : List (String × Entry)) :
    (c.decidePresent answers).value = none := by
  simp only [decidePresent]
  split <;> simp

@[simp] theorem value_decideInterface (owner : String) (tally : Matching.Tally) :
    (c.decideInterface owner tally).value = none := by
  simp only [decideInterface]
  split <;> simp

@[simp] theorem value_decideFields (file : String) (absentOwner : Option String)
    (tally : Matching.Tally) : (c.decideFields file absentOwner tally).value = none := by
  simp only [decideFields]
  split <;> simp

@[simp] theorem value_decidePaired (file opening closing : String) (begins ends : Nat)
    (requireUsage : Bool) :
    (c.decidePaired file opening closing begins ends requireUsage).value = none := by
  simp only [decidePaired]
  split
  next => simp
  next => split <;> simp

@[simp] theorem value_decideThreshold (file : String) (tokens : List String) (total min : Nat) :
    (c.decideThreshold file tokens total min).value = none := by
  simp only [decideThreshold]
  split <;> simp

@[simp] theorem value_decideTokens (rules : List CountedRule) :
    (c.decideTokens rules).value = none := by
  simp only [decideTokens]
  split <;> simp

@[simp] theorem value_decidePatterns (file : String) (min : Nat)
    (patterns : List CountedPattern) : (c.decidePatterns file min patterns).value = none := by
  simp only [decidePatterns]
  split <;> simp

@[simp] theorem value_decideForbidden (token : String) (require : List String) (allowEmpty : Bool)
    (answers : List (String × Entry)) :
    (c.decideForbidden token require allowEmpty answers).value = none := by
  simp only [decideForbidden]
  split
  next => split <;> simp
  next => rfl

/-- A requirement is given a value exactly when it is a measurement, on every way to a decision. -/
theorem judge_valued (mode : MatchMode) (requirement : Requirement) :
    (c.judge mode requirement).Always fun r => r.value.isSome = requirement.isCount := by
  cases requirement with
  | present paths => exact .bind (.of_forall (fun answers => by simp [Requirement.isCount]) _)
  | interface owner declaration implementation methods =>
      refine .bind (.of_forall (fun declared => ?_) _)
      exact .bind (.of_forall (fun implemented => by simp [Requirement.isCount]) _)
  | fields file owner names =>
      exact .bind (.of_forall (fun declared => by simp [Requirement.isCount]) _)
  | paired file opening closing requireUsage =>
      exact .bind (.of_forall (fun text => by simp [Requirement.isCount]) _)
  | threshold file tokens min =>
      exact .bind (.of_forall (fun text => by simp [Requirement.isCount]) _)
  | forbidden token files require allowEmpty =>
      refine .bind (.of_forall (fun found => ?_) _)
      cases found with
      | ok paths => exact .bind (.of_forall (fun answers => by simp [Requirement.isCount]) _)
      | error e => cases e <;> cases allowEmpty <;> simp [Requirement.isCount]
  | tokens rules => exact .bind (.of_forall (fun texts => by simp [Requirement.isCount]) _)
  | patterns file patterns minCount =>
      exact .bind (.of_forall (fun text => by simp [Requirement.isCount]) _)
  | count files tokens unit =>
      refine .bind (.of_forall (fun found => ?_) _)
      cases found with
      | ok paths => exact .bind (.of_forall (fun answers => rfl) _)
      | error e => cases e <;> simp [Requirement.isCount]

theorem prerequisites_of_isCount (h : c.requirement.isCount = true) : c.prerequisites = [] := by
  unfold prerequisites requiredFiles
  cases hrequirement : c.requirement with
  | count files tokens unit => rfl
  | _ =>
      rw [hrequirement] at h
      contradiction

theorem evaluate_valued (mode : MatchMode) (c : Check) :
    (c.evaluate mode).Always fun r => r.value.isSome = c.requirement.isCount := by
  have hkept : ∀ r : CheckResult, r.value.isSome = c.requirement.isCount →
      (pure (r.withInformational (!c.isGating)) : Access CheckResult).Always
        fun r => r.value.isSome = c.requirement.isCount := fun r hr => hr
  have hjudged := Access.Always.bind ((judge_valued (c := c) mode c.requirement).mono hkept)
  unfold evaluate
  rw [← prerequisites]
  by_cases hcount : c.requirement.isCount = true
  · -- A measurement asks for nothing that it could be stopped by.
    rw [prerequisites_of_isCount hcount]
    exact hjudged
  · refine .bind (.of_forall (fun answers => ?_) _)
    dsimp only
    cases errorsOf answers with
    | nil => exact hjudged
    | cons e rest => simp [hcount]

section Alone

variable {σ : Type} (s : Source (StateM σ)) (w : σ) (mode : MatchMode) (c : Check)

theorem alone_name : (c.alone s w mode).name = c.name :=
  ((c.evaluate_backed mode).run s .empty w).name_eq

theorem alone_value_isSome : (c.alone s w mode).value.isSome = c.requirement.isCount :=
  (c.evaluate_valued mode).run s .empty w

end Alone

end Check

/-! ## Looking up by name -/

namespace RunReport

variable {c : Contract} {report : RunReport} {outcome : Check → CheckResult}

theorem hasPassed_name (valid : c.Valid) (hname : ∀ k, (outcome k).name = k.name)
    (hresults : report.results = c.checks.map outcome) {k : Check} (hk : k ∈ c.checks) :
    report.hasPassed k.name = (outcome k).passed := by
  have hsame : (fun r : CheckResult => r.name == k.name) ∘ outcome =
      fun other => other.name == k.name := by
    funext other
    simp only [Function.comp, hname]
  have hfound : report.result? k.name = some (outcome k) := by
    rw [result?, hresults, ← List.head?_filter, List.filter_map, hsame, valid.filter_name hk]
    rfl
  rw [hasPassed, hfound]

theorem measurements_eq (hname : ∀ k, (outcome k).name = k.name)
    (hresults : report.results = c.checks.map outcome) :
    report.measurements =
      c.checks.filterMap fun k => (outcome k).value.map fun value => (k.name, value) := by
  simp only [measurements, hresults, List.filterMap_map, Function.comp_def, hname]

end RunReport

theorem Contract.labelOf_name {c : Contract} (valid : c.Valid) {k : Check} (hk : k ∈ c.checks) :
    c.labelOf k.name = k.label := by
  rw [labelOf, valid.check?_name hk]

theorem measurementRows_eq {c : Contract} {report : RunReport} {outcome : Check → CheckResult}
    (valid : c.Valid) (hname : ∀ k, (outcome k).name = k.name)
    (hresults : report.results = c.checks.map outcome) :
    measurementRows report c =
      c.checks.filterMap fun k => (outcome k).value.map fun value => (k.label, value) := by
  rw [measurementRows, RunReport.measurements_eq hname hresults, List.map_filterMap]
  apply List.filterMap_congr
  intro k hk
  simp [Option.map_map, Function.comp_def, Contract.labelOf_name valid hk]

/-! ## The rows of a run -/

def Requirement.owner? : Requirement → Option String
  | .interface owner .. => some owner
  | _ => none

theorem forall₂_filterMap_value {outcome : Check → CheckResult} {counts : Check → Bool}
    (hvalue : ∀ k, (outcome k).value.isSome = counts k) (checks : List Check) :
    List.Forall₂ (fun k row => row.1 = k.label ∧ (outcome k).value = some row.2)
      (checks.filter counts)
      (checks.filterMap fun k => (outcome k).value.map fun value => (k.label, value)) := by
  induction checks with
  | nil => exact .nil
  | cons k rest ih =>
      cases hk : (outcome k).value with
      | none =>
          have hcounts : counts k = false := by rw [← hvalue, hk]; rfl
          simpa [hcounts, hk] using ih
      | some value =>
          have hcounts : counts k = true := by rw [← hvalue, hk]; rfl
          simpa [hcounts, hk] using ih

/-- Each row of a report shows the check that it is meant to show.  In a report on an accepted
contract there is a row for each key interface, in order, with its label and the verdict of the only
check that has the name it refers to; if there are no key interfaces, a row for each interface
check with its owner and verdict.  And there is a row for each measurement, in order, with its
description, or its name if it has none, and its value. -/
theorem rows_show_their_checks {σ : Type} {s : Source (StateM σ)} {w : σ} (still : s.Steady w)
    {c : Contract} {report : RunReport} (accepted : c.validate = .ok ())
    (h : Reports s c.name c.matching c.checks w report) :
    let outcome := Check.alone s w c.matching
    report.results = c.checks.map outcome ∧
      (c.report.keyInterfaces ≠ [] →
        List.Forall₂ (fun key row => ∃ k,
            (c.checks.filter fun other => other.name == key.check) = [k] ∧
              row = (key.label, (outcome k).passed))
          c.report.keyInterfaces (keyInterfaceRows report c)) ∧
      (c.report.keyInterfaces = [] →
        keyInterfaceRows report c = c.checks.filterMap fun k =>
          k.requirement.owner?.map fun owner => (owner, (outcome k).passed)) ∧
      List.Forall₂ (fun k row => row.1 = k.description.getD k.name ∧
          (outcome k).value = some row.2)
        (c.checks.filter fun k => k.requirement.isCount) (measurementRows report c) := by
  intro outcome
  have valid := c.validate_eq_ok_iff.mp accepted
  have hresults : report.results = c.checks.map outcome := h.results_eq still
  have hname : ∀ k, (outcome k).name = k.name := Check.alone_name s w c.matching
  have hpassed {k : Check} (hk : k ∈ c.checks) :=
    RunReport.hasPassed_name valid hname hresults hk
  refine ⟨hresults, ?_, ?_, ?_⟩
  · intro hkeys
    rw [keyInterfaceRows, if_neg (by simpa using hkeys), List.forall₂_map_right_iff,
      List.forall₂_same]
    intro key hkey
    obtain ⟨k, hk, heq⟩ := valid.known key hkey
    exact ⟨k, heq ▸ valid.filter_name hk, by rw [← heq, hpassed hk]⟩
  · intro hkeys
    rw [keyInterfaceRows, if_pos (by simpa using hkeys)]
    apply List.filterMap_congr
    intro k hk
    unfold interfaceRow Requirement.owner?
    cases k.requirement <;> simp [hpassed hk]
  · rw [measurementRows_eq valid hname hresults]
    exact forall₂_filterMap_value (Check.alone_value_isSome s w c.matching) c.checks

theorem rows_show_their_checks_of_two_checks :
    let s : Source (StateM Unit) :=
      { read := fun path =>
          pure (if path = "a.h" then .ok "open close open" else .error (.notFound path))
        list := fun dir _ => pure (.error (.notFound dir)) }
    let uses : Check :=
      ⟨"uses", some "Uses of open", false, .count (.paths ["a.h"]) ["open"] .occurrences⟩
    let api : Check := ⟨"api", none, false, .interface "P" "a.h" "b.c" ["open"]⟩
    let c : Contract := { Contract.empty with
      report := ⟨none, none, [⟨"P::open", "api"⟩]⟩
      checks := [uses, api] }
    let report := ((runChecks s false c.name c.matching c.checks).run ()).1
    keyInterfaceRows report c = [("P::open", false)] ∧
      measurementRows report c = [("Uses of open", 2)] := by
  intro s uses api c report
  have still : s.Steady () := ⟨fun _ => rfl, fun _ _ => rfl⟩
  have accepted : c.validate = .ok () := by
    have hnone : c.fault? = none := by decide +kernel
    rw [Contract.validate, hnone]
  have hapi : (api.alone s () .literal).passed = false := by decide +kernel
  have huses : (uses.alone s () .literal).value = some 2 := by decide +kernel
  obtain ⟨-, hkeys, -, hvalues⟩ := rows_show_their_checks still accepted .inSequence
  constructor
  · obtain ⟨row, rest, ⟨k, hk, hrow⟩, hrest, hrows⟩ :=
      List.forall₂_cons_left_iff.mp (hkeys (List.cons_ne_nil _ _))
    obtain rfl : api = k := by simpa [c, uses, api] using hk
    rw [hrows, hrow, List.forall₂_nil_left_iff.mp hrest]
    exact congrArg (fun passed => [("P::open", passed)]) hapi
  · have hcounts : (c.checks.filter fun k => k.requirement.isCount) = [uses] := rfl
    rw [hcounts] at hvalues
    obtain ⟨row, rest, ⟨hlabel, hvalue⟩, hrest, hrows⟩ := List.forall₂_cons_left_iff.mp hvalues
    have hrow : row.2 = 2 := Option.some.inj (hvalue.symm.trans huses)
    rw [hrows, List.forall₂_nil_left_iff.mp hrest, ← hrow]
    exact congrArg (fun label => [(label, row.2)]) hlabel

end SourceContract
