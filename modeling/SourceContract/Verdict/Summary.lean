import SourceContract.Binary64.Basic
import SourceContract.Verdict.Result

/-!
# The report of a run

The results of a run are added up into totals, a pass rate and a recommendation.
Informational results stay in the report but do not count: neither in the totals,
nor among the issues, nor for the verdict.
-/

namespace SourceContract

/-! ## Recommendations -/

inductive Recommendation where
  | compliant
  | minorGaps
  | significantGaps
deriving DecidableEq, Repr

namespace Recommendation

def compliantFrom : Binary64 := .ofNat 100

def minorGapsFrom : Binary64 := .ofNat 80

def ofPassRate (rate : Binary64) : Recommendation :=
  if compliantFrom ≤ rate then .compliant
  else if minorGapsFrom ≤ rate then .minorGaps
  else .significantGaps

def name : Recommendation → String
  | compliant => "compliant"
  | minorGaps => "minor_gaps"
  | significantGaps => "significant_gaps"

def tag : Recommendation → String
  | compliant => "[OK]"
  | minorGaps => "[WARN]"
  | significantGaps => "[ERROR]"

def message : Recommendation → String
  | compliant => "All checks passed; the project is fully compliant."
  | minorGaps => "Most checks passed; review and fix the failed checks."
  | significantGaps => "Several checks failed; the implementation needs a full review."

end Recommendation

/-- Percentage of passed checks; zero when there are none. -/
def passRate (passed total : Nat) : Binary64 :=
  if total = 0 then .zero
  else .ofNat 100 * .ofNat passed / .ofNat total

/-! ## Reports -/

structure CorpusStats where
  filesInspected : Nat
  filesMissing : Nat
deriving DecidableEq, Repr

structure RunStats where
  total : Nat
  passed : Nat
  failed : Nat
  passRate : Binary64
  issueCount : Nat
  filesInspected : Nat
  filesMissing : Nat
  informational : Nat
deriving DecidableEq, Repr

structure RunReport where
  contract : String
  results : List CheckResult
  issues : List Issue
  stats : RunStats
  recommendation : Recommendation
  cancelled : Bool
deriving DecidableEq, Repr

namespace RunReport

def gating (results : List CheckResult) : List CheckResult :=
  results.filter fun r => !r.informational

def statsOf (results : List CheckResult) (corpus : CorpusStats) : RunStats :=
  let counted := gating results
  let total := counted.length
  let passed := (counted.filter CheckResult.passed).length
  { total := total
    passed := passed
    failed := total - passed
    passRate := SourceContract.passRate passed total
    issueCount := ((counted.flatMap CheckResult.issues).map Issue.count).foldr (· + ·) 0
    filesInspected := corpus.filesInspected
    filesMissing := corpus.filesMissing
    informational := results.length - total }

def aggregate (contract : String) (results : List CheckResult) (corpus : CorpusStats)
    (cancelled : Bool) : RunReport :=
  let stats := statsOf results corpus
  { contract := contract
    results := results
    issues := (gating results).flatMap CheckResult.issues
    stats := stats
    recommendation := .ofPassRate stats.passRate
    cancelled := cancelled }

def allPassed (r : RunReport) : Bool := r.stats.failed == 0 && !r.cancelled

def result? (r : RunReport) (name : String) : Option CheckResult :=
  r.results.find? fun c => c.name == name

def measurements (r : RunReport) : List (String × Nat) :=
  r.results.filterMap fun c => c.value.map fun v => (c.name, v)

end RunReport

end SourceContract
