import SourceContract.Value.Read
import SourceContract.Verdict.Summary

/-!
# Reports as structured values

A report is written with the fields that say something: an empty list, an absent
value and a flag that is off are left out of a result.  Reading takes left-out
fields as such.
-/

namespace SourceContract

open Matching (Tally)
open Value

/-! ## Names of choices -/

def IssueKind.names : List (String × IssueKind) :=
  [IssueKind.missingResource, .partialMatch, .conventionViolation, .imbalance].map
    fun k => (k.name, k)

def Recommendation.names : List (String × Recommendation) :=
  [Recommendation.compliant, .minorGaps, .significantGaps].map fun r => (r.name, r)

def IssueKind.ofValue : Value → Except Mismatch IssueKind := asVariant false IssueKind.names

def Recommendation.ofValue : Value → Except Mismatch Recommendation :=
  asVariant false Recommendation.names

/-! ## Tallies and issues -/

def fieldIf (present : Bool) (name : String) (v : Value) : List (String × Value) :=
  if present then [(name, v)] else []

def optionalField {α : Type} (name : String) (write : α → Value) :
    Option α → List (String × Value)
  | none => []
  | some a => [(name, write a)]

def Matching.Tally.toValue (t : Tally) : Value :=
  record ([("found", nat t.found), ("required", nat t.required)]
    ++ fieldIf (!t.missing.isEmpty) "missing" (texts t.missing))

def Matching.Tally.shape : Shape Value Mismatch Tally :=
  Tally.mk <$> .required "found" asNat <*> .required "required" asNat
    <*> .withDefault "missing" asTexts []

def Matching.Tally.ofValue : Value → Except Mismatch Tally :=
  asRecord false "Tally" Matching.Tally.shape

def Issue.toValue (i : Issue) : Value :=
  record [("check", .str i.check), ("kind", .str i.kind.name), ("message", .str i.message),
    ("count", nat i.count)]

def Issue.shape : Shape Value Mismatch Issue :=
  Issue.mk <$> .required "check" asText <*> .required "kind" IssueKind.ofValue
    <*> .required "message" asText <*> .required "count" asNat

def Issue.ofValue : Value → Except Mismatch Issue := asRecord false "Issue" Issue.shape

/-! ## Results -/

def CheckResult.toValue (r : CheckResult) : Value :=
  record ([("name", .str r.name), ("kind", .str r.kind), ("passed", .bool r.passed),
      ("message", .str r.message)]
    ++ fieldIf r.informational "informational" (.bool r.informational)
    ++ optionalField "value" nat r.value
    ++ optionalField "tally" Matching.Tally.toValue r.tally
    ++ fieldIf (!r.issues.isEmpty) "issues" (.seq (r.issues.map Issue.toValue)))

def CheckResult.shape : Shape Value Mismatch CheckResult :=
  CheckResult.mk <$> .required "name" asText <*> .required "kind" asText
    <*> .required "passed" asBool <*> .required "message" asText
    <*> .withDefault "informational" asBool false
    <*> .withDefault "value" (asOption asNat) none
    <*> .withDefault "tally" (asOption Matching.Tally.ofValue) none
    <*> .withDefault "issues" (asList Issue.ofValue) []

def CheckResult.ofValue : Value → Except Mismatch CheckResult :=
  asRecord false "CheckResult" CheckResult.shape

/-! ## Reports -/

def CorpusStats.toValue (s : CorpusStats) : Value :=
  record [("files_inspected", nat s.filesInspected), ("files_missing", nat s.filesMissing)]

def CorpusStats.shape : Shape Value Mismatch CorpusStats :=
  CorpusStats.mk <$> .required "files_inspected" asNat <*> .required "files_missing" asNat

def CorpusStats.ofValue : Value → Except Mismatch CorpusStats :=
  asRecord false "CorpusStats" CorpusStats.shape

def RunStats.toValue (s : RunStats) : Value :=
  record [("total", nat s.total), ("passed", nat s.passed), ("failed", nat s.failed),
    ("pass_rate", .float s.passRate), ("issue_count", nat s.issueCount),
    ("files_inspected", nat s.filesInspected), ("files_missing", nat s.filesMissing),
    ("informational", nat s.informational)]

def RunStats.shape : Shape Value Mismatch RunStats :=
  RunStats.mk <$> .required "total" asNat <*> .required "passed" asNat
    <*> .required "failed" asNat <*> .required "pass_rate" asFloat
    <*> .required "issue_count" asNat <*> .required "files_inspected" asNat
    <*> .required "files_missing" asNat <*> .withDefault "informational" asNat 0

def RunStats.ofValue : Value → Except Mismatch RunStats := asRecord false "RunStats" RunStats.shape

def RunReport.toValue (r : RunReport) : Value :=
  record [("contract", .str r.contract), ("results", .seq (r.results.map CheckResult.toValue)),
    ("issues", .seq (r.issues.map Issue.toValue)), ("stats", r.stats.toValue),
    ("recommendation", .str r.recommendation.name), ("cancelled", .bool r.cancelled)]

def RunReport.shape : Shape Value Mismatch RunReport :=
  RunReport.mk <$> .required "contract" asText
    <*> .required "results" (asList CheckResult.ofValue)
    <*> .required "issues" (asList Issue.ofValue) <*> .required "stats" RunStats.ofValue
    <*> .required "recommendation" Recommendation.ofValue
    <*> .withDefault "cancelled" asBool false

def RunReport.ofValue : Value → Except Mismatch RunReport :=
  asRecord false "RunReport" RunReport.shape

end SourceContract
