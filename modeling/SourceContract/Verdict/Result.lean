import SourceContract.Matching.Tally

/-!
# Results of checks

A result says whether a check passed and lists what was found wrong.  An issue has
a weight: what it adds to the number of issues.
-/

namespace SourceContract

open Matching (Tally)

/-! ## Issues -/

inductive IssueKind where
  | missingResource
  | partialMatch
  /-- Something forbidden is there, or a convention is not followed. -/
  | conventionViolation
  /-- Two counts that should be equal are not, or are both zero. -/
  | imbalance
deriving DecidableEq, Repr

def IssueKind.name : IssueKind → String
  | .missingResource => "missing_resource"
  | .partialMatch => "partial_match"
  | .conventionViolation => "convention_violation"
  | .imbalance => "imbalance"

structure Issue where
  check : String
  kind : IssueKind
  message : String
  count : Nat
deriving DecidableEq, Repr

/-! ## Results -/

structure CheckResult where
  name : String
  kind : String
  passed : Bool
  message : String
  informational : Bool
  value : Option Nat
  tally : Option Tally
  issues : List Issue
deriving DecidableEq, Repr

namespace CheckResult

def pass (name kind message : String) : CheckResult :=
  ⟨name, kind, true, message, false, none, none, []⟩

def fail (name kind message : String) : CheckResult :=
  { pass name kind message with passed := false }

def withTally (r : CheckResult) (tally : Tally) : CheckResult := { r with tally := some tally }

def withValue (r : CheckResult) (value : Nat) : CheckResult := { r with value := some value }

def withInformational (r : CheckResult) (informational : Bool) : CheckResult :=
  { r with informational := informational }

def weighted (r : CheckResult) (kind : IssueKind) (message : String) (count : Nat) :
    CheckResult :=
  { r with issues := r.issues ++ [⟨r.name, kind, message, count⟩] }

def issue (r : CheckResult) (kind : IssueKind) (message : String) : CheckResult :=
  r.weighted kind message 1

def withIssues (r : CheckResult) (kind : IssueKind) (messages : List String) : CheckResult :=
  messages.foldl (fun r m => r.issue kind m) r

def issueCount (r : CheckResult) : Nat := (r.issues.map Issue.count).foldr (· + ·) 0

def settled (r : CheckResult) (message : String) : CheckResult :=
  { r with passed := r.issues.isEmpty, message := message }

def tag (r : CheckResult) : String :=
  if r.informational then "[INFO]" else if r.passed then "[PASS]" else "[FAIL]"

end CheckResult

end SourceContract
