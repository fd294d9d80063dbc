import SourceContract.Contract.Basic
import SourceContract.Verdict.Summary

/-!
# Rows of a report

Two sections of a report are tables of labels: whether the key interfaces hold, and
what the measurements gave.  The labels come from the contract, what stands beside
them from the results.
-/

namespace SourceContract

def RunReport.hasPassed (r : RunReport) (check : String) : Bool :=
  match r.result? check with
  | some result => result.passed
  | none => false

def interfaceRow (r : RunReport) (c : Check) : Option (String × Bool) :=
  match c.requirement with
  | .interface owner .. => some (owner, r.hasPassed c.name)
  | _ => none

/-- The configured key interfaces, or all interface checks when there are none. -/
def keyInterfaceRows (r : RunReport) (c : Contract) : List (String × Bool) :=
  if c.report.keyInterfaces.isEmpty then c.checks.filterMap (interfaceRow r)
  else c.report.keyInterfaces.map fun k => (k.label, r.hasPassed k.check)

def Contract.labelOf (c : Contract) (name : String) : String :=
  match c.check? name with
  | some check => check.label
  | none => name

def measurementRows (r : RunReport) (c : Contract) : List (String × Nat) :=
  r.measurements.map fun row => (c.labelOf row.1, row.2)

end SourceContract
