import SourceContract.Matching.Identifier
import SourceContract.Text.Quoted

/-!
# Contracts

A contract is an ordered table of named checks.  A check states one requirement on
the files of a project.  A check that is informational, or that only measures, is
reported but does not gate the verdict.
-/

namespace SourceContract

open Matching (MatchMode)

/-! ## Requirements -/

inductive FileSet where
  | paths (paths : List String)
  | walk (dir glob : String)
deriving DecidableEq, Repr

inductive CountUnit where
  | occurrences
  | files
deriving DecidableEq, Repr

structure TokenRule where
  file : String
  anyOf : List String
  minCount : Nat
deriving DecidableEq, Repr

inductive Requirement where
  | present (paths : List String)
  | interface (owner declaration implementation : String) (methods : List String)
  | fields (file : String) (owner : Option String) (fields : List String)
  | paired (file opening closing : String) (requireUsage : Bool)
  /-- The tokens occur more than `min` times. -/
  | threshold (file : String) (tokens : List String) (min : Nat)
  | forbidden (token : String) (files : FileSet) (require : List String) (allowEmpty : Bool)
  | tokens (rules : List TokenRule)
  | patterns (file : String) (patterns : List String) (minCount : Nat)
  | count (files : FileSet) (tokens : List String) (unit : CountUnit)
deriving DecidableEq, Repr

def Requirement.kind : Requirement → String
  | .present .. => "exists"
  | .interface .. => "interface"
  | .fields .. => "fields"
  | .paired .. => "paired"
  | .threshold .. => "threshold"
  | .forbidden .. => "forbidden"
  | .tokens .. => "tokens"
  | .patterns .. => "regex"
  | .count .. => "count"

def Requirement.isCount : Requirement → Bool
  | .count .. => true
  | _ => false

/-! ## Checks -/

structure Check where
  name : String
  description : Option String
  informational : Bool
  requirement : Requirement
deriving DecidableEq, Repr

namespace Check

def isGating (c : Check) : Bool := !c.informational && !c.requirement.isCount

def label (c : Check) : String := c.description.getD c.name

def kind (c : Check) : String := c.requirement.kind

def ruleFiles (rules : List TokenRule) : List String :=
  rules.foldl (fun files r => if files.contains r.file then files else files ++ [r.file]) []

/-- The files that have to be there for the check to be decided.  A walk names none, and neither
does a measurement, which passes over what it cannot read. -/
def requiredFiles (c : Check) : List String :=
  match c.requirement with
  | .present paths => paths
  | .interface _ declaration implementation _ => [declaration, implementation]
  | .fields file .. => [file]
  | .paired file .. => [file]
  | .threshold file .. => [file]
  | .patterns file .. => [file]
  | .forbidden _ (.paths paths) .. => paths
  | .forbidden _ (.walk ..) .. => []
  | .tokens rules => ruleFiles rules
  | .count .. => []

end Check

/-! ## Contracts -/

/-- A line of the report that shows whether one check passed. -/
structure KeyInterface where
  label : String
  check : String
deriving DecidableEq, Repr

structure ReportSettings where
  path : Option String
  title : Option String
  keyInterfaces : List KeyInterface
deriving DecidableEq, Repr

structure Contract where
  version : String
  name : String
  description : Option String
  matching : MatchMode
  report : ReportSettings
  checks : List Check
deriving DecidableEq, Repr

namespace Contract

def empty : Contract := ⟨"", "", none, .literal, ⟨none, none, []⟩, []⟩

def defaultReportPath : String := "contract_verification_report.md"

def reportPath (c : Contract) : String := c.report.path.getD defaultReportPath

def reportTitle (c : Contract) : String :=
  match c.report.title with
  | some title => title
  | none =>
      if c.name.isEmpty then "Contract verification report"
      else c.name ++ " verification report"

def check? (c : Contract) (name : String) : Option Check := c.checks.find? fun k => k.name == name

end Contract

def TokenRule.label (r : TokenRule) : String :=
  let alternatives := " or ".intercalate (r.anyOf.map Text.Quoted.quote)
  if 1 < r.minCount then alternatives ++ " x" ++ toString r.minCount else alternatives

end SourceContract
