import SourceContract.Binary64.Text
import SourceContract.Report.Rows

/-!
# The report as a Markdown document

The document is a list of lines in sections: the overall result, the checks, the
key interfaces if there are any, the issues and the recommendation.
-/

namespace SourceContract.Markdown

def bullet (label value : String) : String := "- **" ++ label ++ "**: " ++ value

def heading (title : String) : List String := ["## " ++ title, ""]

/-! ## Sections -/

def titleLines (r : RunReport) (c : Contract) (root generatedAt : String) : List String :=
  ["# " ++ c.reportTitle, "", "**Generated**: " ++ generatedAt, "**Project root**: " ++ root]
    ++ (if c.name.isEmpty then [] else ["**Contract**: " ++ c.name]) ++ [""]
    ++ if r.cancelled then ["> Run cancelled before all checks were evaluated.", ""] else []

def overallLines (r : RunReport) (c : Contract) : List String :=
  let s := r.stats
  [bullet "Total checks" (toString s.total), bullet "Passed" (toString s.passed),
      bullet "Failed" (toString s.failed), bullet "Pass rate" (s.passRate.fixed 1 ++ "%"),
      bullet "Issues" (toString s.issueCount),
      bullet "Files inspected"
        (toString s.filesInspected ++ " (" ++ toString s.filesMissing ++ " missing)")]
    ++ (if s.informational = 0 then []
        else [bullet "Informational checks" (toString s.informational)])
    ++ (measurementRows r c).map fun row => bullet row.1 (toString row.2)

def resultLine (r : CheckResult) : String :=
  "- " ++ r.tag ++ " **" ++ r.name ++ "**"
    ++ (if r.message.isEmpty then "" else " - " ++ r.message)
    ++ match r.tally with
      | some t => " (" ++ toString t.found ++ "/" ++ toString t.required ++ ")"
      | none => ""

def resultLines (r : RunReport) : List String :=
  if r.results.isEmpty then ["No checks were evaluated."] else r.results.map resultLine

def keyLine (row : String × Bool) : String :=
  "- " ++ (if row.2 then "[OK]" else "[XX]") ++ " " ++ row.1

def keyLines (r : RunReport) (c : Contract) : List String := (keyInterfaceRows r c).map keyLine

def issueLine (number : Nat) (i : Issue) : String :=
  toString number ++ ". \x60" ++ i.check ++ "\x60 [" ++ i.kind.name ++ "] " ++ i.message

def numbered (write : Nat → Issue → String) : Nat → List Issue → List String
  | _, [] => []
  | n, i :: rest => write n i :: numbered write (n + 1) rest

def issueLines (r : RunReport) : List String :=
  if r.issues.isEmpty then ["No issues."] else numbered issueLine 1 r.issues

def recommendationLine (r : RunReport) : String :=
  r.recommendation.tag ++ " **" ++ r.recommendation.message ++ "**"

/-! ## The document -/

def lines (r : RunReport) (c : Contract) (root generatedAt : String) : List String :=
  let keys := keyLines r c
  titleLines r c root generatedAt
    ++ heading "Overall result" ++ overallLines r c ++ [""]
    ++ heading "Check results" ++ resultLines r ++ [""]
    ++ (if keys.isEmpty then [] else heading "Key interface status" ++ keys ++ [""])
    ++ heading "Issues" ++ issueLines r ++ [""]
    ++ heading "Recommendation" ++ [recommendationLine r]

def render (r : RunReport) (c : Contract) (root generatedAt : String) : String :=
  String.join ((lines r c root generatedAt).map fun line => line ++ "\n")

end SourceContract.Markdown
