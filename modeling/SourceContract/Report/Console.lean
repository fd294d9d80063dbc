import SourceContract.Binary64.Text
import SourceContract.Report.Markdown

/-!
# The report on the console

The console shows spans of text, each in a style.  Columns are padded by what is
seen: a style adds nothing to the width of a text.
-/

namespace SourceContract.Console

/-! ## Styled text -/

inductive Style where
  | plain
  | title
  | bold
  | dimmed
  | red
  | green
  | yellow
  | cyan
deriving DecidableEq, Repr

def Style.code : Style → Option String
  | plain => none
  | title => some "1;36"
  | bold => some "1"
  | dimmed => some "2"
  | red => some "31"
  | green => some "32"
  | yellow => some "33"
  | cyan => some "36"

structure Span where
  style : Style
  text : String
deriving DecidableEq, Repr

def codeText (code : String) : String := "\x1b[" ++ code ++ "m"

/-- Switches a style on again behind each reset that the text itself holds. -/
def resume (start : List Char) : List Char → List Char
  | '\x1b' :: '[' :: '0' :: 'm' :: rest =>
      '\x1b' :: '[' :: '0' :: 'm' :: (start ++ resume start rest)
  | c :: rest => c :: resume start rest
  | [] => []

def Span.write (colour : Bool) (s : Span) : String :=
  match colour, s.style.code with
  | true, some code =>
      let start := codeText code
      start ++ String.ofList (resume start.toList s.text.toList) ++ codeText "0"
  | _, _ => s.text

abbrev Line := List Span

def Line.write (colour : Bool) (l : Line) : String := String.join (l.map (Span.write colour))

def text (s : String) : Span := ⟨.plain, s⟩

/-! ## Columns -/

def padRight (width : Nat) (s : String) : String :=
  s ++ String.ofList (List.replicate (width - s.length) ' ')

def padLeft (width : Nat) (s : String) : String :=
  String.ofList (List.replicate (width - s.length) ' ') ++ s

def row (label : String) (value : Line) : Line :=
  text ("    " ++ padRight 18 label ++ " ") :: value

/-! ## Sections -/

def headerLines (version : String) (c : Contract) (root : String) : List Line :=
  [[], [text "  ", ⟨.title, "contractlint"⟩, text (" v" ++ version)], [],
      [text "  ", ⟨.dimmed, "Project:  "⟩, text root]]
    ++ (if c.name.isEmpty then [] else [[text "  ", ⟨.dimmed, "Contract: "⟩, text c.name]]) ++ [[]]

def tagStyle (r : CheckResult) : Style :=
  if r.informational then .cyan else if r.passed then .green else .red

def resultLine (r : CheckResult) : Line :=
  [text "    ", ⟨tagStyle r, r.tag⟩, text (": " ++ r.name)]
    ++ if r.message.isEmpty then [] else [text " ", ⟨.dimmed, "- " ++ r.message⟩]

def sectionTitle (title : String) (size : Nat) : Line :=
  [text "  ", ⟨.bold, title⟩, text (" (" ++ toString size ++ "):")]

def resultLines (r : RunReport) : List Line :=
  sectionTitle "Checks" r.results.length :: r.results.map resultLine

def summaryLines (r : RunReport) (c : Contract) : List Line :=
  let s := r.stats
  [[text "  ", ⟨.bold, "Summary:"⟩],
      row "Total checks" [text (toString s.total)],
      row "Passed" [⟨.green, toString s.passed⟩],
      row "Failed" [⟨if s.failed = 0 then .plain else .red, toString s.failed⟩],
      row "Pass rate" [text (s.passRate.fixed 1 ++ "%")],
      row "Issues" [text (toString s.issueCount)],
      row "Files inspected"
        [text (toString s.filesInspected ++ " (" ++ toString s.filesMissing ++ " missing)")]]
    ++ (measurementRows r c).map fun m => row m.1 [text (toString m.2)]

def issueLine (number : Nat) (i : Issue) : Line :=
  [text ("    " ++ padLeft 3 (toString number) ++ ". "), ⟨.dimmed, padRight 22 i.kind.name⟩,
    text i.message]

def issueLinesFrom : Nat → List Issue → List Line
  | _, [] => []
  | n, i :: rest => issueLine n i :: issueLinesFrom (n + 1) rest

def issueLines (r : RunReport) : List Line :=
  if r.issues.isEmpty then []
  else sectionTitle "Issues" r.issues.length :: issueLinesFrom 1 r.issues ++ [[]]

def recommendationStyle : Recommendation → Style
  | .compliant => .green
  | .minorGaps => .yellow
  | .significantGaps => .red

def verdictLine (r : RunReport) : Line :=
  [text "  ", ⟨recommendationStyle r.recommendation, r.recommendation.tag⟩,
    text (" " ++ r.recommendation.message ++ "  "),
    if r.allPassed then ⟨.green, "PASSED"⟩ else ⟨.red, "FAILED"⟩]

/-! ## The whole -/

def lines (version : String) (r : RunReport) (c : Contract) (root : String) : List Line :=
  headerLines version c root ++ resultLines r ++ [[]] ++ summaryLines r c ++ [[]] ++ issueLines r
    ++ [verdictLine r, []]

def render (colour : Bool) (version : String) (r : RunReport) (c : Contract) (root : String) :
    String :=
  String.join ((lines version r c root).map fun l => Line.write colour l ++ "\n")

end SourceContract.Console
