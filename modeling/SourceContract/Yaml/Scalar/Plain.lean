import SourceContract.Yaml.Scalar.Gap
import SourceContract.Yaml.Token

/-!
# Plain scalars

A plain scalar is written without quotes.  It ends at a comment, at a colon in front
of a blank, at an indicator of a flow collection it stands in, at a document mark,
and before a line that is indented too little.
-/

namespace SourceContract.Yaml

def isFlowIndicator (c : Char) : Bool := ",[]\x7b\x7d".toList.contains c

namespace Reader

def plainEnds (flow : Bool) (began : Mark) : Reader Bool := do
  let c ← peek
  let next ← peekAt 1
  if flow && c == some ':' && next.any fun n => isFlowIndicator n || n == '?' then
    fail .colonInFlow .plainScalar began
  return (c == some ':' && endsWord next) || (flow && c.any isFlowIndicator)

def plainWord (flow : Bool) (began : Mark) : Nat → List Char → Reader (List Char)
  | 0, word => return word
  | fuel + 1, word => do
      match ← peek with
      | none => return word
      | some c =>
          if endsWord (some c) then return word
          if ← plainEnds flow began then return word
          skip
          plainWord flow began fuel (c :: word)

/-- Words and gaps up to the end of the scalar, the last character first.  The gap at the end
belongs to the scalar only if a word follows. -/
def plainWords (flow : Bool) (least : Nat) (began : Mark) : Nat → List Char → Gap →
    Reader (List Char × Gap)
  | 0, text, space => return (text, space)
  | fuel + 1, text, space => do
      if (← atDocumentBoundary) || (← peek) == some '#' then return (text, space)
      let word ← plainWord flow began (← steps) []
      let (text, space) := if word.isEmpty then (text, space)
        else (word ++ space.text.reverse ++ text, .blanks [])
      match ← peek with
      | none => return (text, space)
      | some c =>
          if !isBlank c && !isBreak c then return (text, space)
          let space ← gap least began (← steps) space
          if !flow && (← column) < least then return (text, space)
          plainWords flow least began fuel text space

def plainScalar (flow : Bool) (least : Nat) : Reader (Token × Bool) := do
  let began ← mark
  let (text, space) ← plainWords flow least began (← steps) [] (.blanks [])
  return (.scalar (String.ofList text.reverse) .plain, space.hasLines)

end Reader

end SourceContract.Yaml
