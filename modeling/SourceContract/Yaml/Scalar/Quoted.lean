import SourceContract.Yaml.Scalar.Gap
import SourceContract.Yaml.Token
import SourceContract.Text.CharSet

/-!
# Quoted scalars

In single quotes only the quote itself is written twice.  In double quotes a
backslash starts an escape; a backslash at the end of a line drops the line break.
-/

namespace SourceContract.Yaml

/-! ## Escapes -/

def shortEscapes : List (Char × Char) := [
  ('0', '\x00'), ('a', '\x07'), ('b', '\x08'), ('t', '\t'), ('\t', '\t'), ('n', '\n'),
  ('v', '\x0b'), ('f', '\x0c'), ('r', '\r'), ('e', '\x1b'), (' ', ' '), ('"', '"'), ('/', '/'),
  ('\\', '\\'), ('N', nextLineControl), ('_', Char.ofNat 0xA0), ('L', lineSeparator),
  ('P', paragraphSeparator)]

def codePointEscapes : List (Char × Nat) := [('x', 2), ('u', 4), ('U', 8)]

def valueOf {α : Type} (table : List (Char × α)) (c : Char) : Option α :=
  (table.find? fun e => e.1 == c).map Prod.snd

namespace Reader

def hexNumber (digits : Nat) (began : Mark) : Reader Nat := do
  let cs := (← get).rest.take digits
  let values := cs.filterMap Text.CharSet.hexValue?
  if values.length < digits then fail .hexMissing .quotedEscape began
  return values.foldl (fun n v => 16 * n + v) 0

def escape (began : Mark) : Reader Char := do
  match ← peekAt 1 with
  | none => fail .escapeUnknown .quotedEscape began
  | some c =>
      match valueOf shortEscapes c with
      | some a =>
          skip
          skip
          return a
      | none =>
          match valueOf codePointEscapes c with
          | none => fail .escapeUnknown .quotedEscape began
          | some digits =>
              skip
              skip
              let n ← hexNumber digits began
              if h : n.isValidChar then
                for _ in List.range digits do skip
                return Char.ofNatAux n h
              else fail .codePointInvalid .quotedEscape began

/-! ## Words and gaps -/

/-- Adds the characters up to a blank, the closing quote or an escaped line break, the last one
first; says whether they end with the latter. -/
def quotedWord (double : Bool) (began : Mark) : Nat → List Char → Reader (List Char × Bool)
  | 0, word => return (word, false)
  | fuel + 1, word => do
      let next ← peekAt 1
      match ← peek with
      | none => return (word, false)
      | some c =>
          if endsWord (some c) then return (word, false)
          else if !double && c == '\'' && next == some '\'' then
            skip
            skip
            quotedWord double began fuel ('\'' :: word)
          else if c == (if double then '"' else '\'') then return (word, false)
          else if double && c == '\\' && next.any isBreak then
            skip
            let _ ← takeBreak
            return (word, true)
          else if double && c == '\\' then
            let a ← escape began
            quotedWord double began fuel (a :: word)
          else
            skip
            quotedWord double began fuel (c :: word)

def quotedWords (double : Bool) (began : Mark) : Nat → List Char → Reader (List Char)
  | 0, text => return text
  | fuel + 1, text => do
      if ← atDocumentBoundary then fail .documentMarkInScalar .quotedScalar began
      if ← atEnd then fail .endInScalar .quotedScalar began
      let (text, broken) ← quotedWord double began (← steps) text
      if (← peek) == some (if double then '"' else '\'') then
        skip
        return text
      let gap ← gap 0 began (← steps) (if broken then .lines none [] else .blanks [])
      quotedWords double began fuel (gap.text.reverse ++ text)

def quotedScalar (double : Bool) : Reader Token := do
  let began ← mark
  skip
  let text ← quotedWords double began (← steps) []
  return .scalar (String.ofList text.reverse) (if double then .doubleQuoted else .singleQuoted)

end Reader

end SourceContract.Yaml
