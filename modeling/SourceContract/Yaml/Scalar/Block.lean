import SourceContract.Yaml.Cursor
import SourceContract.Yaml.Token

/-!
# Block scalars

The lines of a block scalar are those that are indented far enough.  A literal
scalar keeps its line breaks, a folded one joins lines that do not start with a
blank.  Chomping says what becomes of the line breaks at the end.
-/

namespace SourceContract.Yaml

inductive Chomping where
  | strip
  | clip
  | keep
deriving DecidableEq, Repr

namespace Reader

/-! ## The header -/

def chomping? : Reader (Option Chomping) := do
  match ← peek with
  | some '+' =>
      skip
      return some .keep
  | some '-' =>
      skip
      return some .strip
  | _ => return none

def indentation? (began : Mark) : Reader (Option Nat) := do
  match ← peek with
  | some c =>
      if !c.isDigit then return none
      if c == '0' then fail .indentationZero .blockScalar began
      skip
      return some (c.toNat - '0'.toNat)
  | none => return none

def blockHeader (began : Mark) : Reader (Chomping × Option Nat) := do
  let before ← chomping?
  let indentation ← indentation? began
  let after ← if before.isNone && indentation.isSome then chomping? else pure none
  skipWhile isBlank
  skipComment
  if !endsLine (← peek) then fail .lineEndMissing .blockScalar began
  let _ ← takeBreak
  return ((before.or after).getD .clip, indentation)

/-! ## Lines -/

def skipSpaces (limit : Option Nat) : Nat → Reader Unit
  | 0 => return ()
  | fuel + 1 => do
      if (← peek) == some ' ' && limit.all ((← column) < ·) then
        skip
        skipSpaces limit fuel

/-- Empty lines with the indentation of the line behind them. -/
structure EmptyLines where
  breaks : List Char
  deepest : Nat

def emptyLines (indent : Option Nat) (began : Mark) : Nat → EmptyLines → Reader EmptyLines
  | 0, soFar => return soFar
  | fuel + 1, soFar => do
      skipSpaces indent (← steps)
      let column ← column
      let soFar := { soFar with deepest := max soFar.deepest column }
      if (← peek) == some '\t' && indent.all (column < ·) then
        fail .tabInIndentation .blockScalar began
      match ← takeBreak with
      | some c =>
          emptyLines indent began fuel { soFar with breaks := soFar.breaks ++ [c] }
      | none => return soFar

structure BlockText where
  /-- The characters so far, the last one first. -/
  text : List Char
  lineBreak : Option Char
  breaks : List Char
  startsBlank : Bool

def BlockText.joint (t : BlockText) (literal startsBlank : Bool) : List Char :=
  if !literal && t.lineBreak == some '\n' && !t.startsBlank && !startsBlank then
    if t.breaks.isEmpty then [' '] else t.breaks
  else t.lineBreak.toList ++ t.breaks

def blockLines (literal : Bool) (indent : Nat) (began : Mark) : Nat → BlockText → Reader BlockText
  | 0, soFar => return soFar
  | fuel + 1, soFar => do
      match ← peek with
      | none => return soFar
      | some c =>
          if (← column) != indent then return soFar
          let startsBlank := isBlank c
          let line ← takeWhile fun a => !isBreak a
          let lineBreak ← takeBreak
          let empty ← emptyLines (some indent) began (← steps) ⟨[], 0⟩
          blockLines literal indent began fuel
            ⟨line.reverse ++ (soFar.joint literal startsBlank).reverse ++ soFar.text, lineBreak,
              empty.breaks, startsBlank⟩

/-- A block scalar; the cursor stands at its indicator, inside a collection whose content starts at
the column `least` or behind it. -/
def blockScalar (literal : Bool) (least : Nat) : Reader Token := do
  let began ← mark
  skip
  let (chomping, indentation) ← blockHeader began
  let given := indentation.map fun n => (least - 1) + n
  let empty ← emptyLines given began (← steps) ⟨[], 0⟩
  let indent := given.getD (max (max empty.deepest least) 1)
  let read ← blockLines literal indent began (← steps) ⟨[], none, empty.breaks, false⟩
  let lineBreak := if chomping == .strip then [] else read.lineBreak.toList
  let breaks := if chomping == .keep then read.breaks else []
  return .scalar (String.ofList (read.text.reverse ++ lineBreak ++ breaks))
    (if literal then .literal else .folded)

end Reader

end SourceContract.Yaml
