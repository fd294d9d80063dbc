import SourceContract.Text.CharClass

/-!
# Regular expressions

What a pattern means once flags, classes and escapes are worked out: sets of
characters, conditions on the place, sequence, choice and repetition.

A choice prefers its left side and a greedy repetition prefers to go on, so the
order of the parts decides which of several matches from one place is taken.
-/

namespace SourceContract.Pattern

open Text

/-! ## Conditions on a place -/

inductive Look where
  | textStart
  | textEnd
  | lineStart (crlf : Bool)
  | lineEnd (crlf : Bool)
  | boundary (unicode : Bool)
  | notBoundary (unicode : Bool)
  | wordStart (unicode : Bool)
  | wordEnd (unicode : Bool)
  | wordStartHalf (unicode : Bool)
  | wordEndHalf (unicode : Bool)
deriving DecidableEq, Repr

def isAsciiWord (c : Char) : Bool := c.isAlphanum || c == '_'

def wordSide (unicode : Bool) : Option Char → Bool
  | some c => if unicode then isWordChar c else isAsciiWord c
  | none => false

def Look.holds (before after : Option Char) : Look → Bool
  | .textStart => before.isNone
  | .textEnd => after.isNone
  | .lineStart false => before.isNone || before == some '\n'
  | .lineStart true =>
      before.isNone || before == some '\n' || before == some '\r' && after != some '\n'
  | .lineEnd false => after.isNone || after == some '\n'
  | .lineEnd true =>
      after.isNone || after == some '\r' || after == some '\n' && before != some '\r'
  | .boundary unicode => wordSide unicode before != wordSide unicode after
  | .notBoundary unicode => wordSide unicode before == wordSide unicode after
  | .wordStart unicode => !wordSide unicode before && wordSide unicode after
  | .wordEnd unicode => wordSide unicode before && !wordSide unicode after
  | .wordStartHalf unicode => !wordSide unicode before
  | .wordEndHalf unicode => !wordSide unicode after

/-! ## Expressions -/

inductive Regex where
  | empty
  | set (s : CharSet)
  | look (l : Look)
  | concat (a b : Regex)
  | alt (a b : Regex)
  | repetition (min : Nat) (max : Option Nat) (greedy : Bool) (r : Regex)
  | group (r : Regex)
deriving DecidableEq, Repr

namespace Regex

def fail : Regex := .set CharSet.empty

def ofList : List Regex → Regex
  | [] => .empty
  | [r] => r
  | r :: rest => .concat r (ofList rest)

def choice : List Regex → Regex
  | [] => fail
  | [r] => r
  | r :: rest => .alt r (choice rest)

def nullable : Regex → Bool
  | empty => true
  | set _ => false
  | look _ => true
  | concat a b => a.nullable && b.nullable
  | alt a b => a.nullable || b.nullable
  | repetition min _ _ r => min == 0 || r.nullable
  | group r => r.nullable

def widthless : Regex → Bool
  | empty => true
  | set _ => false
  | look _ => true
  | concat a b => a.widthless && b.widthless
  | alt a b => a.widthless && b.widthless
  | repetition _ max _ r => max == some 0 || r.widthless
  | group r => r.widthless

/-- A repetition.  What has no width is as good once as many times. -/
def repeated (min : Nat) (max : Option Nat) (greedy : Bool) (r : Regex) : Regex :=
  if max == some 0 then .empty
  else if min == 1 && max == some 1 then r
  else if r.widthless then .repetition (Nat.min min 1) (some 1) greedy r
  else .repetition min max greedy r

end Regex

end SourceContract.Pattern
