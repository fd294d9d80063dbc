import SourceContract.Glob.Token
import SourceContract.Pattern.Search

/-!
# Matching file names

A glob is matched with all bytes of a file name, so `?` stands for one byte and a
choice is a choice of bytes: a character outside ASCII adds its bytes to it, and a
range reaches from the last byte of its start to the first byte of its end.
Letters differ by case, and a leading dot is a character like any other.
-/

namespace SourceContract

open Text

/-! ## Bytes as characters -/

namespace Glob

def byteChar (b : UInt8) : Char := Char.ofNat b.toNat

def bytesOf (c : Char) : List Nat := Pattern.encodeNat c.toNat

def anyByte : CharSet := ⟨[(0, 0xFF)]⟩

def byte (n : Nat) : Pattern.Regex := .set ⟨[(n, n)]⟩

def rangeBytes (r : Char × Char) : List (Nat × Nat) :=
  let single (n : Nat) : Nat × Nat := (n, n)
  let lo := bytesOf r.1
  let hi := bytesOf r.2
  if r.1 = r.2 then lo.map single
  else lo.dropLast.map single ++ [(lo.getLast?.getD 0, hi.head?.getD 0)] ++ hi.tail.map single

def choiceBytes (negated : Bool) (ranges : List (Char × Char)) : CharSet :=
  let set := CharSet.ofRanges (ranges.flatMap rangeBytes)
  if negated then anyByte.diff set else set

/-! ## Meaning -/

def anything : Pattern.Regex := .repetition 0 none true (.set anyByte)

def slash : Pattern.Regex := byte 0x2F

mutual

/-- The expression of a token; nothing when it adds nothing. -/
def Token.meaning : Token → Option Pattern.Regex
  | .literal c => some (.ofList ((bytesOf c).map byte))
  | .any => some (.set anyByte)
  | .zeroOrMore => some anything
  | .recursivePrefix =>
      some (.alt (.repetition 0 (some 1) true slash) (.concat anything slash))
  | .recursiveSuffix => some (.concat slash anything)
  | .recursiveZeroOrMore => some (.alt slash (.concat slash (.concat anything slash)))
  | .oneOf negated ranges => some (.set (choiceBytes negated ranges))
  | .alternates branches =>
      match Token.branches branches with
      | [] => none
      | rs => some (.choice rs)

def Token.branches : List (List Token) → List Pattern.Regex
  | [] => []
  | branch :: rest =>
      match Token.sequence branch with
      | [] => Token.branches rest
      | rs => .ofList rs :: Token.branches rest

def Token.sequence : List Token → List Pattern.Regex
  | [] => []
  | t :: rest =>
      match t.meaning with
      | none => Token.sequence rest
      | some r => r :: Token.sequence rest

end

def regex : List Token → Pattern.Regex
  | [.recursivePrefix] => anything
  | ts => .ofList (Token.sequence ts)

end Glob

/-! ## Globs -/

structure Glob where
  pattern : Pattern

namespace Glob

def compile (glob : String) : Except Fault Glob := do
  return ⟨.ofRegex (.concat (regex (← tokens glob)) (.look .textEnd))⟩

def isMatch (g : Glob) (name : String) : Bool :=
  g.pattern.accepts (name.toUTF8.toList.map byteChar)

end Glob

end SourceContract
