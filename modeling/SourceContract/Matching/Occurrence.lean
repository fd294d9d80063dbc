/-!
# Occurrences of a token

Plain substring search and the count of occurrences that do not overlap.  The
count takes the leftmost occurrence, goes on behind it, and so on; an empty token
never occurs.
-/

namespace SourceContract.Matching

/-! ## Substrings -/

def occursIn (token : List Char) : List Char → Bool
  | [] => token.isEmpty
  | c :: rest => token.isPrefixOf (c :: rest) || occursIn token rest

def contains (text token : String) : Bool := occursIn token.toList text.toList

/-! ## Counting -/

/-- Occurrences from left to right; the first `skip` characters belong to the occurrence before. -/
def countFrom (token : List Char) : Nat → List Char → Nat
  | _, [] => 0
  | skip + 1, _ :: rest => countFrom token skip rest
  | 0, c :: rest =>
      if token.isPrefixOf (c :: rest) then countFrom token (token.length - 1) rest + 1
      else countFrom token 0 rest

def count (text token : String) : Nat :=
  if token.isEmpty then 0 else countFrom token.toList 0 text.toList

def occurrences (text : String) (tokens : List String) : Nat :=
  (tokens.map (count text)).foldr (· + ·) 0

/-! ## Verdicts on counts -/

def present : Option String → Bool
  | some text => !text.isEmpty
  | none => false

/-- Begin and end tokens balance when they are equally many, and some when use is required. -/
def balanced (begins ends : Nat) (requireUsage : Bool) : Bool :=
  begins == ends && (!requireUsage || begins > 0)

def exceeds (total min : Nat) : Bool := total > min

end SourceContract.Matching
