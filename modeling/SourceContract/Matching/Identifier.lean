import SourceContract.Matching.Occurrence
import SourceContract.Text.CharClass

/-!
# Identifiers and calls

In literal mode an identifier is found wherever its characters stand, so a longer
name that contains it counts.  In word mode it has to stand on word boundaries on
the sides where it begins or ends like a word; an operator such as `+` has no such
side.

A call is the identifier, then white space, then an opening parenthesis.  Literal
mode lets further word characters stand between the identifier and the white
space.

The questions can also be put as patterns.  An identifier of many thousand
characters has none, for patterns are limited in size, and a run that searched by
pattern would break off there.  The answers here have no such limit.
-/

namespace SourceContract.Matching

open Text

inductive MatchMode where
  | literal
  | word
deriving DecidableEq, Repr

/-! ## Word boundaries -/

def isWordAt : Option Char → Bool
  | some c => isWordChar c
  | none => false

def isBoundary (before after : Option Char) : Bool := isWordAt before != isWordAt after

def wantsBoundary (c : Char) : Bool := isAlphanumeric c || c == '_'

/-! ## Places -/

/-- Whether some place in the text satisfies `p`, which sees the character before the place and the
text from it on. -/
def somewhere (p : Option Char → List Char → Bool) : Option Char → List Char → Bool
  | before, [] => p before []
  | before, c :: rest => p before (c :: rest) || somewhere p (some c) rest

def leftFree (ident : List Char) (before : Option Char) : Bool :=
  match ident.head? with
  | some c => !wantsBoundary c || isBoundary before (some c)
  | none => true

def rightFree (ident : List Char) (after : Option Char) : Bool :=
  match ident.getLast? with
  | some c => !wantsBoundary c || isBoundary (some c) after
  | none => true

def wordAt (ident : List Char) (before : Option Char) (rest : List Char) : Bool :=
  ident.isPrefixOf rest && leftFree ident before && rightFree ident (rest.drop ident.length).head?

def opensCall (rest : List Char) : Bool :=
  (rest.dropWhile isSpace).head? == some '('

/-- `ident`, perhaps continued by word characters, called at the place. -/
def callAt (ident : List Char) (_before : Option Char) (rest : List Char) : Bool :=
  ident.isPrefixOf rest && opensCall ((rest.drop ident.length).dropWhile isWordChar)

/-- `ident` itself called at the place, as a word on its left. -/
def wordCallAt (ident : List Char) (before : Option Char) (rest : List Char) : Bool :=
  ident.isPrefixOf rest && leftFree ident before && opensCall (rest.drop ident.length)

/-! ## Questions -/

def containsIdentifier (mode : MatchMode) (text ident : String) : Bool :=
  !ident.isEmpty &&
    match mode with
    | .literal => contains text ident
    | .word => somewhere (wordAt ident.toList) none text.toList

def hasCall (mode : MatchMode) (text ident : String) : Bool :=
  !ident.isEmpty &&
    match mode with
    | .literal => somewhere (callAt ident.toList) none text.toList
    | .word => somewhere (wordCallAt ident.toList) none text.toList

def declaredAndCalled (mode : MatchMode) (declaration implementation ident : String) : Bool :=
  containsIdentifier mode declaration ident && hasCall mode implementation ident

end SourceContract.Matching
