import SourceContract.Pattern.Fault

/-!
# Pattern trees

The structure of a pattern as it is written.  Parts keep their spans, for their
meaning can still turn out to be at fault, which depends on the flags in force, and
they may be nested too deeply.
-/

namespace SourceContract.Pattern

/-! ## Leaves -/

/-- A character; `byte` when it is written as two hexadecimal digits. -/
structure Literal where
  span : Span
  char : Char
  byte : Bool
deriving DecidableEq, Repr

inductive Assertion where
  | lineStart
  | lineEnd
  | textStart
  | textEnd
  | wordBoundary
  | notWordBoundary
  | wordStart
  | wordEnd
  | wordStartHalf
  | wordEndHalf
deriving DecidableEq, Repr

inductive Shorthand where
  | digit
  | space
  | word
deriving DecidableEq, Repr

inductive PosixClass where
  | alnum | alpha | ascii | blank | cntrl | digit | graph
  | lower | print | punct | space | upper | word | xdigit
deriving DecidableEq, Repr

inductive PropertyQuery where
  | name (s : String)
  | value (property value : String) (equal : Bool)
deriving DecidableEq, Repr

inductive SetOp where
  | inter
  | diff
  | symmDiff
deriving DecidableEq, Repr

inductive Flag where
  | caseInsensitive
  | multiLine
  | dotMatchesNewLine
  | swapGreed
  | unicode
  | crlf
  | ignoreWhitespace
deriving DecidableEq, Repr

abbrev Flags := List (Flag × Bool)

/-! ## Classes and trees -/

inductive ClassSet where
  | literal (l : Literal)
  | range (span : Span) (lo hi : Literal)
  | posix (span : Span) (kind : PosixClass) (negated : Bool)
  | shorthand (span : Span) (kind : Shorthand) (negated : Bool)
  | property (span : Span) (query : PropertyQuery) (negated : Bool)
  | bracketed (span : Span) (negated : Bool) (set : ClassSet)
  | union (span : Span) (items : List ClassSet)
  | binary (span : Span) (op : SetOp) (left right : ClassSet)
deriving Repr

def ClassSet.span : ClassSet → Span
  | .literal l => l.span
  | .range span .. | .posix span .. | .shorthand span .. | .property span .. | .bracketed span ..
  | .union span .. | .binary span .. => span

inductive Tree where
  | flags (span : Span) (flags : Flags)
  | literal (l : Literal)
  | dot (span : Span)
  | assertion (span : Span) (a : Assertion)
  | shorthand (span : Span) (kind : Shorthand) (negated : Bool)
  | property (span : Span) (query : PropertyQuery) (negated : Bool)
  | bracketed (span : Span) (negated : Bool) (set : ClassSet)
  | repetition (span : Span) (min : Nat) (max : Option Nat) (greedy : Bool) (tree : Tree)
  | group (span : Span) (flags : Flags) (captures : Bool) (tree : Tree)
  | alternation (span : Span) (trees : List Tree)
  | concat (span : Span) (trees : List Tree)
deriving Repr

def Tree.span : Tree → Span
  | .literal l => l.span
  | .flags span .. | .dot span | .assertion span .. | .shorthand span .. | .property span ..
  | .bracketed span .. | .repetition span .. | .group span .. | .alternation span ..
  | .concat span .. => span

def Tree.isRepeatable : Tree → Bool
  | .flags .. => false
  | _ => true

/-! ## Depth

Parts with parts of their own are nested, at most 250 deep.  A sequence, a choice or a
union of one part is that part. -/

def nestLimit : Nat := 250

/-- How much deeper than a part the parts in it may go, or the span of the part that goes too
deep. -/
def within (span : Span) : Nat → Except Span Nat
  | 0 => .error span
  | room + 1 => .ok room

mutual

def ClassSet.checkDepth (room : Nat) : ClassSet → Except Span Unit
  | .bracketed span _ set => do set.checkDepth (← within span room)
  | .union span items => do
      ClassSet.checkDepths (← if items.length < 2 then .ok room else within span room) items
  | .binary span _ left right => do
      let room ← within span room
      left.checkDepth room
      right.checkDepth room
  | _ => .ok ()

def ClassSet.checkDepths (room : Nat) : List ClassSet → Except Span Unit
  | [] => .ok ()
  | item :: rest => do
      item.checkDepth room
      ClassSet.checkDepths room rest

end

mutual

def Tree.checkDepth (room : Nat) : Tree → Except Span Unit
  | .bracketed span _ set => do set.checkDepth (← within span room)
  | .repetition span _ _ _ tree => do tree.checkDepth (← within span room)
  | .group span _ _ tree => do tree.checkDepth (← within span room)
  | .alternation span trees => do
      Tree.checkDepths (← if trees.length < 2 then .ok room else within span room) trees
  | .concat span trees => do
      Tree.checkDepths (← if trees.length < 2 then .ok room else within span room) trees
  | _ => .ok ()

def Tree.checkDepths (room : Nat) : List Tree → Except Span Unit
  | [] => .ok ()
  | tree :: rest => do
      tree.checkDepth room
      Tree.checkDepths room rest

end

end SourceContract.Pattern
