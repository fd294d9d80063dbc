import SourceContract.Pattern.Regex

/-!
# How large a pattern becomes

A pattern is matched by automata on bytes, one that reads forward and one that reads
backward, and a pattern for which one of them would be larger than the limit is
refused before anything is built.  The size is counted in bytes of storage: 32 for a
state, 8 for each way out of a state that has several, 4 for each branch of a choice.
-/

namespace SourceContract.Pattern

open Text

def sizeLimit : Nat := 10485760

def stateSize : Nat := 32

def edgeSize : Nat := 8

def branchSize : Nat := 4

/-! ## Sets of characters as byte sequences -/

/-- Closed ranges of bytes, one for each byte of the characters that they stand for. -/
abbrev ByteSequence := List (Nat × Nat)

def encodeNat (n : Nat) : List Nat :=
  if n < 0x80 then [n]
  else if n < 0x800 then [0xC0 + n / 64, 0x80 + n % 64]
  else if n < 0x10000 then [0xE0 + n / 4096, 0x80 + n / 64 % 64, 0x80 + n % 64]
  else [0xF0 + n / 262144, 0x80 + n / 4096 % 64, 0x80 + n / 64 % 64, 0x80 + n % 64]

def surrogates : CharSet := CharSet.range 0xD800 0xDFFF

/-- The last code point of the first part, where a range has to be cut so that its bytes vary
independently of each other. -/
def cut? (lo hi : Nat) : Option Nat :=
  if lo < 0x80 ∧ 0x80 ≤ hi then some 0x7F
  else if lo < 0x800 ∧ 0x800 ≤ hi then some 0x7FF
  else if lo < 0x10000 ∧ 0x10000 ≤ hi then some 0xFFFF
  else if hi < 0x80 then none
  else [64, 4096, 262144].findSome? fun block =>
    if lo / block = hi / block then none
    else if lo % block ≠ 0 then some (lo / block * block + block - 1)
    else if hi % block ≠ block - 1 then some (hi / block * block - 1)
    else none

def byteSequences : Nat → Nat → Nat → List ByteSequence
  | 0, _, _ => []
  | fuel + 1, lo, hi =>
      if hi < lo then []
      else match cut? lo hi with
        | some mid => byteSequences fuel lo mid ++ byteSequences fuel (mid + 1) hi
        | none => [(encodeNat lo).zip (encodeNat hi)]

abbrev Edges := List ((Nat × Nat) × Nat)

def intern (states : List Edges) (edges : Edges) : Nat × List Edges :=
  match states.idxOf? edges with
  | some i => (states.length - i, states)
  | none => (states.length + 1, edges :: states)

/-- Interns the states for sequences of the given length and below; state zero is the end. -/
def internSequences : Nat → List ByteSequence → List Edges → Nat × List Edges
  | 0, _, states => (0, states)
  | depth + 1, sequences, states =>
      let groups := (sequences.filter fun s => !s.isEmpty).splitBy fun a b => a.head? == b.head?
      if groups.isEmpty then (0, states)
      else
        let (edges, states) := groups.foldl (fun (edges, states) group =>
          let (target, states) := internSequences depth (group.map List.tail) states
          match group.head?.bind List.head? with
          | some bytes => (edges ++ [(bytes, target)], states)
          | none => (edges, states)) (([] : Edges), states)
        intern states edges

def stateSum (states : List Edges) : Nat :=
  (states.map fun edges => stateSize + edgeSize * edges.length).foldr (· + ·) 0

/-! ## Sets in both directions -/

inductive Direction where
  | forward
  | backward
deriving DecidableEq, Repr

def sharedLength : ByteSequence → ByteSequence → Nat
  | a :: as, b :: bs => if a = b then sharedLength as bs + 1 else 0
  | _, _ => 0

def backwardStates : ByteSequence → List ByteSequence → Nat
  | _, [] => 0
  | before, s :: rest => s.length - sharedLength before s + backwardStates s rest

/-- Reading forward, equal ends are stored once.  Reading backward, a choice leads to every sequence
and only equal starts are stored once. -/
def sequencesSize (sequences : List ByteSequence) : Direction → Nat
  | .forward => stateSize + stateSum (internSequences 4 sequences []).2
  | .backward =>
      2 * stateSize + branchSize * sequences.length + stateSize * backwardStates [] sequences

def setSize (direction : Direction) (s : CharSet) : Nat :=
  let sequences := (s.diff surrogates).ranges.flatMap fun r => byteSequences 64 r.1 r.2
  match s.ranges with
  | [] => stateSize
  | [(lo, hi)] =>
      if lo = hi then stateSize * (encodeNat lo).length
      else if hi < 0x80 then 2 * stateSize
      else sequencesSize sequences direction
  | ranges =>
      if s.isAscii then 2 * stateSize + edgeSize * ranges.length
      else sequencesSize sequences direction

/-! ## Expressions -/

def forkSize : Nat := stateSize + 2 * branchSize

def repetitionSize (min : Nat) (max : Option Nat) (nullable : Bool) (body : Nat) : Nat :=
  match max with
  | some max => min * body + (max - min) * (body + forkSize) + stateSize
  | none =>
      if min = 0 then body + (if nullable then 2 * forkSize + stateSize else forkSize)
      else min * body + forkSize

def groupSize : Direction → Nat
  | .forward => 2 * stateSize
  | .backward => 0

def Regex.size (direction : Direction) : Regex → Nat
  | .empty => stateSize
  | .set s => setSize direction s
  | .look _ => stateSize
  | .concat a b => a.size direction + b.size direction
  | .alt a b => a.size direction + b.size direction + stateSize + branchSize
  | .repetition min max _ r => repetitionSize min max r.nullable (r.size direction)
  | .group r => r.size direction + groupSize direction

def Regex.isTooLarge (r : Regex) : Bool :=
  sizeLimit < r.size .forward || sizeLimit < r.size .backward

end SourceContract.Pattern
