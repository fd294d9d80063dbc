/-!
# Sets of characters

A set is a list of closed ranges of code points in ascending order.  `contains`
reads the list from the left and stops at the first range that lies beyond the
code point, so a question about an ASCII character never walks a long table.

The operations of pattern classes (union, intersection, difference, complement)
are here too.  Each result is in normal form: ascending ranges that neither
touch nor overlap.
-/

namespace SourceContract.Text

structure CharSet where
  ranges : List (Nat × Nat)
deriving DecidableEq, Repr

namespace CharSet

def top : Nat := 0x10FFFF

/-! ## Membership -/

def inRanges (n : Nat) : List (Nat × Nat) → Bool
  | [] => false
  | (lo, hi) :: rest => if n < lo then false else n ≤ hi || inRanges n rest

def contains (s : CharSet) (n : Nat) : Bool := inRanges n s.ranges

def has (s : CharSet) (c : Char) : Bool := s.contains c.toNat

instance : Membership Char CharSet := ⟨fun s c => s.has c = true⟩

theorem mem_iff {s : CharSet} {c : Char} : c ∈ s ↔ s.has c = true := Iff.rfl

instance (s : CharSet) (c : Char) : Decidable (c ∈ s) :=
  inferInstanceAs (Decidable (s.has c = true))

/-! ## Normal form -/

/-- Joins ranges that touch or overlap; the ranges come in the order of their starts. -/
def coalesce : List (Nat × Nat) → List (Nat × Nat)
  | [] => []
  | (lo, hi) :: rest => go lo hi rest
where
  go (lo hi : Nat) : List (Nat × Nat) → List (Nat × Nat)
    | [] => [(lo, hi)]
    | (lo', hi') :: rest =>
        if lo' ≤ hi + 1 then go lo (max hi hi') rest
        else (lo, hi) :: go lo' hi' rest

def ofRanges (ranges : List (Nat × Nat)) : CharSet :=
  ⟨coalesce ((ranges.filter fun r => r.1 ≤ r.2).mergeSort fun a b => a.1 ≤ b.1)⟩

def empty : CharSet := ⟨[]⟩

def all : CharSet := ⟨[(0, top)]⟩

def singleton (c : Char) : CharSet := ⟨[(c.toNat, c.toNat)]⟩

def range (lo hi : Nat) : CharSet := ofRanges [(lo, hi)]

/-! ## Operations -/

def union (a b : CharSet) : CharSet := ofRanges (a.ranges ++ b.ranges)

def gaps (start : Nat) : List (Nat × Nat) → List (Nat × Nat)
  | [] => if start ≤ top then [(start, top)] else []
  | (lo, hi) :: rest =>
      if start < lo then (start, lo - 1) :: gaps (hi + 1) rest
      else gaps (max start (hi + 1)) rest

def compl (s : CharSet) : CharSet := ⟨gaps 0 s.ranges⟩

def inter (a b : CharSet) : CharSet := (a.compl.union b.compl).compl

def diff (a b : CharSet) : CharSet := a.inter b.compl

def symmDiff (a b : CharSet) : CharSet := (a.union b).diff (a.inter b)

def isAscii (s : CharSet) : Bool := s.ranges.all fun r => r.2 < 0x80

/-! ## Tables

A table is text: ranges in hexadecimal, separated by blanks and line breaks, as in
`0041-005A 00AA`. -/

def wordsFrom (word : List Char) : List Char → List (List Char)
  | [] => if word.isEmpty then [] else [word.reverse]
  | c :: rest =>
      if c = ' ' ∨ c = '\n' then
        if word.isEmpty then wordsFrom [] rest else word.reverse :: wordsFrom [] rest
      else wordsFrom (c :: word) rest

def words (table : String) : List (List Char) := wordsFrom [] table.toList

def hexValue? (c : Char) : Option Nat :=
  if '0' ≤ c ∧ c ≤ '9' then some (c.toNat - '0'.toNat)
  else if 'a' ≤ c ∧ c ≤ 'f' then some (c.toNat - 'a'.toNat + 10)
  else if 'A' ≤ c ∧ c ≤ 'F' then some (c.toNat - 'A'.toNat + 10)
  else none

def hexNumber (digits : List Char) : Nat :=
  digits.foldl (fun n c => match hexValue? c with
    | some d => 16 * n + d
    | none => n) 0

/-- Reads `lo-hi`, or one number that is both. -/
def tableRange (entry : List Char) : Nat × Nat :=
  let lo := entry.takeWhile (· != '-')
  match entry.dropWhile (· != '-') with
  | [] => (hexNumber lo, hexNumber lo)
  | _ :: hi => (hexNumber lo, hexNumber hi)

def ofTable (table : String) : CharSet := ⟨(words table).map tableRange⟩

end CharSet

end SourceContract.Text
