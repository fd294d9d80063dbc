/-!
# Globs

A glob is a pattern for file names: `?` stands for anything of length one, `*` for
anything at all, brackets for a choice of characters, braces for a choice of globs.
A backslash takes the special meaning from the character behind it.

Two stars are special only where they stand alone between separators; elsewhere
they mean the same as one.
-/

namespace SourceContract.Glob

inductive Token where
  | literal (c : Char)
  | any
  | zeroOrMore
  | recursivePrefix
  | recursiveSuffix
  | recursiveZeroOrMore
  | oneOf (negated : Bool) (ranges : List (Char × Char))
  | alternates (branches : List (List Token))
deriving Repr

/-! ## Faults -/

inductive Fault where
  | unclosedClass
  | invalidRange (lo hi : Char)
  | unclosedAlternates
  | unopenedAlternates
  | danglingEscape
deriving DecidableEq, Repr

def Fault.text : Fault → String
  | .unclosedClass => "unclosed character class; missing ']'"
  | .invalidRange lo hi => "invalid range; '" ++ lo.toString ++ "' > '" ++ hi.toString ++ "'"
  | .unclosedAlternates =>
      "unclosed alternate group; missing '\x7d' (maybe escape '\x7b' with '[\x7b]'?)"
  | .unopenedAlternates =>
      "unopened alternate group; missing '\x7b' (maybe escape '\x7d' with '[\x7d]'?)"
  | .danglingEscape => "dangling '\\'"

def Fault.message (glob : String) (f : Fault) : String :=
  "error parsing glob '" ++ glob ++ "': " ++ f.text

/-! ## Character choices -/

def extendLast (c : Char) : List (Char × Char) → Except Fault (List (Char × Char))
  | [] => .ok []
  | (lo, _) :: rest => if c < lo then .error (.invalidRange lo c) else .ok ((lo, c) :: rest)

/-- Reads what stands between brackets; gives the ranges, the latest one first, and the rest.  The
first character is always literal; `open` means that a hyphen waits for the end of its range. -/
def readRanges (first inRange : Bool) (ranges : List (Char × Char)) :
    List Char → Except Fault (List (Char × Char) × List Char)
  | [] => .error .unclosedClass
  | c :: rest =>
      if c = ']' ∧ !first then .ok (if inRange then ('-', '-') :: ranges else ranges, rest)
      else if c = '-' ∧ !first ∧ !inRange then readRanges false true ranges rest
      else if inRange then do
        let extended ← extendLast c ranges
        readRanges false false extended rest
      else readRanges false false ((c, c) :: ranges) rest

def readChoice (chars : List Char) : Except Fault (Token × List Char) := do
  let negated := chars.head? == some '!' || chars.head? == some '^'
  let (ranges, rest) ← readRanges true false [] (if negated then chars.tail else chars)
  return (.oneOf negated ranges.reverse, rest)

/-! ## Open braces -/

/-- A glob that is partly read.  `branch` is the branch being read, the latest token first, `done`
the branches before it in the same braces, and `outer` what was read outside of them. -/
structure Partial where
  branch : List Token
  done : List (List Token)
  outer : List (List Token × List (List Token))

namespace Partial

def start : Partial := ⟨[], [], []⟩

def inBraces (p : Partial) : Bool := !p.outer.isEmpty

def push (p : Partial) (t : Token) : Partial := { p with branch := t :: p.branch }

def openBrace (p : Partial) : Partial := ⟨[], [], (p.branch, p.done) :: p.outer⟩

def comma (p : Partial) : Partial :=
  if p.inBraces then { p with branch := [], done := p.branch.reverse :: p.done }
  else p.push (.literal ',')

def closeBrace (p : Partial) : Except Fault Partial :=
  match p.outer with
  | [] => .error .unopenedAlternates
  | (branch, done) :: outer =>
      let branches := (p.branch.reverse :: p.done).reverse
      .ok ⟨.alternates branches :: branch, done, outer⟩

def twoStars (p : Partial) : Partial := (p.push .zeroOrMore).push .zeroOrMore

def recursive (p : Partial) (t : Token) : Partial :=
  match p.branch with
  | .recursivePrefix :: _ => p
  | .recursiveSuffix :: _ => p
  | _ :: rest => { p with branch := t :: rest }
  | [] => p.push t

def doubleStar (p : Partial) (before next : Option Char) : Partial × Bool :=
  let afterSeparator := before == some '/'
  if p.branch.isEmpty then
    if next.isNone || next == some '/' then (p.push .recursivePrefix, next.isSome)
    else (p.twoStars, false)
  else if !afterSeparator && !(p.inBraces && (before == some ',' || before == some '\x7b')) then
    (p.twoStars, false)
  else if next.isNone || p.inBraces && (next == some ',' || next == some '\x7d') then
    (p.recursive .recursiveSuffix, false)
  else if next == some '/' then (p.recursive .recursiveZeroOrMore, true)
  else (p.twoStars, false)

end Partial

/-! ## Reading -/

/-- Reads the characters behind `before`.  Every step takes at least one of them, so their number is
enough fuel. -/
def readTokens : Nat → Option Char → Partial → List Char → Except Fault Partial
  | _, _, p, [] => .ok p
  | 0, _, p, _ => .ok p
  | fuel + 1, before, p, c :: rest =>
      match c with
      | '?' => readTokens fuel (some c) (p.push .any) rest
      | '*' =>
          match rest with
          | '*' :: rest =>
              let (p, separator) := p.doubleStar before rest.head?
              if separator then readTokens fuel (some '/') p rest.tail
              else readTokens fuel (some '*') p rest
          | _ => readTokens fuel (some c) (p.push .zeroOrMore) rest
      | '[' => do
          let (choice, rest) ← readChoice rest
          readTokens fuel (some ']') (p.push choice) rest
      | '\x7b' => readTokens fuel (some c) p.openBrace rest
      | '\x7d' => do
          let p ← p.closeBrace
          readTokens fuel (some c) p rest
      | ',' => readTokens fuel (some c) p.comma rest
      | '\\' =>
          match rest with
          | [] => .error .danglingEscape
          | escaped :: rest => readTokens fuel (some escaped) (p.push (.literal escaped)) rest
      | c => readTokens fuel (some c) (p.push (.literal c)) rest

def tokens (glob : String) : Except Fault (List Token) := do
  let p ← readTokens glob.length none .start glob.toList
  if p.inBraces then .error .unclosedAlternates else return p.branch.reverse

end SourceContract.Glob
