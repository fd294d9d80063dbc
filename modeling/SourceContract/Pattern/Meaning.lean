import SourceContract.Pattern.Reader
import SourceContract.Pattern.Regex
import SourceContract.Text.CaseFold

/-!
# What a pattern tree means

Flags are in force from where they are set to the end of their group.  Faults
that depend on them are found here: a property that does not exist, and whatever
could match a part of a character when Unicode is switched off.
-/

namespace SourceContract.Pattern

open Text

/-! ## Flags in force -/

structure Mode where
  caseInsensitive : Bool := false
  multiLine : Bool := false
  dotMatchesNewLine : Bool := false
  swapGreed : Bool := false
  unicode : Bool := true
  crlf : Bool := false
deriving DecidableEq, Repr

def Mode.set (m : Mode) : Flag × Bool → Mode
  | (.caseInsensitive, on) => { m with caseInsensitive := on }
  | (.multiLine, on) => { m with multiLine := on }
  | (.dotMatchesNewLine, on) => { m with dotMatchesNewLine := on }
  | (.swapGreed, on) => { m with swapGreed := on }
  | (.unicode, on) => { m with unicode := on }
  | (.crlf, on) => { m with crlf := on }
  | (.ignoreWhitespace, _) => m

def Mode.with (m : Mode) (flags : Flags) : Mode := flags.foldl Mode.set m

abbrev Meaning := Except SpanFault

def fault {α : Type} (cause : Cause) (span : Span) : Meaning α := .error ⟨cause, span, none⟩

/-! ## Sets of characters -/

def Mode.fold (m : Mode) (s : CharSet) : CharSet :=
  if !m.caseInsensitive then s else if m.unicode then s.foldCase else s.foldAscii

def Mode.finish (m : Mode) (span : Span) (negated : Bool) (s : CharSet) : Meaning CharSet :=
  let folded := m.fold s
  let result := if negated then folded.compl else folded
  if m.unicode || result.isAscii then .ok result else fault .invalidUtf8 span

def asciiWords : CharSet := CharSet.ofTable "30-39 41-5A 5F 61-7A"

def posixSet : PosixClass → CharSet
  | .alnum => CharSet.ofTable "30-39 41-5A 61-7A"
  | .alpha => CharSet.ofTable "41-5A 61-7A"
  | .ascii => CharSet.ofTable "0-7F"
  | .blank => CharSet.ofTable "9 20"
  | .cntrl => CharSet.ofTable "0-1F 7F"
  | .digit => CharSet.ofTable "30-39"
  | .graph => CharSet.ofTable "21-7E"
  | .lower => CharSet.ofTable "61-7A"
  | .print => CharSet.ofTable "20-7E"
  | .punct => CharSet.ofTable "21-2F 3A-40 5B-60 7B-7E"
  | .space => CharSet.ofTable "9-D 20"
  | .upper => CharSet.ofTable "41-5A"
  | .word => asciiWords
  | .xdigit => CharSet.ofTable "30-39 41-46 61-66"

def shorthandSet (unicode : Bool) : Shorthand → CharSet
  | .digit => if unicode then digits else posixSet .digit
  | .space => if unicode then spaces else posixSet .space
  | .word => if unicode then wordChars else asciiWords

def Mode.shorthand (m : Mode) (span : Span) (kind : Shorthand) (negated : Bool) :
    Meaning CharSet :=
  { m with caseInsensitive := false }.finish span negated (shorthandSet m.unicode kind)

def PropertyQuery.find : PropertyQuery → Except Property.Missing CharSet × Bool
  | .name s => (Property.byName s, false)
  | .value kind wanted equal => (Property.byValue kind wanted, !equal)

def Mode.property (m : Mode) (span : Span) (query : PropertyQuery) (negated : Bool) :
    Meaning CharSet :=
  if !m.unicode then fault .unicodeNotAllowed span
  else
    match query.find with
    | (.ok s, inverted) => m.finish span (negated != inverted) s
    | (.error .property, _) => fault .propertyNotFound span
    | (.error .value, _) => fault .propertyValueNotFound span

def Mode.classLiteral (m : Mode) (l : Literal) : Meaning Nat :=
  if m.unicode || l.char.toNat < 0x80 then .ok l.char.toNat
  else if l.byte then fault .invalidUtf8 l.span
  else fault .unicodeNotAllowed l.span

def applyOp (op : SetOp) (a b : CharSet) : CharSet :=
  match op with
  | .inter => a.inter b
  | .diff => a.diff b
  | .symmDiff => a.symmDiff b

mutual

def ClassSet.meaning (m : Mode) : ClassSet → Meaning CharSet
  | .literal l => do
      let n ← m.classLiteral l
      return CharSet.range n n
  | .range _ lo hi => do
      let a ← m.classLiteral lo
      let b ← m.classLiteral hi
      return CharSet.range a b
  | .posix span kind negated => m.finish span negated (posixSet kind)
  | .shorthand span kind negated => m.shorthand span kind negated
  | .property span query negated => m.property span query negated
  | .bracketed span negated set => do m.finish span negated (← set.meaning m)
  | .union _ items => do return CharSet.ofRanges (← ClassSet.meanings m items)
  | .binary _ op left right => do
      let a ← left.meaning m
      let b ← right.meaning m
      return applyOp op (m.fold a) (m.fold b)

def ClassSet.meanings (m : Mode) : List ClassSet → Meaning (List (Nat × Nat))
  | [] => .ok []
  | item :: rest => do
      let s ← item.meaning m
      return s.ranges ++ (← ClassSet.meanings m rest)

end

/-! ## Parts -/

def Mode.literal (m : Mode) (l : Literal) : Meaning Regex :=
  if !m.unicode && l.byte && 0x80 ≤ l.char.toNat then fault .invalidUtf8 l.span
  else .ok (.set (m.fold (CharSet.singleton l.char)))

def Mode.dot (m : Mode) (span : Span) : Meaning Regex :=
  if !m.unicode then fault .invalidUtf8 span
  else if m.dotMatchesNewLine then .ok (.set CharSet.all)
  else if m.crlf then .ok (.set (CharSet.ofTable "A D").compl)
  else .ok (.set (CharSet.ofTable "A").compl)

def Mode.assertion (m : Mode) : Assertion → Look
  | .lineStart => if m.multiLine then .lineStart m.crlf else .textStart
  | .lineEnd => if m.multiLine then .lineEnd m.crlf else .textEnd
  | .textStart => .textStart
  | .textEnd => .textEnd
  | .wordBoundary => .boundary m.unicode
  | .notWordBoundary => .notBoundary m.unicode
  | .wordStart => .wordStart m.unicode
  | .wordEnd => .wordEnd m.unicode
  | .wordStartHalf => .wordStartHalf m.unicode
  | .wordEndHalf => .wordEndHalf m.unicode

mutual

def Tree.meaning (m : Mode) : Tree → Meaning (Regex × Mode)
  | .flags _ fs => .ok (.empty, m.with fs)
  | .literal l => do return (← m.literal l, m)
  | .dot span => do return (← m.dot span, m)
  | .assertion _ a => .ok (.look (m.assertion a), m)
  | .shorthand span kind negated => do return (.set (← m.shorthand span kind negated), m)
  | .property span query negated => do return (.set (← m.property span query negated), m)
  | .bracketed span negated set => do
      return (.set (← m.finish span negated (← set.meaning m)), m)
  | .repetition _ min max greedy tree => do
      let (r, after) ← tree.meaning m
      return (Regex.repeated min max (greedy != m.swapGreed) r, after)
  | .group _ fs captures tree => do
      let (r, _) ← tree.meaning (m.with fs)
      return (if captures then .group r else r, m)
  | .alternation _ trees => do
      let (rs, after) ← Tree.meanings m trees
      return (Regex.choice rs, after)
  | .concat _ trees => do
      let (rs, after) ← Tree.meanings m trees
      return (Regex.ofList rs, after)

/-- The meanings of parts that follow each other; each sees the flags that those before it set. -/
def Tree.meanings (m : Mode) : List Tree → Meaning (List Regex × Mode)
  | [] => .ok ([], m)
  | tree :: rest => do
      let (r, between) ← tree.meaning m
      let (rs, after) ← Tree.meanings between rest
      return (r :: rs, after)

end

def Regex.ofText (pattern : String) : Except SpanFault Regex := do
  let tree ← Tree.ofText pattern
  match tree.checkDepth nestLimit with
  | .error span => fault (.nestLimitExceeded nestLimit) span
  | .ok () => return (← tree.meaning {}).1

end SourceContract.Pattern
