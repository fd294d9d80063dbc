import SourceContract.Yaml.Fault

/-!
# Reading a YAML text character by character

A cursor is the rest of the text with its mark.  Five characters break lines; a
carriage return with a line feed is one break.  All breaks but the two separators
of Unicode read as a line feed.
-/

namespace SourceContract.Yaml

/-! ## Kinds of characters -/

def isBlank (c : Char) : Bool := c == ' ' || c == '\t'

def lineSeparator : Char := Char.ofNat 0x2028

def paragraphSeparator : Char := Char.ofNat 0x2029

def nextLineControl : Char := Char.ofNat 0x85

def byteOrderMark : Char := Char.ofNat 0xFEFF

def isBreak (c : Char) : Bool :=
  c == '\n' || c == '\r' || c == nextLineControl || c == lineSeparator || c == paragraphSeparator

def isNameChar (c : Char) : Bool := c.isAlphanum || c == '_' || c == '-'

def endsLine : Option Char → Bool
  | none => true
  | some c => isBreak c

def endsWord : Option Char → Bool
  | none => true
  | some c => isBlank c || isBreak c

/-! ## Characters a text may hold -/

def isAllowed (c : Char) : Bool :=
  let n := c.toNat
  n == 0x9 || n == 0xA || n == 0xD || (0x20 ≤ n && n ≤ 0x7E) || n == 0x85
    || (0xA0 ≤ n && n ≤ 0xD7FF) || (0xE000 ≤ n && n ≤ 0xFFFD) || 0x10000 ≤ n

def disallowedOffset? : Nat → List Char → Option Nat
  | _, [] => none
  | offset, c :: rest =>
      if isAllowed c then disallowedOffset? (offset + c.utf8Size) rest else some offset

/-! ## Cursors -/

structure Cursor where
  rest : List Char
  mark : Mark
  /-- More than the rest has characters. -/
  bound : Nat

def Cursor.start (text : String) : Cursor := ⟨text.toList, Mark.start, text.length + 1⟩

def Cursor.dropWhile (p : Char → Bool) : List Char → Mark → List Char × Mark
  | [], mark => ([], mark)
  | c :: rest, mark => if p c then dropWhile p rest mark.next else (c :: rest, mark)

abbrev Reader := StateT Cursor (Except SyntaxFault)

namespace Reader

def mark : Reader Mark := return (← get).mark

def column : Reader Nat := return (← get).mark.column

def fail {α : Type} (problem : Problem) (activity : Activity) (began : Mark) : Reader α := do
  throw ⟨problem, ← mark, some (activity, began)⟩

def peekAt (n : Nat) : Reader (Option Char) := return (← get).rest[n]?

def peek : Reader (Option Char) := return (← get).rest.head?

def atEnd : Reader Bool := return (← get).rest.isEmpty

def skip : Reader Unit :=
  modify fun c =>
    match c.rest with
    | [] => c
    | _ :: rest => { c with rest := rest, mark := c.mark.next }

def skipWhile (p : Char → Bool) : Reader Unit :=
  modify fun c =>
    let (rest, mark) := Cursor.dropWhile p c.rest c.mark
    { c with rest := rest, mark := mark }

def takeWhile (p : Char → Bool) : Reader (List Char) := do
  let taken := (← get).rest.takeWhile p
  skipWhile p
  return taken

/-- Moves behind a line break and gives what it reads as; gives nothing if none is there. -/
def takeBreak : Reader (Option Char) := do
  let c ← get
  match c.rest with
  | '\r' :: '\n' :: rest =>
      set { c with rest := rest, mark := c.mark.nextLine 2 }
      return some '\n'
  | a :: rest =>
      if isBreak a then
        set { c with rest := rest, mark := c.mark.nextLine 1 }
        return some (if a == lineSeparator || a == paragraphSeparator then a else '\n')
      else return none
  | [] => return none

def skipComment : Reader Unit := do
  if (← peek) == some '#' then skipWhile fun c => !isBreak c

def atDocumentMark (c : Char) : Reader Bool := do
  let cursor ← get
  return cursor.mark.column == 0 && cursor.rest.take 3 == [c, c, c] && endsWord cursor.rest[3]?

def atDocumentBoundary : Reader Bool := return (← atDocumentMark '-') || (← atDocumentMark '.')

/-- A bound for readers that move on with each step. -/
def steps : Reader Nat := return (← get).bound

end Reader

end SourceContract.Yaml
