import SourceContract.Pattern.Tree
import SourceContract.Text.CharClass

/-!
# Reading a pattern character by character

A cursor is the rest of the pattern with the place it stands at.  A reader moves
the cursor or fails with a fault that has a span.
-/

namespace SourceContract.Pattern

open Text

structure Cursor where
  rest : List Char
  place : Place
  /-- White space and comments between the parts are passed over. -/
  extended : Bool
  /-- Names of groups so far, with the spans they stand at. -/
  names : List (String × Span)

def Cursor.start (pattern : String) : Cursor := ⟨pattern.toList, Place.first, false, []⟩

abbrev Reader := StateT Cursor (Except SpanFault)

namespace Reader

/-! ## Faults and places -/

def fail {α : Type} (cause : Cause) (span : Span) : Reader α :=
  throw ⟨cause, span, none⟩

def failAgain {α : Type} (cause : Cause) (span earlier : Span) : Reader α :=
  throw ⟨cause, span, some earlier⟩

def place : Reader Place := return (← get).place

def spanHere : Reader Span := return ⟨(← get).place, (← get).place⟩

def spanChar : Reader Span := do
  let c ← get
  return ⟨c.place, match c.rest with
    | [] => c.place
    | a :: _ => c.place.after a⟩

def spanFrom (start : Place) : Reader Span := return ⟨start, (← get).place⟩

/-! ## Characters -/

def peek : Reader (Option Char) := return (← get).rest.head?

def peekSecond : Reader (Option Char) := return (← get).rest[1]?

def atEnd : Reader Bool := return (← get).rest.isEmpty

def bump : Reader Bool := do
  let c ← get
  match c.rest with
  | [] => return false
  | a :: rest =>
      set { c with rest := rest, place := c.place.after a }
      return !rest.isEmpty

def dropChars (p : Char → Bool) : List Char → Place → List Char × Place
  | [], place => ([], place)
  | a :: rest, place => if p a then dropChars p rest (place.after a) else (a :: rest, place)

def dropBlanks : Bool → List Char → Place → List Char × Place
  | _, [], place => ([], place)
  | inComment, a :: rest, place =>
      if inComment then dropBlanks (a != '\n') rest (place.after a)
      else if isSpace a then dropBlanks false rest (place.after a)
      else if a == '#' then dropBlanks true rest (place.after a)
      else (a :: rest, place)

def skipBlanks : Reader Unit :=
  modify fun c =>
    if c.extended then
      let (rest, place) := dropBlanks false c.rest c.place
      { c with rest := rest, place := place }
    else c

def bumpBlanks : Reader Bool := do
  let _ ← bump
  skipBlanks
  return !(← atEnd)

def peekBlanks : Reader (Option Char) := do
  let c ← get
  let after := c.rest.drop 1
  return (if c.extended then (dropBlanks false after c.place).1 else after).head?

def bumpIf (text : String) : Reader Bool := do
  let c ← get
  let chars := text.toList
  if chars.isPrefixOf c.rest then
    set { c with rest := c.rest.drop chars.length, place := chars.foldl Place.after c.place }
    return true
  else return false

/-- The characters up to the first that fails `p`, at most `fuel` many.  Blanks after each one are
passed over where the pattern is extended. -/
def takeChars (p : Char → Bool) : Nat → Reader (List Char)
  | 0 => return []
  | fuel + 1 => do
      match ← peek with
      | none => return []
      | some a =>
          if p a then
            let _ ← bumpBlanks
            return a :: (← takeChars p fuel)
          else return []

def steps : Reader Nat := return (← get).rest.length + 1

end Reader

end SourceContract.Pattern
