import SourceContract.Pattern.Cursor
import SourceContract.Text.Property

/-!
# From text to pattern trees

The grammar is read from left to right, so the first fault of the text is the one
reported.  `Tree.ofText` is the entry.
-/

namespace SourceContract.Pattern

open Text Reader

/-! ## Escapes -/

def isMeta (c : Char) : Bool := "\\.+*?()|[]\x7b\x7d^$#&-~".toList.contains c

/-- Characters that may be escaped without need: ASCII punctuation, blanks and controls. -/
def isEscapable (c : Char) : Bool :=
  c.toNat < 0x80 && !c.isAlphanum && c != '<' && c != '>'

def isHexDigit (c : Char) : Bool := (CharSet.hexValue? c).isSome

def scalar? (n : Nat) : Option Char :=
  if h : n.isValidChar then some (Char.ofNatAux n h) else none

def hexDigits : Nat → Reader (List Char)
  | 0 => return []
  | n + 1 => do
      match ← peek with
      | none => fail .escapeUnexpectedEnd (← spanHere)
      | some c =>
          if !isHexDigit c then fail .hexInvalidDigit (← spanChar)
          let _ ← bumpBlanks
          return c :: (← hexDigits n)

def bracedDigits (opening : Place) : Nat → Reader (List Char)
  | 0 => return []
  | fuel + 1 => do
      match ← peek with
      | none => fail .escapeUnexpectedEnd (← spanFrom opening)
      | some c =>
          if c == '\x7d' then return []
          if !isHexDigit c then fail .hexInvalidDigit (← spanChar)
          let _ ← bumpBlanks
          return c :: (← bracedDigits opening fuel)

def hexLiteral (start : Place) (digits : Nat) : Reader Literal := do
  if !(← bumpBlanks) then fail .escapeUnexpectedEnd (← spanHere)
  if (← peek) == some '\x7b' then
    let opening ← place
    let inner := (← spanChar).stop
    let _ ← bumpBlanks
    let cs ← bracedDigits opening (← steps)
    let inner : Span := ⟨inner, ← place⟩
    let _ ← bumpBlanks
    if cs.isEmpty then fail .hexEmpty (← spanFrom opening)
    match scalar? (CharSet.hexNumber cs) with
    | none => fail .hexInvalid inner
    | some c => return ⟨← spanFrom start, c, false⟩
  else
    let first ← place
    let cs ← hexDigits digits
    match scalar? (CharSet.hexNumber cs) with
    | none => fail .hexInvalid (← spanFrom first)
    | some c => return ⟨← spanFrom start, c, digits == 2⟩

def splitAt? (mark text : List Char) : Option (List Char × List Char) :=
  if mark.isPrefixOf text then some ([], text.drop mark.length)
  else
    match text with
    | [] => none
    | c :: rest => (splitAt? mark rest).map fun (a, b) => (c :: a, b)

def PropertyQuery.ofText (text : List Char) : PropertyQuery :=
  match splitAt? ['!', '='] text with
  | some (a, b) => .value (String.ofList a) (String.ofList b) false
  | none =>
      match (splitAt? [':'] text).or (splitAt? ['='] text) with
      | some (a, b) => .value (String.ofList a) (String.ofList b) true
      | none => .name (String.ofList text)

def property (start : Place) (negated : Bool) : Reader Tree := do
  if !(← bumpBlanks) then fail .escapeUnexpectedEnd (← spanHere)
  let query ← match ← peek with
    | some '\x7b' => do
        let _ ← bumpBlanks
        let text ← takeChars (· != '\x7d') (← steps)
        if ← atEnd then fail .escapeUnexpectedEnd (← spanHere)
        let _ ← bump
        pure (PropertyQuery.ofText text)
    | some '\\' => fail .propertyInvalid (← spanChar)
    | some c => do
        let _ ← bumpBlanks
        pure (.name c.toString)
    | none => fail .escapeUnexpectedEnd (← spanHere)
  return .property (← spanFrom start) query negated

def isBoundaryNameChar (c : Char) : Bool := c.isAlpha || c == '-'

/-- A word boundary of a special kind in braces.  Braces that hold something else are left where
they are: they count repetitions. -/
def specialBoundary? (start : Place) : Reader (Option Assertion) := do
  if (← peek) != some '\x7b' then return none
  let before ← get
  let opening ← place
  if !(← bumpBlanks) then fail .boundaryUnexpectedEnd (← spanFrom start)
  let inner ← place
  match ← peek with
  | some c =>
      if !isBoundaryNameChar c then
        set before
        return none
  | none => pure ()
  let name ← takeChars isBoundaryNameChar (← steps)
  if (← peek) != some '\x7d' then fail .boundaryUnclosed (← spanFrom opening)
  let inner : Span := ⟨inner, ← place⟩
  let _ ← bump
  match String.ofList name with
  | "start" => return some .wordStart
  | "end" => return some .wordEnd
  | "start-half" => return some .wordStartHalf
  | "end-half" => return some .wordEndHalf
  | _ => fail .boundaryUnrecognized inner

def shortEscape (start : Place) (c : Char) : Reader Tree := do
  let _ ← bump
  let span ← spanFrom start
  let literal := fun a => pure (Tree.literal ⟨span, a, false⟩)
  let assertion := fun a => pure (Tree.assertion span a)
  if isMeta c || isEscapable c then literal c
  else
    match c with
    | 'a' => literal '\x07'
    | 'f' => literal '\x0c'
    | 't' => literal '\t'
    | 'n' => literal '\n'
    | 'r' => literal '\r'
    | 'v' => literal '\x0b'
    | 'A' => assertion .textStart
    | 'z' => assertion .textEnd
    | 'B' => assertion .notWordBoundary
    | '<' => assertion .wordStart
    | '>' => assertion .wordEnd
    | 'b' => do
        match ← specialBoundary? start with
        | some a => return .assertion (← spanFrom start) a
        | none => assertion .wordBoundary
    | _ => fail .escapeUnrecognized span

def escape : Reader Tree := do
  let start ← place
  if !(← bump) then fail .escapeUnexpectedEnd (← spanFrom start)
  let class_ := fun kind negated => do
    let _ ← bump
    pure (Tree.shorthand (← spanFrom start) kind negated)
  let byCode := fun digits => do
    pure (Tree.literal (← hexLiteral start digits))
  match ← peek with
  | none => fail .escapeUnexpectedEnd (← spanFrom start)
  | some c =>
      if c.isDigit then fail .backreference ⟨start, (← spanChar).stop⟩
      match c with
      | 'x' => byCode 2
      | 'u' => byCode 4
      | 'U' => byCode 8
      | 'p' => property start false
      | 'P' => property start true
      | 'd' => class_ .digit false
      | 's' => class_ .space false
      | 'w' => class_ .word false
      | 'D' => class_ .digit true
      | 'S' => class_ .space true
      | 'W' => class_ .word true
      | _ => shortEscape start c

/-! ## Bracketed classes -/

def posixClasses : List (String × PosixClass) := [
  ("alnum", .alnum), ("alpha", .alpha), ("ascii", .ascii), ("blank", .blank), ("cntrl", .cntrl),
  ("digit", .digit), ("graph", .graph), ("lower", .lower), ("print", .print), ("punct", .punct),
  ("space", .space), ("upper", .upper), ("word", .word), ("xdigit", .xdigit)]

/-- A named ASCII class such as `[:alpha:]`.  What only begins like one is left to be read as a
class of its own. -/
def posix? : Reader (Option ClassSet) := do
  let before ← get
  let start ← place
  let negated ← do
    if ← bumpIf "[:^" then pure true
    else
      let _ ← bumpIf "[:"
      pure false
  if (← place) == start then return none
  let c ← get
  let (rest, after) := dropChars (· != ':') c.rest c.place
  let name := String.ofList (c.rest.take (c.rest.length - rest.length))
  set { c with rest := rest, place := after }
  if ← bumpIf ":]" then
    match posixClasses.find? fun k => k.1 == name with
    | some (_, kind) => return some (.posix (← spanFrom start) kind negated)
    | none =>
        set before
        return none
  else
    set before
    return none

def classPrimitive : Reader Tree := do
  match ← peek with
  | some '\\' => escape
  | some c => do
      let span ← spanChar
      let _ ← bump
      return .literal ⟨span, c, false⟩
  | none => fail .classUnclosed (← spanHere)

def asClassItem : Tree → Reader ClassSet
  | .literal l => return .literal l
  | .shorthand span kind negated => return .shorthand span kind negated
  | .property span query negated => return .property span query negated
  | tree => fail .classEscapeInvalid tree.span

def asBoundary : Tree → Reader Literal
  | .literal l => return l
  | tree => fail .classRangeLiteral tree.span

/-- One item or a range.  A hyphen before the closing bracket or before another hyphen makes no
range. -/
def classRange (opening : Span) : Reader ClassSet := do
  let first ← classPrimitive
  skipBlanks
  if ← atEnd then fail .classUnclosed opening
  let next ← peekBlanks
  if (← peek) != some '-' || next == some ']' || next == some '-' then asClassItem first
  else
    if !(← bumpBlanks) then fail .classUnclosed opening
    let second ← classPrimitive
    let span : Span := ⟨first.span.start, second.span.stop⟩
    let lo ← asBoundary first
    let hi ← asBoundary second
    if hi.char < lo.char then fail .classRangeInvalid span
    return .range span lo hi

def leadingHyphens (start : Place) : Nat → Reader (List ClassSet)
  | 0 => return []
  | fuel + 1 => do
      if (← peek) == some '-' then
        let item := ClassSet.literal ⟨← spanChar, '-', false⟩
        if !(← bumpBlanks) then fail .classUnclosed ⟨start, start⟩
        return item :: (← leadingHyphens start fuel)
      else return []

def classOpening : Reader (Span × Bool × List ClassSet) := do
  let start ← place
  if !(← bumpBlanks) then fail .classUnclosed (← spanFrom start)
  let negated := (← peek) == some '^'
  if negated then
    if !(← bumpBlanks) then fail .classUnclosed (← spanFrom start)
  let hyphens ← leadingHyphens start (← steps)
  if hyphens.isEmpty && (← peek) == some ']' then
    let item := ClassSet.literal ⟨← spanChar, ']', false⟩
    if !(← bumpBlanks) then fail .classUnclosed (← spanFrom start)
    return (← spanFrom start, negated, [item])
  else return (← spanFrom start, negated, hyphens)

/-- A part of a class that is being read: the left operand that waits for what follows an operator,
the place behind the operator, and the items since then, the last one first. -/
structure OpenClass where
  pending : Option (SetOp × ClassSet)
  start : Place
  items : List ClassSet

def OpenClass.add (o : OpenClass) (item : ClassSet) : OpenClass :=
  { o with items := item :: o.items }

def OpenClass.close (o : OpenClass) : ClassSet :=
  let span : Span := match o.items.getLast?, o.items.head? with
    | some first, some last => ⟨first.span.start, last.span.stop⟩
    | _, _ => ⟨o.start, o.start⟩
  let right := ClassSet.union span o.items.reverse
  match o.pending with
  | none => right
  | some (op, left) => .binary ⟨left.span.start, right.span.stop⟩ op left right

def OpenClass.operator (o : OpenClass) (text : String) (op : SetOp) : Reader OpenClass := do
  let _ ← bumpIf text
  return ⟨some (op, o.close), ← place, []⟩

mutual

def classBody (opening : Span) : Nat → OpenClass → Reader ClassSet
  | 0, _ => fail .classUnclosed opening
  | fuel + 1, o => do
      skipBlanks
      match ← peek, ← peekSecond with
      | none, _ => fail .classUnclosed opening
      | some '[', _ =>
          match ← posix? with
          | some item => classBody opening fuel (o.add item)
          | none => classBody opening fuel (o.add (← bracketedClass fuel))
      | some ']', _ =>
          let _ ← bump
          return o.close
      | some '&', some '&' => classBody opening fuel (← o.operator "&&" .inter)
      | some '-', some '-' => classBody opening fuel (← o.operator "--" .diff)
      | some '~', some '~' => classBody opening fuel (← o.operator "~~" .symmDiff)
      | _, _ => classBody opening fuel (o.add (← classRange opening))

def bracketedClass : Nat → Reader ClassSet
  | 0 => do fail .classUnclosed (← spanHere)
  | fuel + 1 => do
      let start ← place
      let (opening, negated, items) ← classOpening
      let set ← classBody opening fuel ⟨none, opening.stop, items.reverse⟩
      return .bracketed (← spanFrom start) negated set

end

/-! ## Groups and flags -/

def flag? : Char → Option Flag
  | 'i' => some .caseInsensitive
  | 'm' => some .multiLine
  | 's' => some .dotMatchesNewLine
  | 'U' => some .swapGreed
  | 'u' => some .unicode
  | 'R' => some .crlf
  | 'x' => some .ignoreWhitespace
  | _ => none

/-- Flags met so far, the last one first: `none` is the hyphen that turns the rest off. -/
abbrev FlagItems := List (Option Flag × Span)

def flagItems : Nat → FlagItems → Reader FlagItems
  | 0, items => return items
  | fuel + 1, items => do
      match ← peek with
      | none => fail .flagUnexpectedEnd (← spanHere)
      | some ':' => return items
      | some ')' => return items
      | some c =>
          let span ← spanChar
          let item : Option Flag ← do
            if c == '-' then pure none
            else match flag? c with
              | some f => pure (some f)
              | none => fail .flagUnrecognized span
          match items.find? fun i => i.1 == item with
          | some (_, earlier) =>
              failAgain (if item.isNone then .flagRepeatedNegation else .flagDuplicate) span earlier
          | none => pure ()
          if !(← bump) then fail .flagUnexpectedEnd (← spanHere)
          flagItems fuel ((item, span) :: items)

def flagValues : Bool → FlagItems → Flags
  | _, [] => []
  | _, (none, _) :: rest => flagValues false rest
  | on, (some f, _) :: rest => (f, on) :: flagValues on rest

def groupFlags : Reader Flags := do
  let items ← flagItems (← steps) []
  match items with
  | (none, span) :: _ => fail .flagDanglingNegation span
  | _ => return flagValues true items.reverse

def alphabetics : CharSet := Property.alphabetic.set

def isNameStart (c : Char) : Bool := c == '_' || alphabetics.has c

def isNameChar (c : Char) : Bool :=
  c == '_' || c == '.' || c == '[' || c == ']' || isAlphanumeric c

def nameChars : Nat → Bool → Reader (List Char)
  | 0, _ => return []
  | fuel + 1, first => do
      match ← peek with
      | none => return []
      | some '>' => return []
      | some c =>
          if !(if first then isNameStart c else isNameChar c) then
            fail .groupNameInvalid (← spanChar)
          let _ ← bump
          return c :: (← nameChars fuel false)

def groupName : Reader Unit := do
  if ← atEnd then fail .groupNameUnclosed (← spanHere)
  let start ← place
  let name := String.ofList (← nameChars (← steps) true)
  let span ← spanFrom start
  if ← atEnd then fail .groupNameUnclosed (← spanHere)
  let _ ← bump
  if name.isEmpty then fail .groupNameEmpty ⟨start, start⟩
  let c ← get
  match c.names.find? fun n => n.1 == name with
  | some (_, earlier) => failAgain .groupNameDuplicate span earlier
  | none => set { c with names := (name, span) :: c.names }

def lookAround : Reader Bool := do
  if ← bumpIf "?=" then return true
  if ← bumpIf "?!" then return true
  if ← bumpIf "?<=" then return true
  bumpIf "?<!"

inductive Opening where
  | flags (flags : Flags)
  | group (flags : Flags) (captures : Bool)

def setExtended (flags : Flags) : Reader Unit :=
  match flags.find? fun f => f.1 == .ignoreWhitespace with
  | some (_, on) => modify fun c => { c with extended := on }
  | none => return

def groupOpening (paren : Span) : Reader Opening := do
  let _ ← bump
  skipBlanks
  if ← lookAround then fail .lookAround ⟨paren.start, ← place⟩
  let inner ← spanHere
  let named ← do
    if ← bumpIf "?P<" then pure true else bumpIf "?<"
  if named then
    groupName
    return .group [] true
  else if ← bumpIf "?" then
    if ← atEnd then fail .groupUnclosed paren
    let flags ← groupFlags
    let closing ← peek
    let _ ← bump
    if closing == some ')' then
      if flags.isEmpty then fail .repetitionMissing inner
      return .flags flags
    else return .group flags false
  else return .group [] true

/-! ## Repetitions -/

def takeOperand : List Tree → Reader (Tree × List Tree)
  | [] => do fail .repetitionMissing (← spanHere)
  | t :: rest => do
      if t.isRepeatable then return (t, rest)
      else fail .repetitionMissing (← spanHere)

def greedySuffix : Reader Bool := do
  if (← peek) == some '?' then
    let _ ← bump
    return false
  else return true

def simpleRepetition (c : Char) (done : List Tree) : Reader (List Tree) := do
  let (t, rest) ← takeOperand done
  let _ ← bump
  let greedy ← greedySuffix
  let min := if c == '+' then 1 else 0
  let max := if c == '?' then some 1 else none
  return .repetition (← spanFrom t.span.start) min max greedy t :: rest

/-- A decimal number with blanks around it, or the fault of it, which may not matter in the end. -/
def decimal : Reader (Except SpanFault Nat) := do
  let skipSpaces : Reader Unit := modify fun c =>
    let (rest, place) := dropChars isSpace c.rest c.place
    { c with rest := rest, place := place }
  skipSpaces
  let start ← place
  let digits ← takeChars Char.isDigit (← steps)
  let span ← spanFrom start
  skipSpaces
  skipBlanks
  if digits.isEmpty then return .error ⟨.repetitionNoDecimal, span, none⟩
  let n := digits.foldl (fun n d => 10 * n + (d.toNat - '0'.toNat)) 0
  if n < Nat.pow 2 32 then return .ok n else return .error ⟨.decimalInvalid, span, none⟩

def countedRepetition (done : List Tree) : Reader (List Tree) := do
  let start ← place
  let (t, rest) ← takeOperand done
  if !(← bumpBlanks) then fail .repetitionUnclosed (← spanFrom start)
  let lower ← decimal
  if ← atEnd then fail .repetitionUnclosed (← spanFrom start)
  let orThrow : Except SpanFault Nat → Reader Nat := fun e => match e with
    | .ok n => pure n
    | .error fault => throw fault
  let (min, max) ← do
    if (← peek) == some ',' then
      if !(← bumpBlanks) then fail .repetitionUnclosed (← spanFrom start)
      if (← peek) != some '\x7d' then
        let min ← orThrow lower
        let max ← orThrow (← decimal)
        pure (min, some max)
      else pure (← orThrow lower, none)
    else
      let min ← orThrow lower
      pure (min, some min)
  if (← peek) != some '\x7d' then fail .repetitionUnclosed (← spanFrom start)
  let _ ← bumpBlanks
  let greedy ← greedySuffix
  if max.any (· < min) then fail .repetitionInvalid (← spanFrom start)
  return .repetition (← spanFrom t.span.start) min max greedy t :: rest

/-! ## Patterns -/

def primitive (c : Char) : Reader Tree := do
  let span ← spanChar
  match c with
  | '\\' => escape
  | '.' =>
      let _ ← bump
      return .dot span
  | '^' =>
      let _ ← bump
      return .assertion span .lineStart
  | '$' =>
      let _ ← bump
      return .assertion span .lineEnd
  | _ =>
      let _ ← bump
      return .literal ⟨span, c, false⟩

mutual

def branch : Nat → List Tree → Reader (List Tree)
  | 0, done => return done
  | fuel + 1, done => do
      skipBlanks
      match ← peek with
      | none => return done
      | some '|' => return done
      | some ')' => return done
      | some '(' => branch fuel ((← group fuel) :: done)
      | some '[' =>
          match ← bracketedClass (← steps) with
          | .bracketed span negated set => branch fuel (.bracketed span negated set :: done)
          | _ => branch fuel done
      | some '\x7b' => branch fuel (← countedRepetition done)
      | some c =>
          if c == '?' || c == '*' || c == '+' then branch fuel (← simpleRepetition c done)
          else branch fuel ((← primitive c) :: done)

def branches : Nat → Reader (List Tree)
  | 0 => return []
  | fuel + 1 => do
      let start ← place
      let parts ← branch fuel []
      let first := Tree.concat (← spanFrom start) parts.reverse
      if (← peek) == some '|' then
        let _ ← bump
        return first :: (← branches fuel)
      else return [first]

def group : Nat → Reader Tree
  | 0 => return .concat (← spanHere) []
  | fuel + 1 => do
      let paren ← spanChar
      let outer := (← get).extended
      match ← groupOpening paren with
      | .flags flags =>
          setExtended flags
          return .flags (← spanFrom paren.start) flags
      | .group flags captures =>
          setExtended flags
          let start ← place
          let inner ← branches fuel
          let choice := Tree.alternation (← spanFrom start) inner
          if ← atEnd then fail .groupUnclosed paren
          modify fun c => { c with extended := outer }
          let _ ← bump
          return .group (← spanFrom paren.start) flags captures choice

end

def whole : Reader Tree := do
  let start ← place
  let trees ← branches (4 * (← steps))
  if !(← atEnd) then fail .groupUnopened (← spanChar)
  return .alternation (← spanFrom start) trees

def Tree.ofText (pattern : String) : Except SpanFault Tree :=
  (whole.run (Cursor.start pattern)).map Prod.fst

end SourceContract.Pattern
