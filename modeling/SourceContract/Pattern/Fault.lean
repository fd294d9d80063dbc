/-!
# What is wrong with a pattern

A fault has a cause and a span of the pattern.  Its text repeats the pattern with
the span marked by carets; a pattern of several lines stands between rules, with
its lines numbered.
-/

namespace SourceContract.Pattern

/-! ## Places -/

structure Place where
  line : Nat
  column : Nat
deriving DecidableEq, Repr

def Place.first : Place := ⟨1, 1⟩

def Place.after (p : Place) (c : Char) : Place :=
  if c = '\n' then ⟨p.line + 1, 1⟩ else ⟨p.line, p.column + 1⟩

/-- From the first place up to, and without, the second. -/
structure Span where
  start : Place
  stop : Place
deriving DecidableEq, Repr

def Span.isOneLine (s : Span) : Bool := s.start.line == s.stop.line

/-! ## Causes -/

inductive Cause where
  | groupUnclosed
  | groupUnopened
  | groupNameDuplicate
  | groupNameEmpty
  | groupNameInvalid
  | groupNameUnclosed
  | classUnclosed
  | classEscapeInvalid
  | classRangeInvalid
  | classRangeLiteral
  | escapeUnexpectedEnd
  | escapeUnrecognized
  | hexEmpty
  | hexInvalid
  | hexInvalidDigit
  | decimalInvalid
  | flagDanglingNegation
  | flagDuplicate
  | flagRepeatedNegation
  | flagUnexpectedEnd
  | flagUnrecognized
  | nestLimitExceeded (limit : Nat)
  | repetitionMissing
  | repetitionUnclosed
  | repetitionInvalid
  | repetitionNoDecimal
  | boundaryUnclosed
  | boundaryUnrecognized
  | boundaryUnexpectedEnd
  | backreference
  | lookAround
  | propertyInvalid
  | propertyNotFound
  | propertyValueNotFound
  | unicodeNotAllowed
  | invalidUtf8
deriving DecidableEq, Repr

def Cause.text : Cause → String
  | .groupUnclosed => "unclosed group"
  | .groupUnopened => "unopened group"
  | .groupNameDuplicate => "duplicate capture group name"
  | .groupNameEmpty => "empty capture group name"
  | .groupNameInvalid => "invalid capture group character"
  | .groupNameUnclosed => "unclosed capture group name"
  | .classUnclosed => "unclosed character class"
  | .classEscapeInvalid => "invalid escape sequence found in character class"
  | .classRangeInvalid => "invalid character class range, the start must be <= the end"
  | .classRangeLiteral => "invalid range boundary, must be a literal"
  | .escapeUnexpectedEnd => "incomplete escape sequence, reached end of pattern prematurely"
  | .escapeUnrecognized => "unrecognized escape sequence"
  | .hexEmpty => "hexadecimal literal empty"
  | .hexInvalid => "hexadecimal literal is not a Unicode scalar value"
  | .hexInvalidDigit => "invalid hexadecimal digit"
  | .decimalInvalid => "decimal literal invalid"
  | .flagDanglingNegation => "dangling flag negation operator"
  | .flagDuplicate => "duplicate flag"
  | .flagRepeatedNegation => "flag negation operator repeated"
  | .flagUnexpectedEnd => "expected flag but got end of regex"
  | .flagUnrecognized => "unrecognized flag"
  | .nestLimitExceeded limit =>
      "exceed the maximum number of nested parentheses/brackets (" ++ toString limit ++ ")"
  | .repetitionMissing => "repetition operator missing expression"
  | .repetitionUnclosed => "unclosed counted repetition"
  | .repetitionInvalid => "invalid repetition count range, the start must be <= the end"
  | .repetitionNoDecimal => "repetition quantifier expects a valid decimal"
  | .boundaryUnclosed =>
      "special word boundary assertion is either unclosed or contains an invalid character"
  | .boundaryUnrecognized =>
      "unrecognized special word boundary assertion, valid choices are: "
        ++ "start, end, start-half or end-half"
  | .boundaryUnexpectedEnd =>
      "found either the beginning of a special word boundary or a bounded repetition on a \\b "
        ++ "with an opening brace, but no closing brace"
  | .backreference => "backreferences are not supported"
  | .lookAround => "look-around, including look-ahead and look-behind, is not supported"
  | .propertyInvalid => "invalid Unicode character class"
  | .propertyNotFound => "Unicode property not found"
  | .propertyValueNotFound => "Unicode property value not found"
  | .unicodeNotAllowed => "Unicode not allowed here"
  | .invalidUtf8 => "pattern can match invalid UTF-8"

/-! ## Faults -/

/-- A fault of the text; `earlier` is the place that a repeated thing first stood at. -/
structure SpanFault where
  cause : Cause
  span : Span
  earlier : Option Span
deriving DecidableEq, Repr

inductive Fault where
  | text (fault : SpanFault)
  | tooLarge (limit : Nat)
deriving DecidableEq, Repr

/-! ## Marking spans -/

def linesOf (pattern : String) : List String :=
  let parts := pattern.splitOn "\n"
  let kept := if parts.getLast? == some "" then parts.dropLast else parts
  kept.map fun line =>
    if line.toList.getLast? == some '\r' then String.ofList line.toList.dropLast else line

def blanks (n : Nat) : String := String.ofList (List.replicate n ' ')

def spanOrder (a b : Span) : Bool :=
  if a.start.line == b.start.line && a.start.column == b.start.column then
    a.stop.line < b.stop.line || a.stop.line == b.stop.line && a.stop.column ≤ b.stop.column
  else
    a.start.line < b.start.line ||
      a.start.line == b.start.line && a.start.column ≤ b.start.column

def carets (column : Nat) : List Span → String
  | [] => ""
  | s :: rest =>
      let gap := s.start.column - 1 - column
      let width := max 1 (s.stop.column - s.start.column)
      blanks gap ++ String.ofList (List.replicate width '^') ++ carets (column + gap + width) rest

def markedLine (numberWidth : Nat) (spans : List Span) (number : Nat) (line : String) : String :=
  let label := toString number
  let margin := if numberWidth = 0 then blanks 4
    else blanks (numberWidth - label.length) ++ label ++ ": "
  let here := spans.filter fun s => s.isOneLine && s.start.line == number
  let marks := if here.isEmpty then ""
    else blanks (if numberWidth = 0 then 4 else numberWidth + 2) ++ carets 0 here ++ "\n"
  margin ++ line ++ "\n" ++ marks

def markedLines (numberWidth : Nat) (spans : List Span) (number : Nat) : List String → String
  | [] => ""
  | line :: rest =>
      markedLine numberWidth spans number line ++ markedLines numberWidth spans (number + 1) rest

def acrossLines (s : Span) : String :=
  "on line " ++ toString s.start.line ++ " (column " ++ toString s.start.column
    ++ ") through line " ++ toString s.stop.line ++ " (column " ++ toString (s.stop.column - 1)
    ++ ")\n"

def SpanFault.message (pattern : String) (f : SpanFault) : String :=
  let spans := (f.earlier.toList ++ [f.span]).mergeSort spanOrder
  let lines := linesOf pattern
  let count := if pattern.endsWith "\n" then lines.length + 1 else lines.length
  let numberWidth := if count ≤ 1 then 0 else (toString count).length
  let notes := markedLines numberWidth spans 1 lines
  let body :=
    if pattern.contains '\n' then
      let rule := String.ofList (List.replicate 79 '~') ++ "\n"
      rule ++ notes ++ rule ++ String.join ((spans.filter fun s => !s.isOneLine).map acrossLines)
    else notes
  "regex parse error:\n" ++ body ++ "error: " ++ f.cause.text

def Fault.message (pattern : String) : Fault → String
  | .text fault => fault.message pattern
  | .tooLarge limit => "Compiled regex exceeds size limit of " ++ toString limit ++ " bytes."

end SourceContract.Pattern
