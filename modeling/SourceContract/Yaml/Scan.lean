import SourceContract.Yaml.Layout

/-!
# From text to tokens

A text has tokens up to its end, or up to a fault.  `Tokens.ofText` is the entry.
-/

namespace SourceContract.Yaml

namespace Scanner

/-! ## Between tokens -/

/-- Passes over blanks, comments and line breaks.  A tab is a blank where no key may start; behind
a line break a key may start in block context. -/
def toNextToken : Nat → Scanner Unit
  | 0 => return ()
  | fuel + 1 => do
      if (← Reader.column) == 0 && (← Reader.peek) == some byteOrderMark then Reader.skip
      let tabs := (← inFlow) || !(← get).keyAllowed
      Reader.skipWhile fun c => c == ' ' || (tabs && c == '\t')
      Reader.skipComment
      if (← Reader.takeBreak).isSome then
        if !(← inFlow) then allowKey true
        toNextToken fuel

/-! ## One token -/

def startsPlain (flow : Bool) (c : Char) (next : Option Char) : Bool :=
  !(endsWord (some c) || "-?:,[]\x7b\x7d#&*!|>'\"%@\x60".toList.contains c)
    || (c == '-' && !next.any isBlank)
    || (!flow && (c == '?' || c == ':') && !endsWord next)

def tokenAt (c : Char) : Scanner Unit := do
  let flow ← inFlow
  let next ← Reader.peekAt 1
  if (← Reader.column) == 0 && c == '%' then betweenDocuments (reading Reader.directive)
  else if ← Reader.atDocumentMark '-' then betweenDocuments (indicator .documentStart 3)
  else if ← Reader.atDocumentMark '.' then betweenDocuments (indicator .documentEnd 3)
  else if c == '[' then flowStart .flowSequenceStart
  else if c == '\x7b' then flowStart .flowMappingStart
  else if c == ']' then flowEnd .flowSequenceEnd
  else if c == '\x7d' then flowEnd .flowMappingEnd
  else if c == ',' then flowEntry
  else if c == '-' && endsWord next then blockEntry
  else if c == '?' && (flow || endsWord next) then key
  else if c == ':' && (flow || endsWord next) then value
  else if c == '*' then keyStart (return .alias (← Reader.anchorName .alias))
  else if c == '&' then keyStart (return .anchor (← Reader.anchorName .anchor))
  else if c == '!' then keyStart (Reader.tag flow)
  else if c == '|' && !flow then blockScalar true
  else if c == '>' && !flow then blockScalar false
  else if c == '\'' then keyStart (Reader.quotedScalar false)
  else if c == '"' then keyStart (Reader.quotedScalar true)
  else if startsPlain flow c next then plainScalar
  else Reader.fail .noToken .nextToken (← Reader.mark)

def nextToken : Scanner Bool := do
  toNextToken (← Reader.steps)
  dropStaleKeys
  let mark ← Reader.mark
  modify fun l => l.closeBlocks (mark.column + 1) mark
  let first ← Reader.peek
  match first with
  | none => streamEnd
  | some c => tokenAt c
  dropStaleKeys
  return first.isNone

end Scanner

/-! ## All tokens -/

structure Tokens where
  list : List Located
  fault : Option Fault

namespace Tokens

/-- When a token cannot be read, only the tokens are given that were settled before it. -/
def scan : Nat → Layout → Cursor → Tokens
  | 0, layout, _ => ⟨layout.settled, none⟩
  | fuel + 1, layout, cursor =>
      match (Scanner.nextToken.run layout).run cursor with
      | .error fault => ⟨layout.settled, some (.malformed fault)⟩
      | .ok ((true, layout), _) => ⟨layout.tokens.reverse, none⟩
      | .ok ((false, layout), cursor) => scan fuel layout cursor

def ofText (text : String) : Tokens :=
  match disallowedOffset? 0 text.toList with
  | some offset => ⟨[], some (.controlCharacter offset)⟩
  | none =>
      let cursor := Cursor.start text
      scan cursor.bound Layout.start cursor

end Tokens

end SourceContract.Yaml
