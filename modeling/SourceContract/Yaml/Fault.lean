import SourceContract.Yaml.Mark
import SourceContract.Value.Shape

/-!
# What is wrong with a YAML text

A syntax fault names a problem and, mostly, the activity that met it with the place
where that activity began.  Other faults concern a document as a whole or the form
of one value.
-/

namespace SourceContract.Yaml

/-! ## Syntax -/

inductive Activity where
  | simpleKey
  | nextToken
  | directive
  | versionDirective
  | tagDirective
  | tagDirectiveStart
  | tagDirectiveHandle
  | tagDirectiveUri
  | anchor
  | alias
  | tag
  | tagUri
  | blockScalar
  | quotedScalar
  | quotedEscape
  | plainScalar
  | node
  | blockNode
  | flowNode
  | blockCollection
  | blockMapping
  | flowSequence
  | flowMapping
deriving DecidableEq, Repr

def Activity.text : Activity → String
  | .simpleKey => "while scanning a simple key"
  | .nextToken => "while scanning for the next token"
  | .directive => "while scanning a directive"
  | .versionDirective => "while scanning a %YAML directive"
  | .tagDirective => "while scanning a %TAG directive"
  | .tagDirectiveStart => "while scanning a tag directive"
  | .tagDirectiveHandle => "while parsing a tag directive"
  | .tagDirectiveUri => "while parsing a %TAG directive"
  | .anchor => "while scanning an anchor"
  | .alias => "while scanning an alias"
  | .tag => "while scanning a tag"
  | .tagUri => "while parsing a tag"
  | .blockScalar => "while scanning a block scalar"
  | .quotedScalar => "while scanning a quoted scalar"
  | .quotedEscape => "while parsing a quoted scalar"
  | .plainScalar => "while scanning a plain scalar"
  | .node => "while parsing a node"
  | .blockNode => "while parsing a block node"
  | .flowNode => "while parsing a flow node"
  | .blockCollection => "while parsing a block collection"
  | .blockMapping => "while parsing a block mapping"
  | .flowSequence => "while parsing a flow sequence"
  | .flowMapping => "while parsing a flow mapping"

inductive Problem where
  | colonMissing
  | blockEntryNotAllowed
  | keyNotAllowed
  | valueNotAllowed
  | noToken
  | directiveUnknown
  | directiveNameMissing
  | directiveNameInvalid
  | lineEndMissing
  | versionDotMissing
  | versionTooLong
  | versionMissing
  | blankMissing
  | blankOrBreakMissing
  | nameInvalid
  | tagUnclosed
  | handleUnopened
  | uriMissing
  | octetMissing
  | octetLeading
  | octetTrailing
  | indentationZero
  | tabInIndentation
  | documentMarkInScalar
  | endInScalar
  | escapeUnknown
  | hexMissing
  | codePointInvalid
  | colonInFlow
  | tabBeforePlain
  | documentStartMissing
  | versionDuplicate
  | versionIncompatible
  | handleDuplicate
  | handleUndefined
  | contentMissing
  | dashMissing
  | keyMissing
  | sequenceEndMissing
  | mappingEndMissing
deriving DecidableEq, Repr

def Problem.text : Problem → String
  | .colonMissing => "could not find expected ':'"
  | .blockEntryNotAllowed => "block sequence entries are not allowed in this context"
  | .keyNotAllowed => "mapping keys are not allowed in this context"
  | .valueNotAllowed => "mapping values are not allowed in this context"
  | .noToken => "found character that cannot start any token"
  | .directiveUnknown => "found unknown directive name"
  | .directiveNameMissing => "could not find expected directive name"
  | .directiveNameInvalid => "found unexpected non-alphabetical character"
  | .lineEndMissing => "did not find expected comment or line break"
  | .versionDotMissing => "did not find expected digit or '.' character"
  | .versionTooLong => "found extremely long version number"
  | .versionMissing => "did not find expected version number"
  | .blankMissing => "did not find expected whitespace"
  | .blankOrBreakMissing => "did not find expected whitespace or line break"
  | .nameInvalid => "did not find expected alphabetic or numeric character"
  | .tagUnclosed => "did not find the expected '>'"
  | .handleUnopened => "did not find expected '!'"
  | .uriMissing => "did not find expected tag URI"
  | .octetMissing => "did not find URI escaped octet"
  | .octetLeading => "found an incorrect leading UTF-8 octet"
  | .octetTrailing => "found an incorrect trailing UTF-8 octet"
  | .indentationZero => "found an indentation indicator equal to 0"
  | .tabInIndentation => "found a tab character where an indentation space is expected"
  | .documentMarkInScalar => "found unexpected document indicator"
  | .endInScalar => "found unexpected end of stream"
  | .escapeUnknown => "found unknown escape character"
  | .hexMissing => "did not find expected hexdecimal number"
  | .codePointInvalid => "found invalid Unicode character escape code"
  | .colonInFlow => "found unexpected ':'"
  | .tabBeforePlain => "found a tab character that violates indentation"
  | .documentStartMissing => "did not find expected <document start>"
  | .versionDuplicate => "found duplicate %YAML directive"
  | .versionIncompatible => "found incompatible YAML document"
  | .handleDuplicate => "found duplicate %TAG directive"
  | .handleUndefined => "found undefined tag handle"
  | .contentMissing => "did not find expected node content"
  | .dashMissing => "did not find expected '-' indicator"
  | .keyMissing => "did not find expected key"
  | .sequenceEndMissing => "did not find expected ',' or ']'"
  | .mappingEndMissing => "did not find expected ',' or '\x7d'"

structure SyntaxFault where
  problem : Problem
  mark : Mark
  context : Option (Activity × Mark)
deriving DecidableEq, Repr

/-- The place of the activity is left out where it is the place of the problem. -/
def SyntaxFault.message (f : SyntaxFault) : String :=
  f.problem.text ++ f.mark.describe ++
    match f.context with
    | none => ""
    | some (activity, began) =>
        ", " ++ activity.text ++ (if began.samePlace f.mark then "" else began.describe)

/-! ## All faults -/

inductive Fault where
  /-- A character that no text may hold, with its offset in bytes. -/
  | controlCharacter (offset : Nat)
  | malformed (fault : SyntaxFault)
  | anchorUnknown (mark : Mark)
  | severalDocuments
  | endOfText
  | tooDeep (mark : Mark)
  | tooManyAliases
  /-- A value of the wrong form, with the place of the value that reports it. -/
  | mismatch (cause : Mismatch) (place : Option (Path × Mark))
deriving DecidableEq, Repr

instance : OfMismatch Fault := ⟨fun cause => .mismatch cause none⟩

namespace Fault

def placed (path : Path) (mark : Mark) : Fault → Fault
  | .mismatch cause none => .mismatch cause (some (path, mark))
  | fault => fault

def message : Fault → String
  | .controlCharacter offset =>
      "control characters are not allowed" ++
        (if offset = 0 then "" else " at position " ++ toString offset)
  | .malformed fault => fault.message
  | .anchorUnknown mark => "unknown anchor" ++ mark.describe
  | .severalDocuments =>
      "deserializing from YAML containing more than one document is not supported"
  | .endOfText => "EOF while parsing a value"
  | .tooDeep mark => "recursion limit exceeded" ++ mark.describe
  | .tooManyAliases => "repetition limit exceeded"
  | .mismatch cause none => cause.message .yaml
  | .mismatch cause (some (path, mark)) =>
      (if path.isEmpty then "" else path.describe ++ ": ") ++ cause.message .yaml ++ mark.describe

end Fault

end SourceContract.Yaml
