import SourceContract.Yaml.Mark

/-!
# Tokens of YAML

Indentation is spelled out: each block collection is opened by a token of its own
and closed by `blockEnd`, and a key is announced also where the text only shows the
colon behind it.
-/

namespace SourceContract.Yaml

inductive Style where
  | plain
  | singleQuoted
  | doubleQuoted
  | literal
  | folded
deriving DecidableEq, Repr

inductive Token where
  | streamEnd
  | versionDirective (major minor : Nat)
  | tagDirective (handle expansion : String)
  | documentStart
  | documentEnd
  | blockSequenceStart
  | blockMappingStart
  | blockEnd
  | flowSequenceStart
  | flowSequenceEnd
  | flowMappingStart
  | flowMappingEnd
  | blockEntry
  | flowEntry
  | key
  | value
  | alias (name : String)
  | anchor (name : String)
  /-- A tag as written; a tag that is written in full has an empty handle. -/
  | tag (handle suffix : String)
  | scalar (text : String) (style : Style)
deriving DecidableEq, Repr

/-- A token with the place where it starts and the place where reading went on behind it. -/
structure Located where
  token : Token
  start : Mark
  stop : Mark
deriving DecidableEq, Repr

end SourceContract.Yaml
