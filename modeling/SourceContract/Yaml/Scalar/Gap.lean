import SourceContract.Yaml.Cursor

/-!
# Blanks and line breaks inside scalars

Between two words of a scalar stand blanks, or line breaks with blanks around them.
Blanks are kept; a single line break is folded to a space, and of several line
breaks the first one is dropped.
-/

namespace SourceContract.Yaml

inductive Gap where
  | blanks (cs : List Char)
  /-- The first break is missing where it was escaped. -/
  | lines (first : Option Char) (more : List Char)
deriving DecidableEq, Repr

namespace Gap

def text : Gap → List Char
  | blanks cs => cs
  | lines (some '\n') [] => [' ']
  | lines (some '\n') more => more
  | lines first more => first.toList ++ more

def hasLines : Gap → Bool
  | blanks _ => false
  | lines .. => true

def addBlank (c : Char) : Gap → Gap
  | blanks cs => blanks (cs ++ [c])
  | gap => gap

def addBreak (c : Char) : Gap → Gap
  | blanks _ => lines (some c) []
  | lines first more => lines first (more ++ [c])

end Gap

namespace Reader

/-- Reads blanks and line breaks.  Behind a line break no tab may stand to the left of the column
`least`; such a tab is a fault of a plain scalar that began at `began`. -/
def gap (least : Nat) (began : Mark) : Nat → Gap → Reader Gap
  | 0, soFar => return soFar
  | fuel + 1, soFar => do
      match ← takeBreak with
      | some c => gap least began fuel (soFar.addBreak c)
      | none =>
          match ← peek with
          | none => return soFar
          | some c =>
              if !isBlank c then return soFar
              if soFar.hasLines && c == '\t' && (← column) < least then
                fail .tabBeforePlain .plainScalar began
              skip
              gap least began fuel (soFar.addBlank c)

end Reader

end SourceContract.Yaml
