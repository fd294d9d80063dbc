/-!
# Places in a YAML text

A mark counts characters, lines and columns from zero.  It is written as a line and
a column counted from one.
-/

namespace SourceContract.Yaml

structure Mark where
  index : Nat
  line : Nat
  column : Nat
deriving DecidableEq, Repr

namespace Mark

def start : Mark := ⟨0, 0, 0⟩

def next (m : Mark) : Mark := ⟨m.index + 1, m.line, m.column + 1⟩

def nextLine (m : Mark) (size : Nat) : Mark := ⟨m.index + size, m.line + 1, 0⟩

def describe (m : Mark) : String :=
  if m.line = 0 ∧ m.column = 0 then ""
  else " at line " ++ toString (m.line + 1) ++ " column " ++ toString (m.column + 1)

def samePlace (a b : Mark) : Bool := a.line == b.line && a.column == b.column

end Mark

/-! ## Paths -/

inductive PathStep where
  | item (index : Nat)
  | entry (name : String)
  /-- An entry whose key is not written as a name. -/
  | anonymous
deriving DecidableEq, Repr

/-- The steps from the root, the last one first. -/
abbrev Path := List PathStep

def Path.describe : Path → String
  | [] => ""
  | .item i :: parent => Path.describe parent ++ "[" ++ toString i ++ "]"
  | .entry name :: parent => dotted parent ++ name
  | .anonymous :: parent => dotted parent ++ "?"
where
  dotted (parent : List PathStep) : String :=
    if parent.isEmpty then "" else Path.describe parent ++ "."

end SourceContract.Yaml
