import SourceContract.Value.Mismatch

/-!
# Structured values

What contracts and reports are written as and read from: scalars, sequences and
maps.  A map keeps its entries in order and may hold a key twice; reading decides
what that means.
-/

namespace SourceContract

/-- A key of a map.  A number may stand for the field at that position. -/
inductive Key where
  | name (s : String)
  | position (n : Nat)
  | other (found : Found)
deriving DecidableEq, Repr

inductive Value where
  | null
  | bool (b : Bool)
  | int (i : Int)
  | float (x : Binary64)
  | str (s : String)
  | seq (items : List Value)
  | map (entries : List (Key × Value))
deriving Repr, Inhabited

namespace Value

def found : Value → Found
  | null => .null
  | bool b => .bool b
  | int i => .int i
  | float x => .float x
  | str s => .str s
  | seq _ => .seq
  | map _ => .map

/-! ## Construction -/

def nat (n : Nat) : Value := .int n

def texts (ss : List String) : Value := .seq (ss.map .str)

def optionalText : Option String → Value
  | none => .null
  | some s => .str s

def record (entries : List (String × Value)) : Value :=
  .map (entries.map fun e => (.name e.1, e.2))

end Value

end SourceContract
