import SourceContract.Value.Basic
import SourceContract.Value.Shape

/-!
# Reading structured values

Readers for the types that records are made of.  Each says what it expected when
the value is of another kind.
-/

namespace SourceContract.Value

/-! ## Scalars and sequences -/

def asText : Value → Except Mismatch String
  | .str s => .ok s
  | v => .error (.invalidType v.found "a string")

def asBool : Value → Except Mismatch Bool
  | .bool b => .ok b
  | v => .error (.invalidType v.found "a boolean")

/-- A count; the sources of values keep integers within the machine's range. -/
def asNat : Value → Except Mismatch Nat
  | .int (.ofNat n) => .ok n
  | .int i => .error (.invalidValue (.int i) "usize")
  | v => .error (.invalidType v.found "usize")

def asFloat : Value → Except Mismatch Binary64
  | .float x => .ok x
  | .int i => .ok (Binary64.ofInt i)
  | v => .error (.invalidType v.found "f64")

def asList {α : Type} (read : Value → Except Mismatch α) : Value → Except Mismatch (List α)
  | .seq items => items.mapM read
  | v => .error (.invalidType v.found "a sequence")

def asOption {α : Type} (read : Value → Except Mismatch α) : Value → Except Mismatch (Option α)
  | .null => .ok none
  | v => (read v).map some

def asTexts : Value → Except Mismatch (List String) := asList asText

/-! ## Choices -/

def key : Value → Key
  | .str s => .name s
  | .int (.ofNat n) => .position n
  | v => .other v.found

def variantOf {α : Type} (known : List (String × α)) : Key → Except Mismatch α
  | .name s =>
      match known.find? fun k => k.1 == s with
      | some k => .ok k.2
      | none => .error (.unknownVariant s (known.map Prod.fst))
  | .position n =>
      match known[n]? with
      | some k => .ok k.2
      | none =>
          .error (.invalidValue (.int n) ("variant index 0 <= i < " ++ toString known.length))
  | .other found => .error (.invalidType found "variant identifier")

def asUnit (buffered : Bool) : Value → Except Mismatch Unit
  | .null => .ok ()
  | .map [] => if buffered then .ok () else .error (.invalidType .map "unit")
  | v => .error (.invalidType v.found "unit")

def asVariant {α : Type} (buffered : Bool) (known : List (String × α)) : Value → Except Mismatch α
  | .str s => variantOf known (.name s)
  | .map [(k, v)] => do
      let chosen ← variantOf known k
      asUnit buffered v
      return chosen
  | .map _ => .error (.invalidValue .map "map with a single key")
  | v => .error (.invalidType v.found "string or map")

/-! ## Records -/

/-- The field that a key means; a position past the last field belongs to none. -/
def fieldName (names : List String) : Key → Except Mismatch (Option String)
  | .name s => .ok (some s)
  | .position n => .ok names[n]?
  | .other found => .error (.invalidType found "field identifier")

def recordEntries {α : Type} (s : Shape Value Mismatch α) (entries : List (Key × Value)) :
    List (Except Mismatch (Option String) × Value) :=
  entries.map fun e => (fieldName s.names e.1, e.2)

/-- What is wrong with more items than a record has fields.  A value that was buffered first counts
them, a value that is read as it comes does not. -/
def excessItems (buffered : Bool) (fields : Nat) : String :=
  if !buffered then "fewer elements in array"
  else if fields = 1 then "1 element in sequence"
  else toString fields ++ " elements in sequence"

def asRecord {α : Type} (buffered : Bool) (type : String) (s : Shape Value Mismatch α) :
    Value → Except Mismatch α
  | .map entries => s.ofEntries (fun _ => .ok ()) (recordEntries s entries)
  | .seq items =>
      let n := s.fields.length
      let elements := if n = 1 then " element" else " elements"
      s.ofItems ("struct " ++ type ++ " with " ++ toString n ++ elements)
        (excessItems buffered n) items
  | v => .error (.invalidType v.found ("struct " ++ type))

end SourceContract.Value
