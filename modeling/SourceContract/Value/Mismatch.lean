import SourceContract.Binary64.Text
import SourceContract.Text.Quoted

/-!
# Why a value has not the expected form

A mismatch names what was found and what was expected.  Its text differs between
sources in two words only, the spelling of null and the spelling of numbers, so
`Mismatch.message` takes both from a `Wording`.
-/

namespace SourceContract

inductive Found where
  | null
  | bool (b : Bool)
  | int (i : Int)
  | float (x : Binary64)
  | str (s : String)
  | seq
  | map
  | other (description : String)
deriving DecidableEq, Repr

inductive Mismatch where
  | invalidType (found : Found) (expected : String)
  | invalidValue (found : Found) (expected : String)
  | invalidLength (length : Nat) (expected : String)
  | unknownVariant (name : String) (known : List String)
  | missingField (name : String)
  | duplicateField (name : String)
  | noAlternative (type : String)
  | taggedContent
deriving DecidableEq, Repr

/-- How a source spells null and numbers. -/
structure Wording where
  null : String
  float : Binary64 → String

def Wording.json : Wording := ⟨"null", Binary64.compact⟩

def Wording.yaml : Wording := ⟨"unit value", Binary64.positional⟩

/-! ## Messages -/

def ticked (s : String) : String := "`" ++ s ++ "`"

def Found.describe (w : Wording) : Found → String
  | .null => w.null
  | .bool b => "boolean " ++ ticked (if b then "true" else "false")
  | .int i => "integer " ++ ticked (toString i)
  | .float x => "floating point " ++ ticked (w.float x)
  | .str s => "string " ++ Text.Quoted.quote s
  | .seq => "sequence"
  | .map => "map"
  | .other description => description

def oneOf : List String → String
  | [] => "there are no variants"
  | [a] => ticked a
  | [a, b] => ticked a ++ " or " ++ ticked b
  | many => "one of " ++ ", ".intercalate (many.map ticked)

def Mismatch.message (w : Wording) : Mismatch → String
  | .invalidType found expected =>
      "invalid type: " ++ found.describe w ++ ", expected " ++ expected
  | .invalidValue found expected =>
      "invalid value: " ++ found.describe w ++ ", expected " ++ expected
  | .invalidLength length expected =>
      "invalid length " ++ toString length ++ ", expected " ++ expected
  | .unknownVariant name known =>
      "unknown variant " ++ ticked name ++ ", expected " ++ oneOf known
  | .missingField name => "missing field " ++ ticked name
  | .duplicateField name => "duplicate field " ++ ticked name
  | .noAlternative type => "data did not match any variant of untagged enum " ++ type
  | .taggedContent => "untagged and internally tagged enums do not support enum input"

end SourceContract
