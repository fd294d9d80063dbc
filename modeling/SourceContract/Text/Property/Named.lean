import SourceContract.Text.CharSet

/-!
# Things that go by several names
-/

namespace SourceContract.Text.Property

/-- The names are in loose form: lower case, without blanks, hyphens and low lines. -/
structure Named (α : Type) where
  names : List String
  value : α

def lookup? {α : Type} (name : String) (entries : List (Named α)) : Option α :=
  (entries.find? fun e => e.names.contains name).map Named.value

def unionOf (sets : List CharSet) : CharSet :=
  CharSet.ofRanges (sets.flatMap CharSet.ranges)

end SourceContract.Text.Property
