import SourceContract.Matching.Identifier

/-!
# Tallies

A tally says how many of the required items were found and names the others in
order.
-/

namespace SourceContract.Matching

structure Tally where
  found : Nat
  required : Nat
  missing : List String
deriving DecidableEq, Repr

namespace Tally

def ofItems {α : Type} (p : α → Bool) (label : α → String) (items : List α) : Tally where
  found := (items.filter p).length
  required := items.length
  missing := (items.filter fun a => !p a).map label

def ofNames (p : String → Bool) (names : List String) : Tally := ofItems p id names

def isComplete (t : Tally) : Bool := t.found == t.required && t.missing.isEmpty

def ofMethods (mode : MatchMode) (declaration implementation : String) (idents : List String) :
    Tally :=
  ofNames (declaredAndCalled mode declaration implementation) idents

def ownerPresent (declaration : String) : Option String → Bool
  | some owner => contains declaration owner
  | none => true

/-- Fields in a declaration; without their owner none of them counts. -/
def ofFields (mode : MatchMode) (declaration : String) (owner : Option String)
    (fields : List String) : Tally :=
  ofNames (fun f => ownerPresent declaration owner && containsIdentifier mode declaration f) fields

end Tally

end SourceContract.Matching
