import SourceContract.Text.Property.Category

/-!
# What a set of characters is made of

Some sets are listed.  Others are put together from these and from general categories.
A composition says how; nothing is put together before the set is asked for.
-/

namespace SourceContract.Text.Property

inductive Composition where
  | table (text : String)
  | ranges (set : CharSet)
  | categories (short : List String)
  | union (a b : Composition)
  | inter (a b : Composition)
  | diff (a b : Composition)

instance : Union Composition := ⟨.union⟩

instance : Inter Composition := ⟨.inter⟩

instance : SDiff Composition := ⟨.diff⟩

def Composition.set : Composition → CharSet
  | .table text => CharSet.ofTable text
  | .ranges s => s
  | .categories short => categoriesNamed short
  | .union a b => a.set.union b.set
  | .inter a b => a.set.inter b.set
  | .diff a b => a.set.diff b.set

end SourceContract.Text.Property
