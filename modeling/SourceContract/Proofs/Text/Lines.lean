import SourceContract.Binary64.Text

/-!
# Lines of a text

A text that is put together from lines, each ended by a line break, splits into just
these lines, unless one of them holds a line break itself.  Numbers never do.
-/

namespace SourceContract

namespace Text

def linesOf (text : String) : List String := (text.toList.splitOn '\n').map String.ofList

def OneLine (s : String) : Prop := '\n' ∉ s.toList

instance : DecidablePred OneLine := fun s => inferInstanceAs (Decidable ('\n' ∉ s.toList))

variable {s t : String}

@[simp] theorem oneLine_append : OneLine (s ++ t) ↔ OneLine s ∧ OneLine t := by
  simp [OneLine, not_or]

theorem OneLine.append (hs : OneLine s) (ht : OneLine t) : OneLine (s ++ t) :=
  oneLine_append.mpr ⟨hs, ht⟩

theorem toList_toString (n : Nat) : (toString n).toList = Nat.toDigits 10 n := by
  simp

theorem break_notMem_toDigits (n : Nat) : '\n' ∉ Nat.toDigits 10 n := by
  intro h
  have hdigit := Nat.isDigit_of_mem_toDigits (by decide) (Nat.le_refl 10) h
  contradiction

@[simp] theorem oneLine_toString (n : Nat) : OneLine (toString n) := by
  rw [OneLine, toList_toString]
  exact break_notMem_toDigits n

theorem linesOf_append_break (h : OneLine s) :
    linesOf (s ++ "\n" ++ t) = s :: linesOf t := by
  have hsplit := List.splitOn_append_cons_self_of_not_mem h t.toList
  simp only [linesOf, String.toList_append, List.append_assoc]
  rw [← String.ofList_toList (s := s)]
  simpa using congrArg (List.map String.ofList) hsplit

/-- Lines that are ended by line breaks are followed by an empty one. -/
theorem linesOf_join {ls : List String} (h : ∀ line ∈ ls, OneLine line) :
    linesOf (String.join (ls.map fun line => line ++ "\n")) = ls ++ [""] := by
  induction ls with
  | nil => rfl
  | cons line rest ih =>
      have hrest := ih fun l hl => h l (List.mem_cons_of_mem line hl)
      rw [List.map_cons, String.join_cons, linesOf_append_break (h line List.mem_cons_self),
        hrest]
      rfl

end Text

/-! ## Decimals -/

namespace Binary64

open Text (OneLine)

theorem oneLine_signed (negative : Bool) {cs : List Char} (h : '\n' ∉ cs) :
    OneLine (signed negative cs) := by
  cases negative <;> simpa [signed, OneLine] using h

theorem oneLine_fixed (places : Nat) (x : Binary64) : OneLine (x.fixed places) := by
  cases x with
  | finite negative m s =>
      apply oneLine_signed
      have hdigits := Text.break_notMem_toDigits
        (roundHalfEven (m * Nat.pow 2 s * Nat.pow 10 places) unit)
      generalize Nat.toDigits 10 _ = digits at hdigits ⊢
      have hpadded : '\n' ∉ zeros (places + 1 - digits.length) ++ digits := by
        simp [zeros, hdigits]
      intro h
      rcases List.mem_append.mp h with h | h
      · exact hpadded (List.mem_of_mem_take h)
      · rcases List.mem_cons.mp h with h | h
        · contradiction
        · exact hpadded (List.mem_of_mem_drop h)
  | infinite negative =>
      cases negative with
      | false => exact (by decide : OneLine "inf")
      | true => exact (by decide : OneLine "-inf")
  | nan => exact (by decide : OneLine "NaN")

end Binary64

end SourceContract
