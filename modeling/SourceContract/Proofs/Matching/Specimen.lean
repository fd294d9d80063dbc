import SourceContract.Proofs.Matching.Part

/-!
# Texts in which something is found

A token stands as often as one likes in a text that repeats it.  An identifier stands as
a word, and is called, between characters that make boundaries with its ends; which
characters do depends on the end, since an end that asks for a boundary need not be a
word character itself.  Both stay found when the text is put among others.
-/

namespace SourceContract.Matching

open Text

variable {token ident text : String}

/-! ## Tokens -/

def repeated (token : String) : Nat → String
  | 0 => ""
  | n + 1 => token ++ repeated token n

theorem occurs_self (h : token ≠ "") : Occurs token token := ⟨h, List.infix_rfl⟩

theorem le_count_repeated (h : token ≠ "") (n : Nat) : n ≤ count (repeated token n) token := by
  induction n with
  | zero => exact Nat.zero_le _
  | succ n ih =>
      have hone : 1 ≤ count token token :=
        Nat.pos_of_ne_zero (mt count_eq_zero_iff.mp (not_not_intro (occurs_self h)))
      calc
        n + 1 ≤ count (repeated token n) token + count token token := Nat.add_le_add ih hone
        _ = count token token + count (repeated token n) token := Nat.add_comm _ _
        _ ≤ count (token ++ repeated token n) token := add_count_le_count_append _ _ token

theorem count_le_occurrences {tokens : List String} (h : token ∈ tokens) (text : String) :
    count text token ≤ occurrences text tokens := by
  induction tokens with
  | nil => contradiction
  | cons first rest ih =>
      rw [occurrences_cons]
      rcases List.mem_cons.mp h with rfl | h
      · exact Nat.le_add_right _ _
      · exact (ih h).trans (Nat.le_add_left _ _)

theorem occurrences_eq_zero_of_empty {tokens : List String} (h : ∀ token ∈ tokens, token = "")
    (text : String) : occurrences text tokens = 0 := by
  rw [occurrences_eq_zero_iff, List.any_eq_false]
  intro token htoken
  rw [h token htoken, count_empty]
  exact Bool.false_ne_true

/-! ## Identifiers -/

/-- A character that makes a boundary with `c` on either side. -/
def beside (c : Char) : Char := if isWordChar c then ' ' else 'a'

theorem isWordChar_beside (c : Char) : isWordChar (beside c) = !isWordChar c := by
  have hblank : isWordChar ' ' = false := by decide +kernel
  have hletter : isWordChar 'a' = true := by decide +kernel
  unfold beside
  cases hword : isWordChar c with
  | true => rw [if_pos rfl, hblank, Bool.not_true]
  | false => rw [if_neg Bool.false_ne_true, hletter, Bool.not_false]

theorem leftFree_beside {c : Char} {word : List Char} (h : word.head? = some c) :
    leftFree word (some (beside c)) = true := by
  simp [leftFree, h, isBoundary, isWordAt, isWordChar_beside]

theorem rightFree_beside {c : Char} {word : List Char} (h : word.getLast? = some c) :
    rightFree word (some (beside c)) = true := by
  simp [rightFree, h, isBoundary, isWordAt, isWordChar_beside]

def edge (side : Option Char) : List Char := side.toList.map beside

/-- The identifier as a word of its own, and once more with a call. -/
def specimen (ident : String) : String :=
  String.ofList
    (edge ident.toList.head? ++ ident.toList ++ edge ident.toList.getLast? ++
      (edge ident.toList.head? ++ ident.toList ++ ['(']))

theorem leftFree_edge (h : ident ≠ "") (front : List Char) :
    leftFree ident.toList (front ++ edge ident.toList.head?).getLast? = true := by
  have hchars : ident.toList ≠ [] := by simpa using h
  have hfirst := List.head?_eq_some_head hchars
  simpa [edge, hfirst] using leftFree_beside hfirst

theorem rightFree_edge (h : ident ≠ "") (behind : List Char) :
    rightFree ident.toList (edge ident.toList.getLast? ++ behind).head? = true := by
  have hchars : ident.toList ≠ [] := by simpa using h
  have hlast := List.getLast?_eq_some_getLast hchars
  simpa [edge, hlast] using rightFree_beside hlast

theorem containsIdentifier_of_specimen (h : ident ≠ "") (hpart : IsPart (specimen ident) text)
    (mode : MatchMode) : containsIdentifier mode text ident = true := by
  have hword : containsIdentifier .word text ident = true := by
    obtain ⟨front, behind, hsplit⟩ := hpart
    refine containsIdentifier_word_iff.mpr ⟨h, front ++ edge ident.toList.head?,
      edge ident.toList.getLast? ++ (edge ident.toList.head? ++ ident.toList ++ ['('] ++ behind),
      ?_, leftFree_edge h front, rightFree_edge h _⟩
    rw [← hsplit, specimen, String.toList_ofList]
    simp only [List.append_assoc]
  cases mode with
  | word => exact hword
  | literal => exact containsIdentifier_literal hword

theorem hasCall_of_specimen (h : ident ≠ "") (hpart : IsPart (specimen ident) text)
    (mode : MatchMode) : hasCall mode text ident = true := by
  have hword : hasCall .word text ident = true := by
    obtain ⟨front, behind, hsplit⟩ := hpart
    -- The call is the second of the two places at which the identifier stands.
    refine hasCall_word_iff.mpr ⟨h, front ++ (edge ident.toList.head? ++ ident.toList ++
      edge ident.toList.getLast?) ++ edge ident.toList.head?, [], behind, ?_, by simp,
      leftFree_edge h _⟩
    rw [← hsplit, specimen, String.toList_ofList]
    simp only [List.append_assoc, List.nil_append, List.cons_append]
  cases mode with
  | word => exact hword
  | literal => exact hasCall_literal hword

/-! ## Many of them -/

theorem isPart_join {texts : List String} (h : text ∈ texts) : IsPart text (String.join texts) := by
  rw [IsPart, String.toList_join]
  exact List.infix_of_mem_flatten (List.mem_map_of_mem h)

example : specimen "²" = "a²aa²(" ∧ containsIdentifier .word (specimen "²") "²" = true := by
  decide +kernel

end SourceContract.Matching
