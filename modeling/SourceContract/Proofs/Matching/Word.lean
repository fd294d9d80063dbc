import Mathlib.Data.List.TakeWhile
import SourceContract.Proofs.Matching.Mode

/-!
# Identifiers as words and as calls

What the search for an identifier and for its call finds, said without the search: the
text is cut in front of the identifier and behind it.

In word mode the cuts have to be word boundaries.  Whether a side asks for a boundary is
settled by one notion of a word character and the boundary itself by another, so an
identifier stands on word boundaries exactly when the two agree on the characters at its
ends.  A superscript two asks for boundaries and can never have them where it stands
alone.
-/

namespace SourceContract.Matching

open Text

variable {ident : List Char} {before after : Option Char}

/-! ## Cuts -/

theorem opensCall_iff {rest : List Char} :
    opensCall rest = true ↔
      ∃ blanks behind, rest = blanks ++ '(' :: behind ∧ ∀ c ∈ blanks, isSpace c = true := by
  have hparenthesis : isSpace '(' = false := by decide +kernel
  unfold opensCall
  constructor
  · intro h
    obtain ⟨behind, hbehind⟩ := List.head?_eq_some_iff.mp (beq_iff_eq.mp h)
    refine ⟨rest.takeWhile isSpace, behind, ?_, fun c hc => List.mem_takeWhile_imp hc⟩
    rw [← hbehind, List.takeWhile_append_dropWhile]
  · rintro ⟨blanks, behind, rfl, hblanks⟩
    rw [List.dropWhile_append_of_pos hblanks, List.dropWhile_cons_of_neg (by simp [hparenthesis])]
    rfl

theorem containsIdentifier_word_iff {text ident : String} :
    containsIdentifier .word text ident = true ↔
      ident ≠ "" ∧ ∃ front behind, text.toList = front ++ ident.toList ++ behind ∧
        leftFree ident.toList front.getLast? = true ∧
          rightFree ident.toList behind.head? = true := by
  simp only [containsIdentifier, Bool.and_eq_true, somewhere_iff, wordAt, Option.or_none,
    List.isPrefixOf_iff_prefix]
  refine and_congr (by simp) ?_
  constructor
  · rintro ⟨front, rest, hsplit, ⟨⟨behind, rfl⟩, hleft⟩, hright⟩
    rw [List.drop_left] at hright
    exact ⟨front, behind, by rw [hsplit, List.append_assoc], hleft, hright⟩
  · rintro ⟨front, behind, hsplit, hleft, hright⟩
    refine ⟨front, ident.toList ++ behind, by rw [hsplit, List.append_assoc],
      ⟨List.prefix_append _ _, hleft⟩, ?_⟩
    rwa [List.drop_left]

theorem hasCall_word_iff {text ident : String} :
    hasCall .word text ident = true ↔
      ident ≠ "" ∧ ∃ front blanks behind,
        text.toList = front ++ ident.toList ++ blanks ++ '(' :: behind ∧
          (∀ c ∈ blanks, isSpace c = true) ∧ leftFree ident.toList front.getLast? = true := by
  simp only [hasCall, Bool.and_eq_true, somewhere_iff, wordCallAt, Option.or_none,
    List.isPrefixOf_iff_prefix]
  refine and_congr (by simp) ?_
  constructor
  · rintro ⟨front, rest, hsplit, ⟨⟨behind, rfl⟩, hleft⟩, hopens⟩
    rw [List.drop_left] at hopens
    obtain ⟨blanks, behind, rfl, hblanks⟩ := opensCall_iff.mp hopens
    exact ⟨front, blanks, behind, by rw [hsplit]; simp, hblanks, hleft⟩
  · rintro ⟨front, blanks, behind, hsplit, hblanks, hleft⟩
    refine ⟨front, ident.toList ++ (blanks ++ '(' :: behind), by rw [hsplit]; simp,
      ⟨List.prefix_append _ _, hleft⟩, ?_⟩
    rw [List.drop_left]
    exact opensCall_iff.mpr ⟨blanks, behind, rfl, hblanks⟩

/-- White space and word characters have nothing in common, so skipping the word characters first
loses no way to cut the text. -/
theorem hasCall_literal_iff {text ident : String} :
    hasCall .literal text ident = true ↔
      ident ≠ "" ∧ ∃ front tail blanks behind,
        text.toList = front ++ ident.toList ++ tail ++ blanks ++ '(' :: behind ∧
          (∀ c ∈ tail, isWordChar c = true) ∧ ∀ c ∈ blanks, isSpace c = true := by
  simp only [hasCall, Bool.and_eq_true, somewhere_iff, callAt, List.isPrefixOf_iff_prefix]
  refine and_congr (by simp) ?_
  constructor
  · rintro ⟨front, rest, hsplit, ⟨behind, rfl⟩, hopens⟩
    rw [List.drop_left] at hopens
    obtain ⟨blanks, behind', hrest, hblanks⟩ := opensCall_iff.mp hopens
    have htail : ∀ c ∈ behind.takeWhile isWordChar, isWordChar c = true := fun _ =>
      List.mem_takeWhile_imp
    have hbehind := List.takeWhile_append_dropWhile (p := isWordChar) (l := behind)
    rw [hrest] at hbehind
    generalize behind.takeWhile isWordChar = tail at htail hbehind
    exact ⟨front, tail, blanks, behind', by rw [hsplit, ← hbehind]; simp, htail, hblanks⟩
  · rintro ⟨front, tail, blanks, behind, hsplit, htail, hblanks⟩
    refine ⟨front, ident.toList ++ (tail ++ (blanks ++ '(' :: behind)), by rw [hsplit]; simp,
      List.prefix_append _ _, ?_⟩
    rw [List.drop_left, List.dropWhile_append_of_pos htail]
    exact opensCall_dropWhile (opensCall_iff.mpr ⟨blanks, behind, rfl, hblanks⟩)

/-! ## Sides -/

/-- The side of an identifier asks for a boundary exactly when there is a word character. -/
def SideAgrees (side : Option Char) : Prop := ∀ c, side = some c → wantsBoundary c = isWordChar c

/-- The identifier, with no word running on over the sides where it begins or ends like one. -/
def StandsAlone (ident text : List Char) : Prop :=
  ∃ front behind, text = front ++ ident ++ behind ∧
    (isWordAt ident.head? = true → isWordAt front.getLast? = false) ∧
      (isWordAt ident.getLast? = true → isWordAt behind.head? = false)

def CalledAlone (ident text : List Char) : Prop :=
  ∃ front blanks behind, text = front ++ ident ++ blanks ++ '(' :: behind ∧
    (∀ c ∈ blanks, isSpace c = true) ∧
      (isWordAt ident.head? = true → isWordAt front.getLast? = false)

theorem leftFree_iff (h : SideAgrees ident.head?) :
    leftFree ident before = true ↔ (isWordAt ident.head? = true → isWordAt before = false) := by
  unfold leftFree
  cases hside : ident.head? with
  | none => simp [isWordAt]
  | some c =>
      rw [hside] at h
      have hc := h c rfl
      cases hword : isWordChar c <;> cases hbefore : isWordAt before <;>
        simp_all [isBoundary, isWordAt]

theorem rightFree_iff (h : SideAgrees ident.getLast?) :
    rightFree ident after = true ↔ (isWordAt ident.getLast? = true → isWordAt after = false) := by
  unfold rightFree
  cases hside : ident.getLast? with
  | none => simp [isWordAt]
  | some c =>
      rw [hside] at h
      have hc := h c rfl
      cases hword : isWordChar c <;> cases hafter : isWordAt after <;>
        simp_all [isBoundary, isWordAt]

theorem leftFree_none_iff :
    leftFree ident none = true ↔
      ∀ c, ident.head? = some c → wantsBoundary c = true → isWordChar c = true := by
  unfold leftFree
  cases ident.head? with
  | none => simp
  | some c => cases hword : isWordChar c <;> simp [isBoundary, isWordAt, hword]

theorem rightFree_none_iff :
    rightFree ident none = true ↔
      ∀ c, ident.getLast? = some c → wantsBoundary c = true → isWordChar c = true := by
  unfold rightFree
  cases ident.getLast? with
  | none => simp
  | some c => cases hword : isWordChar c <;> simp [isBoundary, isWordAt, hword]

theorem leftFree_of_unwanted {c : Char} (hc : ident.head? = some c)
    (h : wantsBoundary c = false) : leftFree ident before = true := by
  simp [leftFree, hc, h]

theorem rightFree_of_unwanted {c : Char} (hc : ident.getLast? = some c)
    (h : wantsBoundary c = false) : rightFree ident after = true := by
  simp [rightFree, hc, h]

/-! ## Texts that tell the two notions apart -/

theorem front_eq_of_cons {a : Char} {word more front behind : List Char} (hword : word ≠ [])
    (ha : word.head? ≠ some a) (h : a :: (word ++ more) = front ++ (word ++ behind))
    (hshort : front.length ≤ 1) : front = [a] := by
  cases front with
  | nil =>
      obtain ⟨c, rest, rfl⟩ := List.exists_cons_of_ne_nil hword
      obtain ⟨rfl, -⟩ := List.cons.inj h
      exact absurd rfl ha
  | cons b front =>
      obtain rfl : front = [] := List.eq_nil_of_length_eq_zero (by simpa using hshort)
      rw [(List.cons.inj h).1]

theorem behind_eq_of_concat {a : Char} {word front behind : List Char} (hword : word ≠ [])
    (ha : word.getLast? ≠ some a) (h : word ++ [a] = front ++ (word ++ behind)) : behind = [a] := by
  have hlength := congrArg List.length h
  simp only [List.length_append, List.length_singleton] at hlength
  have hreverse :
      a :: (word.reverse ++ []) = behind.reverse ++ (word.reverse ++ front.reverse) := by
    simpa using congrArg List.reverse h
  have hbehind := front_eq_of_cons (by simpa using hword) (by simpa using ha) hreverse
    (by rw [List.length_reverse]; omega)
  simpa using congrArg List.reverse hbehind

theorem ne_letter_of_unwanted {c : Char} (h : wantsBoundary c = false) : c ≠ 'a' := by
  rintro rfl
  have hletter : wantsBoundary 'a' = true := by decide +kernel
  rw [hletter] at h
  contradiction

theorem isWordChar_beside_letter {c : Char}
    (h : isWordAt (some c) = true → isWordAt (some 'a') = false) : isWordChar c = false := by
  have hletter : isWordAt (some 'a') = true := by decide +kernel
  rw [hletter] at h
  simpa [isWordAt] using h

/-! ## Word mode and word boundaries -/

theorem containsIdentifier_self_iff {ident : String} :
    containsIdentifier .word ident ident = true ↔
      ident ≠ "" ∧ leftFree ident.toList none = true ∧ rightFree ident.toList none = true := by
  rw [containsIdentifier_word_iff]
  refine and_congr_right fun _ => ⟨?_, fun h => ⟨[], [], by simp, h⟩⟩
  rintro ⟨front, behind, hsplit, h⟩
  have hlength := congrArg List.length hsplit
  simp only [List.length_append] at hlength
  obtain rfl : front = [] := List.eq_nil_of_length_eq_zero (by omega)
  obtain rfl : behind = [] := List.eq_nil_of_length_eq_zero (by omega)
  exact h

theorem standsAlone_self (ident : List Char) : StandsAlone ident ident :=
  ⟨[], [], by simp, fun _ => rfl, fun _ => rfl⟩

theorem containsIdentifier_iff_standsAlone {ident : String} (h : ident ≠ "") :
    (∀ text, containsIdentifier .word text ident = true ↔
        StandsAlone ident.toList text.toList) ↔
      SideAgrees ident.toList.head? ∧ SideAgrees ident.toList.getLast? := by
  have hchars : ident.toList ≠ [] := by simpa using h
  constructor
  · intro hall
    obtain ⟨-, hleft, hright⟩ :=
      containsIdentifier_self_iff.mp ((hall ident).mpr (standsAlone_self _))
    constructor
    · intro c hc
      cases hwants : wantsBoundary c with
      | true => exact (leftFree_none_iff.mp hleft c hc hwants).symm
      | false =>
          -- A letter in front cuts the word, and the search would not mind.
          have hne : ident.toList.head? ≠ some 'a' := by
            simpa [hc] using ne_letter_of_unwanted hwants
          have hfound : containsIdentifier .word ("a" ++ ident) ident = true :=
            containsIdentifier_word_iff.mpr
              ⟨h, ['a'], [], by simp, leftFree_of_unwanted hc hwants, hright⟩
          obtain ⟨front, behind, hsplit, hfree, -⟩ := (hall _).mp hfound
          have hlength := congrArg List.length hsplit
          rw [String.toList_append, List.append_assoc front] at hsplit
          simp only [String.toList_append, List.length_append, String.reduceToList,
            List.length_singleton] at hlength
          have hcons : 'a' :: (ident.toList ++ []) = front ++ (ident.toList ++ behind) := by
            simpa using hsplit
          obtain rfl := front_eq_of_cons hchars hne hcons (by omega)
          rw [hc] at hfree
          exact (isWordChar_beside_letter hfree).symm
    · intro c hc
      cases hwants : wantsBoundary c with
      | true => exact (rightFree_none_iff.mp hright c hc hwants).symm
      | false =>
          have hne : ident.toList.getLast? ≠ some 'a' := by
            simpa [hc] using ne_letter_of_unwanted hwants
          have hfound : containsIdentifier .word (ident ++ "a") ident = true :=
            containsIdentifier_word_iff.mpr
              ⟨h, [], ['a'], by simp, hleft, rightFree_of_unwanted hc hwants⟩
          obtain ⟨front, behind, hsplit, -, hfree⟩ := (hall _).mp hfound
          rw [String.toList_append, List.append_assoc front] at hsplit
          obtain rfl := behind_eq_of_concat hchars hne (by simpa using hsplit)
          rw [hc] at hfree
          exact (isWordChar_beside_letter hfree).symm
  · rintro ⟨hhead, hlast⟩ text
    simp only [containsIdentifier_word_iff, leftFree_iff hhead, rightFree_iff hlast, StandsAlone,
      ne_eq, h, not_false_eq_true, true_and]

theorem hasCall_iff_calledAlone {ident : String} (h : ident ≠ "") :
    (∀ text, hasCall .word text ident = true ↔ CalledAlone ident.toList text.toList) ↔
      SideAgrees ident.toList.head? := by
  have hchars : ident.toList ≠ [] := by simpa using h
  constructor
  · intro hall c hc
    cases hwants : wantsBoundary c with
    | true =>
        -- Called at the start of the text, where nothing runs on.
        have halone : CalledAlone ident.toList (ident ++ "(").toList :=
          ⟨[], [], [], by simp, by simp, fun _ => rfl⟩
        obtain ⟨-, front, blanks, behind, hsplit, -, hleft⟩ :=
          hasCall_word_iff.mp ((hall _).mpr halone)
        have hlength := congrArg List.length hsplit
        simp at hlength
        obtain rfl : front = [] := List.eq_nil_of_length_eq_zero (by omega)
        exact (leftFree_none_iff.mp hleft c hc hwants).symm
    | false =>
        have hne : ident.toList.head? ≠ some 'a' := by
          simpa [hc] using ne_letter_of_unwanted hwants
        have hfound : hasCall .word ("a" ++ ident ++ "(") ident = true :=
          hasCall_word_iff.mpr
            ⟨h, ['a'], [], [], by simp, by simp, leftFree_of_unwanted hc hwants⟩
        obtain ⟨front, blanks, behind, hsplit, -, hfree⟩ := (hall _).mp hfound
        have hlength := congrArg List.length hsplit
        simp at hlength
        have hcons : 'a' :: (ident.toList ++ ['(']) =
            front ++ (ident.toList ++ (blanks ++ '(' :: behind)) := by
          simpa using hsplit
        obtain rfl := front_eq_of_cons hchars hne hcons (by omega)
        rw [hc] at hfree
        exact (isWordChar_beside_letter hfree).symm
  · intro hhead text
    simp only [hasCall_word_iff, leftFree_iff hhead, CalledAlone, ne_eq, h, not_false_eq_true,
      true_and]

/-- Word mode finds what stands on word boundaries, for exactly those identifiers at whose ends the
two notions of a word character agree; such an identifier is found in itself. -/
theorem word_mode_respects_boundaries {ident : String} (h : ident ≠ "") :
    ((∀ text, containsIdentifier .word text ident = true ↔
          StandsAlone ident.toList text.toList) ↔
        SideAgrees ident.toList.head? ∧ SideAgrees ident.toList.getLast?) ∧
      ((∀ text, hasCall .word text ident = true ↔ CalledAlone ident.toList text.toList) ↔
        SideAgrees ident.toList.head?) ∧
      (SideAgrees ident.toList.head? ∧ SideAgrees ident.toList.getLast? →
        containsIdentifier .word ident ident = true) := by
  refine ⟨containsIdentifier_iff_standsAlone h, hasCall_iff_calledAlone h, fun hagree => ?_⟩
  exact ((containsIdentifier_iff_standsAlone h).mpr hagree ident).mpr (standsAlone_self _)

theorem word_mode_respects_boundaries_of_operator :
    "operator+" ≠ "" ∧
      (∀ text, containsIdentifier .word text "operator+" = true ↔
        StandsAlone "operator+".toList text.toList) ∧
      (∀ text, hasCall .word text "operator+" = true ↔
        CalledAlone "operator+".toList text.toList) ∧
      containsIdentifier .word "operator+" "operator+" = true := by
  have hhead : SideAgrees "operator+".toList.head? := by
    rintro c ⟨⟩
    decide +kernel
  have hlast : SideAgrees "operator+".toList.getLast? := by
    rintro c ⟨⟩
    decide +kernel
  have hne : "operator+" ≠ "" := by decide
  obtain ⟨hcontains, hcall, hself⟩ := word_mode_respects_boundaries hne
  exact ⟨hne, hcontains.mpr ⟨hhead, hlast⟩, hcall.mpr hhead, hself ⟨hhead, hlast⟩⟩

/-- A superscript two counts as alphanumeric, so it asks for a boundary on each side, but it is no
word character, so there is none at the ends of the text. -/
theorem superscript_is_missed :
    StandsAlone "²".toList "²".toList ∧ containsIdentifier .word "²" "²" = false :=
  ⟨standsAlone_self _, by decide +kernel⟩

end SourceContract.Matching
