import Mathlib.Data.List.Basic
import SourceContract.Matching.Tally
import SourceContract.Proofs.Matching.Occurrence

/-!
# Word mode against literal mode

Word mode asks for everything that literal mode asks for, and for boundaries on top.
So whatever is found in word mode is found in literal mode, and a tally of the same
items misses no more.
-/

namespace SourceContract

/-! ## Classes that have nothing in common -/

namespace Text.CharSet

def apart (a b : CharSet) : Bool :=
  a.ranges.all fun r => b.ranges.all fun q => q.2 < r.1 || r.2 < q.1

theorem exists_range_of_inRanges {n : Nat} {ranges : List (Nat × Nat)}
    (h : inRanges n ranges = true) : ∃ r ∈ ranges, r.1 ≤ n ∧ n ≤ r.2 := by
  induction ranges with
  | nil => contradiction
  | cons r rest ih =>
      obtain ⟨lo, hi⟩ := r
      rw [inRanges] at h
      split at h
      next => contradiction
      next hlo =>
          by_cases hhi : n ≤ hi
          · exact ⟨(lo, hi), List.mem_cons_self, Nat.le_of_not_lt hlo, hhi⟩
          · obtain ⟨r, hr, hn⟩ := ih (by simpa [hhi] using h)
            exact ⟨r, List.mem_cons_of_mem _ hr, hn⟩

theorem has_eq_false_of_apart {a b : CharSet} (h : a.apart b = true) {c : Char}
    (hc : a.has c = true) : b.has c = false := by
  rw [← Bool.not_eq_true]
  intro hb
  obtain ⟨r, hr, hra, har⟩ := exists_range_of_inRanges hc
  obtain ⟨q, hq, hqb, hbq⟩ := exists_range_of_inRanges hb
  have hrq := List.all_eq_true.mp (List.all_eq_true.mp h r hr) q hq
  have hapart : q.2 < r.1 ∨ r.2 < q.1 := by simpa using hrq
  omega

end Text.CharSet

namespace Matching

open Text

theorem isWordChar_of_isSpace {c : Char} (h : isSpace c = true) : isWordChar c = false :=
  CharSet.has_eq_false_of_apart (a := spaces) (by decide +kernel) h

/-! ## Places in a text -/

theorem somewhere_iff {p : Option Char → List Char → Bool} {before : Option Char}
    {text : List Char} :
    somewhere p before text = true ↔
      ∃ front rest, text = front ++ rest ∧ p (front.getLast?.or before) rest = true := by
  induction text generalizing before with
  | nil =>
      rw [somewhere]
      constructor
      · intro h
        exact ⟨[], [], rfl, h⟩
      · rintro ⟨front, rest, hsplit, h⟩
        obtain ⟨rfl, rfl⟩ := List.append_eq_nil_iff.mp hsplit.symm
        exact h
  | cons c text ih =>
      rw [somewhere, Bool.or_eq_true, ih]
      constructor
      · rintro (h | ⟨front, rest, rfl, h⟩)
        · exact ⟨[], c :: text, rfl, h⟩
        · refine ⟨c :: front, rest, rfl, ?_⟩
          rw [List.getLast?_cons]
          cases hlast : front.getLast? <;> simpa [hlast] using h
      · rintro ⟨front, rest, hsplit, h⟩
        cases front with
        | nil =>
            rw [List.nil_append] at hsplit
            exact Or.inl (hsplit ▸ h)
        | cons d front =>
            obtain ⟨rfl, rfl⟩ := List.cons.inj hsplit
            refine Or.inr ⟨front, rest, rfl, ?_⟩
            rw [List.getLast?_cons] at h
            cases hlast : front.getLast? <;> simpa [hlast] using h

/-! ## From word mode to literal mode -/

/-- What opens a call begins with no word character, so nothing is skipped in front of it. -/
theorem opensCall_dropWhile {rest : List Char} (h : opensCall rest = true) :
    opensCall (rest.dropWhile isWordChar) = true := by
  have hparenthesis : isWordChar '(' = false := by decide +kernel
  cases rest with
  | nil => exact h
  | cons c rest =>
      have hword : isWordChar c = false := by
        by_cases hspace : isSpace c = true
        · exact isWordChar_of_isSpace hspace
        · have hc : c = '(' := by simpa [opensCall, List.dropWhile_cons, hspace] using h
          rw [hc, hparenthesis]
      rwa [List.dropWhile_cons, if_neg (by simp [hword])]

theorem containsIdentifier_literal {text ident : String}
    (h : containsIdentifier .word text ident = true) :
    containsIdentifier .literal text ident = true := by
  simp only [containsIdentifier, Bool.and_eq_true] at h ⊢
  refine ⟨h.1, contains_iff_infix.mpr ?_⟩
  obtain ⟨front, rest, hsplit, hword⟩ := somewhere_iff.mp h.2
  simp only [wordAt, Bool.and_eq_true, List.isPrefixOf_iff_prefix] at hword
  obtain ⟨behind, rfl⟩ := hword.1.1
  exact ⟨front, behind, by rw [hsplit, List.append_assoc]⟩

theorem hasCall_literal {text ident : String} (h : hasCall .word text ident = true) :
    hasCall .literal text ident = true := by
  simp only [hasCall, Bool.and_eq_true] at h ⊢
  refine ⟨h.1, ?_⟩
  obtain ⟨front, rest, hsplit, hcall⟩ := somewhere_iff.mp h.2
  simp only [wordCallAt, Bool.and_eq_true] at hcall
  refine somewhere_iff.mpr ⟨front, rest, hsplit, ?_⟩
  rw [callAt, hcall.1.1, Bool.true_and]
  exact opensCall_dropWhile hcall.2

theorem declaredAndCalled_literal {declaration implementation ident : String}
    (h : declaredAndCalled .word declaration implementation ident = true) :
    declaredAndCalled .literal declaration implementation ident = true := by
  simp only [declaredAndCalled, Bool.and_eq_true] at h ⊢
  exact ⟨containsIdentifier_literal h.1, hasCall_literal h.2⟩

/-! ## Tallies -/

namespace Tally

/-- The tally has found as many items as the other, and misses only items that the other misses. -/
structure Covers (t other : Tally) : Prop where
  found_le : other.found ≤ t.found
  missing_sublist : t.missing.Sublist other.missing

theorem covers_ofItems {α : Type} {p q : α → Bool} (h : ∀ a, p a = true → q a = true)
    (label : α → String) (items : List α) :
    (ofItems q label items).Covers (ofItems p label items) where
  found_le := (List.monotone_filter_right items h).length_le
  missing_sublist := by
    refine List.Sublist.map label (List.monotone_filter_right items fun a ha => ?_)
    rw [Bool.not_eq_true', ← Bool.not_eq_true] at ha ⊢
    exact fun hp => ha (h a hp)

theorem ofMethods_covers (declaration implementation : String) (idents : List String) :
    (ofMethods .literal declaration implementation idents).Covers
      (ofMethods .word declaration implementation idents) :=
  covers_ofItems (fun _ => declaredAndCalled_literal) id idents

theorem ofFields_covers (declaration : String) (owner : Option String) (fields : List String) :
    (ofFields .literal declaration owner fields).Covers
      (ofFields .word declaration owner fields) := by
  refine covers_ofItems (fun field h => ?_) id fields
  rw [Bool.and_eq_true] at h ⊢
  exact ⟨h.1, containsIdentifier_literal h.2⟩

end Tally

end Matching

end SourceContract
