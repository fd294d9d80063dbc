import SourceContract.Proofs.Matching.Count
import SourceContract.Proofs.Matching.Word

/-!
# A text as part of another

Whatever literal mode finds in a text, it finds in every text that has it as a part.  A
count needs more than that: text in front of the part can shift all the places that the
count takes.  It does not get smaller, because the count of both together is at least the
sum of the counts.
-/

namespace SourceContract.Matching

variable {a b token ident : String}

/-! ## Texts -/

def IsPart (a b : String) : Prop := a.toList <:+: b.toList

theorem IsPart.exists_eq (h : IsPart a b) : ∃ front behind, b = front ++ a ++ behind := by
  obtain ⟨front, behind, heq⟩ := h
  refine ⟨String.ofList front, String.ofList behind, ?_⟩
  rw [← String.toList_inj]
  simp [← heq]

theorem IsPart.ne_empty (h : IsPart a b) (hne : a ≠ "") : b ≠ "" := by
  rintro rfl
  exact hne (by simpa [IsPart] using h)

theorem IsPart.contains (h : IsPart a b) (hcontains : contains a token = true) :
    contains b token = true := by
  have hpart := contains_iff_infix.mp hcontains
  exact contains_iff_infix.mpr (hpart.trans h)

theorem IsPart.occurs (h : IsPart a b) (hoccurs : Occurs token a) : Occurs token b :=
  ⟨hoccurs.1, hoccurs.2.trans h⟩

/-! ## Identifiers and calls -/

theorem IsPart.containsIdentifier (h : IsPart a b)
    (hfound : containsIdentifier .literal a ident = true) :
    containsIdentifier .literal b ident = true := by
  simp only [Matching.containsIdentifier, Bool.and_eq_true] at hfound ⊢
  exact ⟨hfound.1, h.contains hfound.2⟩

/-- A call keeps its shape, as nothing is said about what stands around it. -/
theorem IsPart.hasCall (h : IsPart a b) (hcall : hasCall .literal a ident = true) :
    hasCall .literal b ident = true := by
  obtain ⟨hne, front, tail, blanks, behind, hsplit, htail, hblanks⟩ := hasCall_literal_iff.mp hcall
  obtain ⟨before, rest, hb⟩ := h
  refine hasCall_literal_iff.mpr
    ⟨hne, before ++ front, tail, blanks, behind ++ rest, ?_, htail, hblanks⟩
  rw [← hb, hsplit]
  simp only [List.append_assoc, List.cons_append]

theorem IsPart.declaredAndCalled {a' b' : String} (h : IsPart a b) (h' : IsPart a' b')
    (hfound : declaredAndCalled .literal a a' ident = true) :
    declaredAndCalled .literal b b' ident = true := by
  simp only [Matching.declaredAndCalled, Bool.and_eq_true] at hfound ⊢
  exact ⟨h.containsIdentifier hfound.1, h'.hasCall hfound.2⟩

/-! ## Counts -/

theorem IsPart.count_le (h : IsPart a b) (token : String) : count a token ≤ count b token := by
  obtain ⟨front, behind, rfl⟩ := h.exists_eq
  calc
    count a token ≤ count front token + count a token := Nat.le_add_left _ _
    _ ≤ count (front ++ a) token := add_count_le_count_append front a token
    _ ≤ count (front ++ a) token + count behind token := Nat.le_add_right _ _
    _ ≤ count (front ++ a ++ behind) token := add_count_le_count_append _ behind token

theorem IsPart.occurrences_le (h : IsPart a b) (tokens : List String) :
    occurrences a tokens ≤ occurrences b tokens := by
  induction tokens with
  | nil => exact Nat.le_refl _
  | cons token rest ih =>
      rw [occurrences_cons, occurrences_cons]
      exact Nat.add_le_add (h.count_le token) ih

example : count "aaaa" "aa" = 2 ∧ count ("a" ++ "aaaa") "aa" = 2 := by decide

/-! ## Tallies -/

namespace Tally

theorem ofItems_map {α β : Type} (f : α → β) (p : β → Bool) (label : β → String)
    (items : List α) :
    ofItems p label (items.map f) = ofItems (fun x => p (f x)) (fun x => label (f x)) items := by
  simp only [ofItems, List.filter_map, List.length_map, List.map_map]
  rfl

theorem ofMethods_covers_part {a' b' : String} (h : IsPart a b) (h' : IsPart a' b')
    (idents : List String) :
    (ofMethods .literal b b' idents).Covers (ofMethods .literal a a' idents) :=
  covers_ofItems (fun _ => h.declaredAndCalled h') id idents

theorem ownerPresent_of_part (h : IsPart a b) {owner : Option String}
    (howner : ownerPresent a owner = true) : ownerPresent b owner = true := by
  cases owner with
  | none => rfl
  | some o => exact h.contains howner

theorem ofFields_covers_part (h : IsPart a b) (owner : Option String) (fields : List String) :
    (ofFields .literal b owner fields).Covers (ofFields .literal a owner fields) := by
  refine covers_ofItems (fun field hfound => ?_) id fields
  rw [Bool.and_eq_true] at hfound ⊢
  exact ⟨ownerPresent_of_part h hfound.1, h.containsIdentifier hfound.2⟩

end Tally

end SourceContract.Matching
