import Mathlib.Data.Finset.Max
import Mathlib.Data.String.Basic
import Mathlib.Order.Bounds.Defs
import SourceContract.Matching.Identifier
import SourceContract.Proofs.Matching.Occurrence

/-!
# How often a token occurs

The count takes the leftmost occurrence and goes on behind it.  A selection of places
where the token stands, no two of which overlap, is never larger: wherever it begins, the
count has begun no later, so what is left of the selection lies behind the occurrence
that the count has taken.
-/

namespace SourceContract.Matching

variable {token front text : List Char}

/-! ## Selections -/

def StandsAt (token text : List Char) (i : Nat) : Prop := token ≠ [] ∧ token <+: text.drop i

/-- Places at which the token stands, no two so near that they share a character. -/
structure Selection (token text : List Char) (places : Finset Nat) : Prop where
  stands : ∀ i ∈ places, StandsAt token text i
  apart : ∀ i ∈ places, ∀ j ∈ places, i < j → i + token.length ≤ j

theorem StandsAt.fits {i : Nat} (h : StandsAt token text i) :
    i + token.length ≤ text.length := by
  have hlength := h.2.length_le
  have hpos := List.length_pos_iff.mpr h.1
  rw [List.length_drop] at hlength
  omega

theorem StandsAt.append_right {i : Nat} (h : StandsAt token front i) (text : List Char) :
    StandsAt token (front ++ text) i := by
  have hfits := h.fits
  refine ⟨h.1, ?_⟩
  rw [List.drop_append_of_le_length (by omega)]
  exact h.2.trans (List.prefix_append _ _)

theorem StandsAt.of_append {i : Nat} (h : StandsAt token (front ++ text) i)
    (hfits : i + token.length ≤ front.length) : StandsAt token front i := by
  have hprefix := h.2
  rw [List.drop_append_of_le_length (by omega)] at hprefix
  refine ⟨h.1, List.prefix_of_prefix_length_le hprefix (List.prefix_append _ _) ?_⟩
  rw [List.length_drop]
  omega

theorem standsAt_length_iff :
    StandsAt token (front ++ text) front.length ↔ token ≠ [] ∧ token <+: text := by
  rw [StandsAt, List.drop_left]

namespace Selection

variable {places : Finset Nat}

theorem empty : Selection token text ∅ := ⟨by simp, by simp⟩

theorem mono (h : Selection token text places) {fewer : Finset Nat} (hsub : fewer ⊆ places) :
    Selection token text fewer where
  stands i hi := h.stands i (hsub hi)
  apart i hi j hj := h.apart i (hsub hi) j (hsub hj)

theorem eq_empty_of_length_le (h : Selection token text places)
    (hbehind : ∀ i ∈ places, text.length ≤ i) : places = ∅ := by
  refine Finset.eq_empty_of_forall_notMem fun i hi => ?_
  have hfits := (h.stands i hi).fits
  have hpos := List.length_pos_iff.mpr (h.stands i hi).1
  have hlate := hbehind i hi
  omega

theorem append_right (h : Selection token front places) (text : List Char) :
    Selection token (front ++ text) places where
  stands i hi := (h.stands i hi).append_right text
  apart := h.apart

theorem of_append (h : Selection token (front ++ text) places)
    (hfits : ∀ i ∈ places, i + token.length ≤ front.length) : Selection token front places where
  stands i hi := (h.stands i hi).of_append (hfits i hi)
  apart := h.apart

theorem union (h : Selection token text places) {more : Finset Nat}
    (hmore : Selection token text more)
    (hbehind : ∀ i ∈ places, ∀ j ∈ more, i + token.length ≤ j) :
    Selection token text (places ∪ more) where
  stands i hi := (Finset.mem_union.mp hi).elim (h.stands i) (hmore.stands i)
  apart i hi j hj hij := by
    rcases Finset.mem_union.mp hi with hi | hi <;> rcases Finset.mem_union.mp hj with hj | hj
    · exact h.apart i hi j hj hij
    · exact hbehind i hi j hj
    · have hreverse := hbehind j hj i hi
      omega
    · exact hmore.apart i hi j hj hij

theorem singleton {i : Nat} (h : StandsAt token text i) : Selection token text {i} where
  stands j hj := by rwa [Finset.mem_singleton.mp hj]
  apart j hj k hk hjk := by
    rw [Finset.mem_singleton] at hj hk
    omega

end Selection

/-! ## The count of a list -/

/-- No selection behind the characters that are skipped is larger than the count. -/
theorem Selection.card_le_countFrom {places : Finset Nat} {skip : Nat}
    (h : Selection token (front ++ text) places)
    (hbehind : ∀ i ∈ places, front.length + skip ≤ i) :
    places.card ≤ countFrom token skip text := by
  induction text generalizing front skip places with
  | nil =>
      have hempty : places = ∅ := h.eq_empty_of_length_le fun i hi => by
        have hlate := hbehind i hi
        rw [List.append_nil]
        omega
      rw [hempty, Finset.card_empty]
      exact Nat.zero_le _
  | cons c rest ih =>
      have hlength : (front ++ [c]).length = front.length + 1 := List.length_append
      cases skip with
      | succ skip =>
          rw [List.append_cons] at h
          exact ih h fun i hi => by have hlate := hbehind i hi; omega
      | zero =>
          rw [countFrom]
          split
          next hhere =>
              rcases places.eq_empty_or_nonempty with rfl | hsome
              · exact Nat.zero_le _
              · -- What is left behind the first place lies behind the occurrence counted here.
                have hfirst := places.min'_mem hsome
                have hpos := List.length_pos_iff.mpr (h.stands _ hfirst).1
                have hrest : (places.erase (places.min' hsome)).card ≤
                    countFrom token (token.length - 1) rest := by
                  rw [List.append_cons] at h
                  refine ih (h.mono (Finset.erase_subset _ _)) fun i hi => ?_
                  obtain ⟨hne, hi⟩ := Finset.mem_erase.mp hi
                  have hbegin := hbehind _ hfirst
                  have hle := places.min'_le i hi
                  have hapart := h.apart _ hfirst i hi (by omega)
                  omega
                have hcard := Finset.card_erase_add_one hfirst
                omega
          next hnot =>
              rw [List.isPrefixOf_iff_prefix] at hnot
              have hlate : ∀ i ∈ places, (front ++ [c]).length + 0 ≤ i := by
                intro i hi
                have hbegin := hbehind i hi
                have hne : i ≠ front.length := by
                  rintro rfl
                  exact hnot (standsAt_length_iff.mp (h.stands _ hi)).2
                omega
              rw [List.append_cons] at h
              exact ih h hlate

theorem exists_selection_countFrom (htoken : token ≠ []) (front : List Char) (skip : Nat)
    (text : List Char) :
    ∃ places, Selection token (front ++ text) places ∧
      (∀ i ∈ places, front.length + skip ≤ i) ∧ places.card = countFrom token skip text := by
  induction text generalizing front skip with
  | nil => exact ⟨∅, .empty, by simp, by simp [countFrom]⟩
  | cons c rest ih =>
      have hlength : (front ++ [c]).length = front.length + 1 := List.length_append
      cases skip with
      | succ skip =>
          obtain ⟨places, hplaces, hbehind, hcard⟩ := ih (front ++ [c]) skip
          rw [← List.append_cons] at hplaces
          exact ⟨places, hplaces, fun i hi => by have hlate := hbehind i hi; omega, hcard⟩
      | zero =>
          rw [countFrom]
          split
          next hhere =>
              have hpos := List.length_pos_iff.mpr htoken
              obtain ⟨places, hplaces, hbehind, hcard⟩ := ih (front ++ [c]) (token.length - 1)
              rw [← List.append_cons] at hplaces
              have hfirst : StandsAt token (front ++ c :: rest) front.length :=
                standsAt_length_iff.mpr ⟨htoken, List.isPrefixOf_iff_prefix.mp hhere⟩
              have hlate : ∀ i ∈ places, front.length + token.length ≤ i := fun i hi => by
                have hlate := hbehind i hi
                omega
              refine ⟨{front.length} ∪ places, (Selection.singleton hfirst).union hplaces ?_,
                ?_, ?_⟩
              · intro i hi j hj
                rw [Finset.mem_singleton.mp hi]
                exact hlate j hj
              · intro i hi
                rcases Finset.mem_union.mp hi with hi | hi
                · rw [Finset.mem_singleton.mp hi, Nat.add_zero]
                · have hi' := hlate i hi
                  omega
              · have hnew : front.length ∉ places := fun hin => by
                  have hi' := hlate _ hin
                  omega
                rw [← Finset.insert_eq, Finset.card_insert_of_notMem hnew, hcard]
          next =>
              obtain ⟨places, hplaces, hbehind, hcard⟩ := ih (front ++ [c]) 0
              rw [← List.append_cons] at hplaces
              exact ⟨places, hplaces, fun i hi => by have hlate := hbehind i hi; omega, hcard⟩

theorem countFrom_mul_size_le {size : List Char → Nat}
    (hsize : ∀ front behind, size (front ++ behind) = size front + size behind) (skip : Nat)
    (text : List Char) : countFrom token skip text * size token ≤ size (text.drop skip) := by
  induction text generalizing skip with
  | nil =>
      rw [countFrom, Nat.zero_mul]
      exact Nat.zero_le _
  | cons c rest ih =>
      cases skip with
      | succ skip => exact ih skip
      | zero =>
          rw [countFrom, List.drop_zero]
          split
          next hhere =>
              obtain ⟨behind, hsplit⟩ := List.isPrefixOf_iff_prefix.mp hhere
              cases token with
              | nil =>
                  have hnil := hsize [] []
                  rw [List.append_nil] at hnil
                  rw [show size [] = 0 by omega, Nat.mul_zero]
                  exact Nat.zero_le _
              | cons d token =>
                  rw [List.cons_append] at hsplit
                  obtain ⟨rfl, rfl⟩ := List.cons.inj hsplit
                  have hrest := ih token.length
                  rw [List.drop_left] at hrest
                  rw [Nat.add_mul, Nat.one_mul, List.length_cons, Nat.add_sub_cancel,
                    ← List.cons_append, hsize]
                  omega
          next =>
              have hrest := ih 0
              rw [List.drop_zero] at hrest
              rw [← List.singleton_append, hsize]
              exact hrest.trans (Nat.le_add_left _ _)

/-! ## The count of a text -/

theorem count_eq (text token : String) :
    count text token = if token = "" then 0 else countFrom token.toList 0 text.toList := by
  simp [count]

theorem count_empty (text : String) : count text "" = 0 := rfl

theorem isGreatest_count (text token : String) :
    IsGreatest {n | ∃ places, Selection token.toList text.toList places ∧ places.card = n}
      (count text token) := by
  rw [count_eq]
  split
  next hempty =>
      refine ⟨⟨∅, .empty, Finset.card_empty⟩, ?_⟩
      rintro n ⟨places, hplaces, rfl⟩
      have hnone : places = ∅ := Finset.eq_empty_of_forall_notMem fun i hi =>
        (hplaces.stands i hi).1 (by simp [hempty])
      rw [hnone, Finset.card_empty]
  next hsome =>
      have htoken : token.toList ≠ [] := by simpa using hsome
      constructor
      · obtain ⟨places, hplaces, -, hcard⟩ :=
          exists_selection_countFrom htoken [] 0 text.toList
        exact ⟨places, hplaces, hcard⟩
      · rintro n ⟨places, hplaces, rfl⟩
        have hall : Selection token.toList ([] ++ text.toList) places := hplaces
        exact hall.card_le_countFrom fun i _ => Nat.zero_le i

theorem Selection.card_le_count {text token : String} {places : Finset Nat}
    (h : Selection token.toList text.toList places) : places.card ≤ count text token :=
  (isGreatest_count text token).2 ⟨places, h, rfl⟩

theorem add_count_le_count_append (a b token : String) :
    count a token + count b token ≤ count (a ++ b) token := by
  by_cases htoken : token.toList = []
  · obtain rfl : token = "" := by simpa using htoken
    exact Nat.zero_le _
  obtain ⟨⟨left, hleft, hcard⟩, -⟩ := isGreatest_count a token
  obtain ⟨right, hright, hbehind, hcard'⟩ :=
    exists_selection_countFrom htoken a.toList 0 b.toList
  have hapart : ∀ i ∈ left, ∀ j ∈ right, i + token.toList.length ≤ j := fun i hi j hj =>
    ((hleft.stands i hi).fits).trans (hbehind j hj)
  have hdisjoint : Disjoint left right := Finset.disjoint_left.mpr fun i hi hj => by
    have hpos := List.length_pos_iff.mpr htoken
    have hlate := hapart i hi i hj
    omega
  have hboth : Selection token.toList (a ++ b).toList (left ∪ right) := by
    rw [String.toList_append]
    exact (hleft.append_right b.toList).union hright hapart
  have hle := hboth.card_le_count
  rw [Finset.card_union_of_disjoint hdisjoint, hcard, hcard'] at hle
  rwa [count_eq b, if_neg (by simpa using htoken)]

theorem Selection.card_le_one {places : Finset Nat} (h : Selection token text places) {border : Nat}
    (hacross : ∀ i ∈ places, i < border ∧ border < i + token.length) : places.card ≤ 1 := by
  refine Finset.card_le_one.mpr fun i hi j hj => ?_
  have hi' := hacross i hi
  have hj' := hacross j hj
  rcases Nat.lt_trichotomy i j with hlt | heq | hlt
  · have hapart := h.apart i hi j hj hlt
    omega
  · exact heq
  · have hapart := h.apart j hj i hi hlt
    omega

theorem count_append_le (a b token : String) :
    count (a ++ b) token ≤ count a token + count b token + 1 := by
  by_cases htoken : token.toList = []
  · obtain rfl : token = "" := by simpa using htoken
    exact Nat.zero_le _
  obtain ⟨⟨places, hplaces, hcard⟩, -⟩ := isGreatest_count (a ++ b) token
  rw [String.toList_append] at hplaces
  -- A place lies in the first text, in the second, or across the border.
  have hsplit := places.card_filter_add_card_filter_not
    fun i => i + token.toList.length ≤ a.toList.length
  have hleft : (places.filter fun i => i + token.toList.length ≤ a.toList.length).card ≤
      count a token :=
    ((hplaces.mono (Finset.filter_subset _ _)).of_append
      fun i hi => (Finset.mem_filter.mp hi).2).card_le_count
  generalize hlater : (places.filter fun i => ¬ i + token.toList.length ≤ a.toList.length) = later
    at hsplit
  have hrest : Selection token.toList (a.toList ++ b.toList) later :=
    hplaces.mono (by rw [← hlater]; exact Finset.filter_subset _ _)
  have hsplit' := later.card_filter_add_card_filter_not fun i => a.toList.length ≤ i
  have hright : (later.filter fun i => a.toList.length ≤ i).card ≤ count b token := by
    rw [count_eq b, if_neg (by simpa using htoken)]
    exact (hrest.mono (Finset.filter_subset _ _)).card_le_countFrom
      fun i hi => (Finset.mem_filter.mp hi).2
  have hacross : (later.filter fun i => ¬ a.toList.length ≤ i).card ≤ 1 :=
    (hrest.mono (Finset.filter_subset _ _)).card_le_one fun i hi => by
      simp only [← hlater, Finset.mem_filter] at hi
      exact ⟨Nat.lt_of_not_le hi.2, Nat.lt_of_not_le hi.1.2⟩
  omega

theorem count_mul_length_le (text token : String) :
    count text token * token.length ≤ text.length := by
  rw [count_eq]
  split
  next => rw [Nat.zero_mul]; exact Nat.zero_le _
  next => exact countFrom_mul_size_le (fun _ _ => List.length_append) 0 text.toList

theorem count_mul_utf8ByteSize_le (text token : String) :
    count text token * token.utf8ByteSize ≤ text.utf8ByteSize := by
  rw [count_eq]
  split
  next => rw [Nat.zero_mul]; exact Nat.zero_le _
  next =>
      rw [← String.ofList_toList (s := token), ← String.ofList_toList (s := text),
        String.utf8ByteSize_ofList, String.utf8ByteSize_ofList, String.toList_ofList,
        String.toList_ofList]
      exact countFrom_mul_size_le String.utf8Len_append 0 text.toList

theorem count_eq_zero_iff_containsIdentifier (text token : String) :
    count text token = 0 ↔ containsIdentifier .literal text token = false := by
  rw [count_eq_zero_iff, Occurs, ← contains_iff_infix]
  simp [containsIdentifier]

/-- The count is the size of the largest selection of places that do not overlap, so it tells
whether a token is there, is bounded by the lengths, and grows by at most one where texts meet. -/
theorem count_is_optimal (text token : String) :
    IsGreatest {n | ∃ places, Selection token.toList text.toList places ∧ places.card = n}
        (count text token) ∧
      count text "" = 0 ∧
      (count text token = 0 ↔ containsIdentifier .literal text token = false) ∧
      count text token * token.length ≤ text.length ∧
      count text token * token.utf8ByteSize ≤ text.utf8ByteSize ∧
      ∀ more, count text token + count more token ≤ count (text ++ more) token ∧
        count (text ++ more) token ≤ count text token + count more token + 1 :=
  ⟨isGreatest_count text token, count_empty text, count_eq_zero_iff_containsIdentifier text token,
    count_mul_length_le text token, count_mul_utf8ByteSize_le text token, fun more =>
      ⟨add_count_le_count_append text more token, count_append_le text more token⟩⟩

example : count "ababab_abab" "abab" = 2 := by decide

end SourceContract.Matching
