import SourceContract.Matching.Occurrence

/-!
# Where a token occurs

A token occurs in a text when its characters stand there one after the other.  The
search finds every occurrence, and the count is zero only when there is none.
-/

namespace SourceContract.Matching

/-! ## Searching -/

theorem occursIn_iff_infix {token text : List Char} :
    occursIn token text = true ↔ token <:+: text := by
  induction text with
  | nil => rw [occursIn, List.isEmpty_iff, List.infix_nil]
  | cons c rest ih =>
      rw [occursIn, Bool.or_eq_true, ih, List.isPrefixOf_iff_prefix, List.infix_cons_iff]

theorem contains_iff_infix {text token : String} :
    contains text token = true ↔ token.toList <:+: text.toList :=
  occursIn_iff_infix

/-! ## Counting -/

def Occurs (token text : String) : Prop := token ≠ "" ∧ token.toList <:+: text.toList

theorem countFrom_eq_zero_iff {token : List Char} (h : token ≠ []) (text : List Char) :
    countFrom token 0 text = 0 ↔ ¬ token <:+: text := by
  induction text with
  | nil => simp [countFrom, h]
  | cons c rest ih =>
      simp only [countFrom, List.infix_cons_iff, List.isPrefixOf_iff_prefix]
      by_cases hhere : token <+: c :: rest
      · simp [hhere]
      · simp [hhere, ih]

theorem count_eq_zero_iff {text token : String} : count text token = 0 ↔ ¬ Occurs token text := by
  unfold count Occurs
  by_cases hempty : token = ""
  · simp [hempty]
  · have hchars : token.toList ≠ [] := by simpa using hempty
    rw [if_neg (by simpa using hempty), countFrom_eq_zero_iff hchars]
    simp [hempty]

theorem occurrences_cons (text token : String) (tokens : List String) :
    occurrences text (token :: tokens) = count text token + occurrences text tokens := rfl

theorem occurrences_eq_zero_iff {text : String} {tokens : List String} :
    occurrences text tokens = 0 ↔ (tokens.any fun token => count text token != 0) = false := by
  induction tokens with
  | nil => simp [occurrences]
  | cons token rest ih =>
      rw [occurrences_cons, List.any_cons, Nat.add_eq_zero_iff, ih, Bool.or_eq_false_iff]
      simp

end SourceContract.Matching
