import SourceContract.Proofs.Matching.Word
import SourceContract.Proofs.Pattern.Escape
import SourceContract.Proofs.Pattern.Search

/-!
# Identifiers and calls as patterns

The questions about identifiers and calls can be put as patterns: the identifier with
its characters escaped, a boundary on the sides that ask for one, and for a call the
white space and the parenthesis behind it.  Such a pattern is refused for its size or not
at all, and searching with it gives the answer that looking for the identifier directly
gives.
-/

namespace SourceContract.Matching

open Text Pattern

variable {ident text : String} {mode : MatchMode}

/-! ## The patterns -/

def boundaryMark (side : Option Char) : List Char :=
  if side.any wantsBoundary then ['\\', 'b'] else []

def callBehind : List Char := ['\\', 's', '*'] ++ ['\\', '(']

def writtenCall : MatchMode → List Char → List Char
  | .literal, ident => escaped ident ++ (['\\', 'w', '*'] ++ callBehind)
  | .word, ident => boundaryMark ident.head? ++ (escaped ident ++ callBehind)

def writtenWord (ident : List Char) : List Char :=
  boundaryMark ident.head? ++ (escaped ident ++ boundaryMark ident.getLast?)

def callPattern (mode : MatchMode) (ident : String) : String :=
  String.ofList (writtenCall mode ident.toList)

def wordPattern (ident : String) : String := String.ofList (writtenWord ident.toList)

/-! ## What they mean -/

def boundaryParts (side : Option Char) : List Regex :=
  if side.any wantsBoundary then [.look (.boundary true)] else []

def anyOf (set : CharSet) : Regex := .repetition 0 none true (.set set)

def behindParts : List Regex := anyOf spaces :: Regex.chars ['(']

def callParts : MatchMode → List Char → List Regex
  | .literal, ident => Regex.chars ident ++ anyOf wordChars :: behindParts
  | .word, ident => boundaryParts ident.head? ++ (Regex.chars ident ++ behindParts)

def wordParts (ident : List Char) : List Regex :=
  boundaryParts ident.head? ++ (Regex.chars ident ++ boundaryParts ident.getLast?)

def callRegex (mode : MatchMode) (ident : String) : Regex :=
  Regex.ofList (callParts mode ident.toList)

def wordRegex (ident : String) : Regex := Regex.ofList (wordParts ident.toList)

theorem readsAs_boundaryMark (side : Option Char) :
    ReadsAs (boundaryMark side) (boundaryParts side) := by
  unfold boundaryMark boundaryParts
  split
  · exact .wordBoundary
  · exact .nil

theorem readsAs_callBehind : ReadsAs callBehind behindParts :=
  ReadsAs.spaces.append (.metaChar (by decide))

theorem readsAs_writtenCall (mode : MatchMode) (ident : List Char) :
    ReadsAs (writtenCall mode ident) (callParts mode ident) := by
  cases mode with
  | literal => exact (readsAs_escaped ident).append (ReadsAs.words.append readsAs_callBehind)
  | word =>
      exact (readsAs_boundaryMark _).append ((readsAs_escaped ident).append readsAs_callBehind)

theorem readsAs_writtenWord (ident : List Char) : ReadsAs (writtenWord ident) (wordParts ident) :=
  (readsAs_boundaryMark _).append ((readsAs_escaped ident).append (readsAs_boundaryMark _))

theorem compile_eq {pattern : String} {r : Regex} (h : Regex.ofText pattern = .ok r) :
    Pattern.compile pattern =
      if r.isTooLarge then .error (.tooLarge sizeLimit) else .ok (Pattern.ofRegex r) := by
  rw [Pattern.compile, h]

theorem compile_callPattern : Pattern.compile (callPattern mode ident) =
    if (callRegex mode ident).isTooLarge then .error (.tooLarge sizeLimit)
    else .ok (Pattern.ofRegex (callRegex mode ident)) :=
  compile_eq (readsAs_writtenCall mode ident.toList).ofText

theorem compile_wordPattern : Pattern.compile (wordPattern ident) =
    if (wordRegex ident).isTooLarge then .error (.tooLarge sizeLimit)
    else .ok (Pattern.ofRegex (wordRegex ident)) :=
  compile_eq (readsAs_writtenWord ident.toList).ofText

/-! ## What they find -/

theorem matches_boundaryParts_iff {side : Option Char} {p q : Point} :
    (Regex.ofList (boundaryParts side)).Matches p q ↔
      p = q ∧ (side.any wantsBoundary = true → isBoundary p.before p.rest.head? = true) := by
  have hside : ∀ o : Option Char, wordSide true o = isWordAt o := fun o => by cases o <;> rfl
  unfold boundaryParts
  split
  next h => simp [h, Regex.ofList, Regex.Matches, Look.HoldsAt, Look.holds, isBoundary, hside]
  next h => simp [h, Regex.ofList, Regex.Matches]

theorem exists_matches_behind_iff {p : Point} :
    (∃ q, (Regex.ofList behindParts).Matches p q) ↔ opensCall p.rest = true := by
  rw [opensCall_iff]
  simp only [behindParts, anyOf, matches_ofList_cons, matches_repetition_set_iff,
    matches_chars_iff]
  constructor
  · rintro ⟨q, m, ⟨blanks, rest, hp, hblanks, rfl⟩, behind, rfl, rfl⟩
    exact ⟨blanks, behind, hp, hblanks⟩
  · rintro ⟨blanks, behind, hp, hblanks⟩
    exact ⟨_, _, ⟨blanks, _, hp, hblanks, rfl⟩, behind, rfl, rfl⟩

/-- Taking as many word characters as there are leaves the parenthesis in reach if any number of
them does. -/
theorem exists_matches_literal_iff {p : Point} :
    (∃ q, (callRegex .literal ident).Matches p q) ↔
      callAt ident.toList p.before p.rest = true := by
  simp only [callRegex, callParts, anyOf, matches_ofList_append, matches_ofList_cons,
    matches_repetition_set_iff, matches_chars_iff]
  rw [callAt, Bool.and_eq_true, List.isPrefixOf_iff_prefix]
  constructor
  · rintro ⟨q, _, ⟨rest, hp, rfl⟩, _, ⟨tail, rest', rfl, htail, rfl⟩, hbehind⟩
    rw [hp, List.drop_left]
    refine ⟨List.prefix_append _ _, ?_⟩
    have htail : ∀ c ∈ tail, isWordChar c = true := htail
    rw [List.dropWhile_append_of_pos htail]
    exact opensCall_dropWhile (exists_matches_behind_iff.mp ⟨q, hbehind⟩)
  · rintro ⟨⟨rest, hp⟩, hopens⟩
    rw [← hp, List.drop_left] at hopens
    obtain ⟨q, hbehind⟩ := exists_matches_behind_iff.mpr (show opensCall (Point.rest
      ((p.past ident.toList rest).past (rest.takeWhile isWordChar) (rest.dropWhile isWordChar)))
      = true from hopens)
    exact ⟨q, _, ⟨rest, hp.symm, rfl⟩, _, ⟨_, _, (List.takeWhile_append_dropWhile).symm,
      fun c hc => List.mem_takeWhile_imp hc, rfl⟩, hbehind⟩

theorem leftFree_iff_boundary {ident rest : List Char} {before : Option Char} :
    leftFree ident before = true ↔
      (ident.head?.any wantsBoundary = true → isBoundary before (ident ++ rest).head? = true) := by
  cases ident with
  | nil => simp [leftFree]
  | cons c ident => cases h : wantsBoundary c <;> simp [leftFree, h]

theorem rightFree_iff_boundary {ident : List Char} {before after : Option Char} :
    rightFree ident after = true ↔
      (ident.getLast?.any wantsBoundary = true →
        isBoundary (ident.getLast?.or before) after = true) := by
  unfold rightFree
  cases ident.getLast? with
  | none => simp
  | some c => cases h : wantsBoundary c <;> simp [h]

theorem exists_matches_wordCall_iff {p : Point} :
    (∃ q, (callRegex .word ident).Matches p q) ↔
      wordCallAt ident.toList p.before p.rest = true := by
  simp only [callRegex, callParts, matches_ofList_append, matches_boundaryParts_iff,
    matches_chars_iff]
  rw [wordCallAt, Bool.and_eq_true, Bool.and_eq_true, List.isPrefixOf_iff_prefix]
  constructor
  · rintro ⟨q, _, ⟨rfl, hboundary⟩, _, ⟨rest, hp, rfl⟩, hbehind⟩
    rw [hp] at hboundary ⊢
    rw [List.drop_left]
    exact ⟨⟨List.prefix_append _ _, leftFree_iff_boundary.mpr hboundary⟩,
      exists_matches_behind_iff.mp ⟨q, hbehind⟩⟩
  · rintro ⟨⟨⟨rest, hp⟩, hleft⟩, hopens⟩
    rw [← hp, List.drop_left] at hopens
    obtain ⟨q, hbehind⟩ := exists_matches_behind_iff.mpr
      (show opensCall (p.past ident.toList rest).rest = true from hopens)
    exact ⟨q, p, ⟨rfl, hp ▸ leftFree_iff_boundary.mp hleft⟩, _, ⟨rest, hp.symm, rfl⟩, hbehind⟩

theorem exists_matches_word_iff {p : Point} :
    (∃ q, (wordRegex ident).Matches p q) ↔ wordAt ident.toList p.before p.rest = true := by
  simp only [wordRegex, wordParts, matches_ofList_append, matches_boundaryParts_iff,
    matches_chars_iff]
  rw [wordAt, Bool.and_eq_true, Bool.and_eq_true, List.isPrefixOf_iff_prefix]
  constructor
  · rintro ⟨_, _, ⟨rfl, hleft⟩, _, ⟨rest, hp, rfl⟩, rfl, hright⟩
    rw [hp] at hleft ⊢
    rw [List.drop_left]
    exact ⟨⟨List.prefix_append _ _, leftFree_iff_boundary.mpr hleft⟩,
      rightFree_iff_boundary.mpr hright⟩
  · rintro ⟨⟨⟨rest, hp⟩, hleft⟩, hright⟩
    rw [← hp, List.drop_left] at hright
    exact ⟨_, p, ⟨rfl, hp ▸ leftFree_iff_boundary.mp hleft⟩, _, ⟨rest, hp.symm, rfl⟩, rfl,
      rightFree_iff_boundary.mp hright⟩

theorem somewhere_eq_firstStop {r : Regex} {at_ : Option Char → List Char → Bool}
    (h : ∀ p : Point, (∃ q, r.Matches p q) ↔ at_ p.before p.rest = true) (text : List Char) :
    somewhere at_ none text = ((Pattern.ofRegex r).firstStop none text).isSome := by
  rw [Bool.eq_iff_iff, somewhere_iff, firstStop_isSome_iff]
  refine exists_congr fun front => exists_congr fun rest => ?_
  rw [Option.or_none, exists_and_left, h]

theorem hasCall_eq_firstStop : hasCall mode text ident =
    (!ident.isEmpty &&
      ((Pattern.ofRegex (callRegex mode ident)).firstStop none text.toList).isSome) := by
  cases mode with
  | literal => rw [hasCall, somewhere_eq_firstStop fun p => exists_matches_literal_iff]
  | word => rw [hasCall, somewhere_eq_firstStop fun p => exists_matches_wordCall_iff]

theorem containsIdentifier_word_eq_firstStop : containsIdentifier .word text ident =
    (!ident.isEmpty &&
      ((Pattern.ofRegex (wordRegex ident)).firstStop none text.toList).isSome) := by
  rw [containsIdentifier, somewhere_eq_firstStop fun p => exists_matches_word_iff]

/-- A call in literal mode is the identifier itself, whatever its characters, then word characters,
then white space, then a parenthesis.  The pattern for it is compiled unless it is too large, and
searching with it gives the same answer. -/
theorem literal_call_is_split (text ident : String) :
    (hasCall .literal text ident = true ↔
      ident ≠ "" ∧ ∃ front tail blanks behind,
        text.toList = front ++ ident.toList ++ tail ++ blanks ++ '(' :: behind ∧
          (∀ c ∈ tail, isWordChar c = true) ∧ ∀ c ∈ blanks, isSpace c = true) ∧
      Pattern.compile (callPattern .literal ident) =
        (if (callRegex .literal ident).isTooLarge then .error (.tooLarge sizeLimit)
          else .ok (Pattern.ofRegex (callRegex .literal ident))) ∧
      hasCall .literal text ident =
        (!ident.isEmpty &&
          ((Pattern.ofRegex (callRegex .literal ident)).firstStop none text.toList).isSome) :=
  ⟨hasCall_literal_iff, compile_callPattern, hasCall_eq_firstStop⟩

example : callPattern .literal "operator()" = "operator\\(\\)\\w*\\s*\\(" := by decide +kernel

end SourceContract.Matching
