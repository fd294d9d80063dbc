import Mathlib.Data.List.Basic
import SourceContract.FileTree.Basic

/-!
# Joined paths

A path is cut at its slashes.  So the pieces of two paths with a slash between them are
the pieces of the one and then those of the other, and what is still to be followed for
a joined path is what is to be followed for the directory and then for the path.
-/

namespace SourceContract

namespace Path

open String

/-! ## Pieces -/

theorem pieces_append_slash (directory path : String) :
    pieces (directory ++ "/" ++ path) = pieces directory ++ pieces path := by
  have hchars : (directory ++ "/" ++ path).toList = directory.toList ++ '/' :: path.toList := by
    simp
  rw [pieces, pieces, pieces, hchars, List.splitOn_append_cons_self, List.map_append]

theorem slash_notMem_of_mem_pieces {path piece : String} (h : piece ∈ pieces path) :
    '/' ∉ piece.toList := by
  rw [pieces, List.mem_map] at h
  obtain ⟨chars, hchars, rfl⟩ := h
  rw [toList_ofList]
  generalize path.toList = whole at hchars
  induction whole generalizing chars with
  | nil =>
      rw [List.splitOn_nil, List.mem_singleton] at hchars
      simp [hchars]
  | cons c rest ih =>
      obtain ⟨word, words, hwords⟩ := List.exists_cons_of_ne_nil (List.splitOn_ne_nil '/' rest)
      rw [List.splitOn_cons_eq_if_modifyHead, hwords] at hchars
      rw [hwords] at ih
      split at hchars
      next =>
          rcases List.mem_cons.mp hchars with rfl | hchars
          · exact List.not_mem_nil
          · exact ih chars hchars
      next hc =>
          have hne : c ≠ '/' := by simpa using hc
          rcases List.mem_cons.mp hchars with rfl | hchars
          · have hword := ih word List.mem_cons_self
            simp [hword, hne.symm]
          · exact ih chars (List.mem_cons_of_mem _ hchars)

/-! ## Slashes at the ends -/

theorem hasEndSlash_iff {path : String} :
    hasEndSlash path = true ↔ ['/'] <:+ path.toList := by
  simp [hasEndSlash, List.singleton_suffix_iff_getLast?_eq_some]

theorem isAbsolute_iff {path : String} : isAbsolute path = true ↔ ['/'] <+: path.toList := by
  rw [isAbsolute, beq_iff_eq]
  cases path.toList with
  | nil => simp
  | cons c rest => simp [eq_comm]

theorem hasEndSlash_append (directory : String) {path : String} (h : path ≠ "") :
    hasEndSlash (directory ++ path) = hasEndSlash path := by
  have hchars : path.toList ≠ [] := by simpa using h
  rw [Bool.eq_iff_iff, hasEndSlash_iff, hasEndSlash_iff, toList_append,
    List.singleton_suffix_iff_getLast?_eq_some, List.singleton_suffix_iff_getLast?_eq_some,
    List.getLast?_append_of_ne_nil _ hchars]

theorem isAbsolute_append {directory : String} (h : directory ≠ "") (path : String) :
    isAbsolute (directory ++ path) = isAbsolute directory := by
  have hchars : directory.toList ≠ [] := by simpa using h
  obtain ⟨c, rest, hdirectory⟩ := List.exists_cons_of_ne_nil hchars
  rw [Bool.eq_iff_iff, isAbsolute_iff, isAbsolute_iff, toList_append, hdirectory]
  simp

theorem isAbsolute_join {directory : String} (h : directory ≠ "") {path : String}
    (hpath : isAbsolute path = false) :
    isAbsolute (join directory path) = isAbsolute directory := by
  have hnonempty : directory.isEmpty = false := by simpa using h
  rw [join, if_neg (by simp [hpath]), hnonempty, Bool.or_false]
  split
  next => exact isAbsolute_append h path
  next =>
      rw [String.append_assoc]
      exact isAbsolute_append h _

theorem withoutEndSlash_eq_self {path : String} (h : endsInSlash path = false) :
    withoutEndSlash path = path := by
  rw [withoutEndSlash, h, if_neg Bool.false_ne_true]

/-! ## Words -/

def words (path : String) : List String := (pieces path).filter fun p => !p.isEmpty

theorem words_empty : words "" = [] := by
  simp [words, pieces]

theorem words_append_slash (directory path : String) :
    words (directory ++ "/" ++ path) = words directory ++ words path := by
  rw [words, pieces_append_slash, List.filter_append, words, words]

theorem words_join {directory path : String} (hpath : isAbsolute path = false) :
    words (join directory path) = words directory ++ words path := by
  rw [join, if_neg (by simp [hpath])]
  split
  next h =>
      rcases Bool.or_eq_true_iff.mp h with hslash | hempty
      · -- The slash that would stand between the two ends the directory already.
        obtain ⟨front, hfront⟩ := hasEndSlash_iff.mp hslash
        have hdirectory : directory = ofList front ++ "/" ++ "" := by
          rw [← ofList_toList (s := directory), ← hfront]
          simp
        have hwords : words directory = words (ofList front) := by
          rw [hdirectory, words_append_slash, words_empty, List.append_nil]
        rw [hwords, ← words_append_slash, hdirectory, String.append_empty]
      · obtain rfl := String.isEmpty_iff.mp hempty
        rw [String.empty_append, words_empty, List.nil_append]
  next => exact words_append_slash directory path

/-! ## Parents -/

theorem mem_of_mem_trimEnd {ps : List String} {piece : String} (h : piece ∈ trimEnd ps) :
    piece ∈ ps := by
  have hrest := (List.dropWhile_sublist isVoid).subset (List.mem_reverse.mp h)
  exact List.mem_reverse.mp hrest

theorem trimEnd_eq_nil_or (ps : List String) :
    trimEnd ps = [] ∨ ∃ front piece, trimEnd ps = front ++ [piece] ∧ isVoid piece = false := by
  unfold trimEnd
  cases hrest : ps.reverse.dropWhile isVoid with
  | nil => exact Or.inl rfl
  | cons piece rest =>
      have hhead := List.head?_dropWhile_not isVoid ps.reverse
      exact Or.inr ⟨rest.reverse, piece, by simp, by simpa [hrest] using hhead⟩

theorem hasEndSlash_intercalate (front : List String) {piece : String} (hpiece : piece ≠ "") :
    hasEndSlash ("/".intercalate (front ++ [piece])) = hasEndSlash piece := by
  cases front with
  | nil => rw [List.nil_append, intercalate_singleton]
  | cons first rest =>
      rw [intercalate_append_of_ne_nil (List.cons_ne_nil _ _) (List.cons_ne_nil _ _),
        intercalate_singleton, hasEndSlash_append _ hpiece]

theorem endsInSlash_parent {path parent : String} (h : parent? path = some parent) :
    endsInSlash parent = false := by
  have htop : endsInSlash "/" = false := rfl
  have hempty : endsInSlash "" = false := rfl
  have hhere : endsInSlash "." = false := rfl
  unfold parent? at h
  split at h
  next => contradiction
  next =>
      obtain rfl := Option.some.inj h
      split
      next => exact htop
      next => exact hempty
  next =>
      obtain rfl := Option.some.inj h
      rcases trimEnd_eq_nil_or (trimEnd (pieces path)).dropLast with
        hnil | ⟨front, piece, hkept, hvoid⟩
      · rw [hnil]
        dsimp only
        split
        next => exact htop
        next => exact hhere
      · have hlast : piece ∈ trimEnd (trimEnd (pieces path)).dropLast := by simp [hkept]
        have hmem : piece ∈ pieces path :=
          mem_of_mem_trimEnd ((List.dropLast_sublist _).subset (mem_of_mem_trimEnd hlast))
        have hpiece : piece ≠ "" := by
          rintro rfl
          contradiction
        have hends : hasEndSlash piece = false := by
          rw [← Bool.not_eq_true, hasEndSlash_iff]
          exact fun hsuffix => slash_notMem_of_mem_pieces hmem (hsuffix.subset (by simp))
        have hne : front ++ [piece] ≠ [] := by simp
        rw [hkept, endsInSlash]
        split
        next hnil => exact absurd hnil hne
        next => rw [hasEndSlash_intercalate front hpiece, hends, Bool.false_and]

end Path

namespace FileTree

open SourceContract.Path

theorem steps_eq (path : String) :
    steps path = words path ++ if hasEndSlash path then ["."] else [] := by
  rw [steps, words]
  split <;> simp

/-- Beyond the words of the directory, nothing is followed but pieces of the path and dots. -/
theorem steps_join (directory : String) {path : String} (hpath : isAbsolute path = false) :
    ∃ tail, steps (join directory path) = words directory ++ tail ∧
      ∀ name ∈ tail, name ∈ pieces path ∨ name = "." := by
  refine ⟨words path ++ if hasEndSlash (join directory path) then ["."] else [], ?_, ?_⟩
  · rw [steps_eq, words_join hpath, List.append_assoc]
  · intro name hname
    rcases List.mem_append.mp hname with hword | hdot
    · exact Or.inl (List.mem_of_mem_filter hword)
    · split at hdot
      · exact Or.inr (List.mem_singleton.mp hdot)
      · exact absurd hdot List.not_mem_nil

theorem mem_steps {path name : String} (h : name ∈ steps path) :
    name ∈ pieces path ∨ name = "." := by
  rw [steps] at h
  split at h
  · rcases List.mem_append.mp h with hword | hdot
    · exact Or.inl (List.mem_of_mem_filter hword)
    · exact Or.inr (List.mem_singleton.mp hdot)
  · exact Or.inl (List.mem_of_mem_filter h)

end FileTree

end SourceContract
