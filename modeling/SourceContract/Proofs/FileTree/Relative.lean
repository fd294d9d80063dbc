import SourceContract.Proofs.FileTree.Path

/-!
# What is left of a path

The path of a file below a directory is the path of the directory with one name after the
other joined to it.  What is left of it below another directory names the same file again:
joined to that directory it has the same pieces, but for empty ones and dots.
-/

namespace SourceContract

namespace Path

open String

variable {directory path left base : String} {names ps : List String}

/-! ## Names of files -/

structure IsFileName (name : String) : Prop where
  nonempty : name ≠ ""
  not_here : name ≠ "."
  not_up : name ≠ ".."
  no_slash : '/' ∉ name.toList
  no_null : '\x00' ∉ name.toList

namespace IsFileName

variable {name : String}

theorem iff_and : IsFileName name ↔
    name ≠ "" ∧ name ≠ "." ∧ name ≠ ".." ∧ '/' ∉ name.toList ∧ '\x00' ∉ name.toList :=
  ⟨fun ⟨h₁, h₂, h₃, h₄, h₅⟩ => ⟨h₁, h₂, h₃, h₄, h₅⟩,
    fun ⟨h₁, h₂, h₃, h₄, h₅⟩ => ⟨h₁, h₂, h₃, h₄, h₅⟩⟩

instance : Decidable (IsFileName name) := decidable_of_iff _ iff_and.symm

theorem words_eq (h : IsFileName name) : words name = [name] := by
  simp [words, pieces, List.splitOn_eq_singleton h.no_slash, h.nonempty]

theorem isAbsolute_eq (h : IsFileName name) : isAbsolute name = false := by
  rw [← Bool.not_eq_true, isAbsolute_iff]
  exact fun hslash => h.no_slash (hslash.subset (by simp))

theorem hasEndSlash_eq (h : IsFileName name) : hasEndSlash name = false := by
  rw [← Bool.not_eq_true, hasEndSlash_iff]
  exact fun hslash => h.no_slash (hslash.subset (by simp))

end IsFileName

/-! ## Pieces and characters -/

theorem pieces_intercalate (hne : ps ≠ []) (h : ∀ p ∈ ps, '/' ∉ p.toList) :
    pieces ("/".intercalate ps) = ps := by
  have hchars : ("/".intercalate ps).toList.splitOn '/' = ps.map toList := by
    rw [toList_intercalate]
    refine List.splitOn_intercalate '/' ?_ (by simpa using hne)
    intro chars hchars
    obtain ⟨p, hp, rfl⟩ := List.mem_map.mp hchars
    exact h p hp
  rw [pieces, hchars, List.map_map]
  simp [Function.comp_def]

theorem intercalate_pieces (path : String) : "/".intercalate (pieces path) = path := by
  rw [← toList_inj, toList_intercalate, pieces, List.map_map]
  simp [Function.comp_def, List.intercalate_splitOn]

theorem mem_toList_iff {c : Char} (hc : c ≠ '/') :
    c ∈ path.toList ↔ ∃ p ∈ pieces path, c ∈ p.toList := by
  have hall : ∀ ps : List String, c ∈ ("/".intercalate ps).toList ↔ ∃ p ∈ ps, c ∈ p.toList := by
    intro ps
    induction ps with
    | nil => simp
    | cons p ps ih =>
        cases ps with
        | nil => simp
        | cons q ps =>
            rw [intercalate_cons_cons]
            simp only [toList_append, List.mem_append, ih]
            simp [hc]
  conv_lhs => rw [← intercalate_pieces path]
  exact hall _

/-! ## The pieces that stand for something -/

def namePieces (path : String) : List String := (pieces path).filter fun p => !isVoid p

theorem namePieces_eq (path : String) :
    namePieces path = (words path).filter fun p => p != "." := by
  rw [namePieces, words, List.filter_filter]
  refine List.filter_congr fun p _ => ?_
  rw [isVoid, Bool.not_or, Bool.and_comm]
  rfl

theorem namePieces_join (h : isAbsolute path = false) :
    namePieces (join directory path) = namePieces directory ++ namePieces path := by
  rw [namePieces_eq, words_join h, List.filter_append, ← namePieces_eq, ← namePieces_eq]

theorem namePieces_names (directory : String) :
    (Path.names directory).filter (fun p => !isVoid p) = namePieces directory := by
  have hown : ((pieces directory).filter fun p => !isVoid p).filter (fun p => !isVoid p) =
      namePieces directory := by
    simp [namePieces]
  unfold Path.names
  split
  next =>
      rw [List.filter_cons_of_neg (by decide)]
      exact hown
  next => exact hown

theorem mem_toList_iff_namePieces {c : Char} (hc : c ≠ '/') (hdot : c ≠ '.') :
    c ∈ path.toList ↔ ∃ p ∈ namePieces path, c ∈ p.toList := by
  rw [mem_toList_iff hc]
  constructor
  · rintro ⟨p, hp, hcp⟩
    refine ⟨p, List.mem_filter.mpr ⟨hp, ?_⟩, hcp⟩
    have hempty : p ≠ "" := by rintro rfl; simp at hcp
    have hhere : p ≠ "." := by rintro rfl; simp [hdot] at hcp
    simp [isVoid, hempty, hhere]
  · rintro ⟨p, hp, hcp⟩
    exact ⟨p, List.mem_of_mem_filter hp, hcp⟩

/-! ## What is left -/

theorem filter_dropWhile_isVoid (ps : List String) :
    (ps.dropWhile isVoid).filter (fun p => !isVoid p) = ps.filter fun p => !isVoid p := by
  induction ps with
  | nil => rfl
  | cons p ps ih =>
      rw [List.dropWhile_cons]
      split
      next h => rw [ih, List.filter_cons_of_neg (by simp [h])]
      next => rfl

theorem filter_trimEnd (ps : List String) :
    (trimEnd ps).filter (fun p => !isVoid p) = ps.filter fun p => !isVoid p := by
  rw [trimEnd, List.filter_reverse, filter_dropWhile_isVoid, List.filter_reverse,
    List.reverse_reverse]

theorem trimEnd_prefix (ps : List String) : trimEnd ps <+: ps := by
  rw [trimEnd, ← List.reverse_suffix, List.reverse_reverse]
  exact List.dropWhile_suffix _

theorem afterNames_spec {ns rest : List String} (h : afterNames ns ps = some rest) :
    ps.filter (fun p => !isVoid p) =
        ns.filter (fun p => !isVoid p) ++ rest.filter (fun p => !isVoid p) ∧
      rest <:+ ps ∧ ∀ p ∈ rest.head?, isVoid p = false := by
  induction ps generalizing ns with
  | nil =>
      cases ns with
      | nil =>
          obtain rfl : [] = rest := by simpa [afterNames] using h
          exact ⟨rfl, List.suffix_refl _, by simp⟩
      | cons n ns => simp [afterNames] at h
  | cons p ps ih =>
      cases ns with
      | nil =>
          obtain rfl : (p :: ps).dropWhile isVoid = rest := by simpa [afterNames] using h
          have hhead := List.head?_dropWhile_not isVoid (p :: ps)
          refine ⟨by rw [filter_dropWhile_isVoid]; rfl, List.dropWhile_suffix _, fun q hq => ?_⟩
          simpa [Option.mem_def.mp hq] using hhead
      | cons n ns =>
          rw [afterNames] at h
          split at h
          next heq =>
              obtain rfl := beq_iff_eq.mp heq
              obtain ⟨hfilter, hsuffix, hhead⟩ := ih h
              refine ⟨?_, hsuffix.trans (List.suffix_cons _ _), hhead⟩
              rw [List.filter_cons, List.filter_cons, hfilter]
              split <;> rfl
          next =>
              split at h
              next hvoid =>
                  obtain ⟨hfilter, hsuffix, hhead⟩ := ih h
                  refine ⟨?_, hsuffix.trans (List.suffix_cons _ _), hhead⟩
                  rw [← hfilter, List.filter_cons_of_neg (by simp [hvoid])]
              next => contradiction

theorem isAbsolute_intercalate_iff {p : String} {more : List String} (h : '/' ∉ p.toList) :
    isAbsolute ("/".intercalate (p :: more)) = true ↔ p = "" ∧ more ≠ [] := by
  have hp : isAbsolute p = false := by
    rw [← Bool.not_eq_true, isAbsolute_iff]
    exact fun hslash => h (hslash.subset (by simp))
  cases more with
  | nil => simp [hp]
  | cons q more =>
      rw [intercalate_cons_cons]
      by_cases hempty : p = ""
      · simp [hempty, isAbsolute]
      · rw [String.append_assoc, isAbsolute_append hempty, hp]
        simp [hempty]

/-- What a path has beyond a directory that it begins with. -/
structure IsLeft (directory path left : String) : Prop where
  same_start : isAbsolute directory = isAbsolute path
  relative : isAbsolute left = false
  pieces_eq : namePieces path = namePieces directory ++ namePieces left
  ends : left = "" ∨ ∃ front last, pieces left = front ++ [last] ∧ isVoid last = false

theorem IsLeft.namePieces_join (h : IsLeft directory path left) :
    namePieces (join directory left) = namePieces path := by
  rw [Path.namePieces_join h.relative, h.pieces_eq]

theorem isLeft_of_trimEnd {rest : List String} (hstart : isAbsolute directory = isAbsolute path)
    (hfilter : namePieces path = namePieces directory ++ rest.filter fun p => !isVoid p)
    (hmem : ∀ p ∈ rest, p ∈ pieces path)
    (hhead : ∀ more, rest = "" :: more → more = []) :
    IsLeft directory path ("/".intercalate (trimEnd rest)) := by
  have hslash : ∀ p ∈ trimEnd rest, '/' ∉ p.toList := fun p hp =>
    slash_notMem_of_mem_pieces (hmem p (mem_of_mem_trimEnd hp))
  obtain hnil | ⟨front, last, htrim, hlast⟩ := trimEnd_eq_nil_or rest
  · have hnone : (rest.filter fun p => !isVoid p) = [] := by rw [← filter_trimEnd, hnil]; rfl
    rw [hnil, intercalate_nil]
    refine ⟨hstart, by simp [isAbsolute], ?_, .inl rfl⟩
    rw [hfilter, hnone]
    simp [namePieces, pieces, isVoid]
  · have hne : trimEnd rest ≠ [] := by simp [htrim]
    have hpieces := pieces_intercalate hne hslash
    refine ⟨hstart, ?_, ?_, .inr ⟨front, last, by rw [hpieces, htrim], hlast⟩⟩
    · obtain ⟨p, more, hcons⟩ := List.exists_cons_of_ne_nil hne
      rw [← Bool.not_eq_true, hcons, isAbsolute_intercalate_iff (hslash p (by simp [hcons]))]
      rintro ⟨rfl, hmore⟩
      obtain ⟨behind, hrest⟩ := trimEnd_prefix rest
      rw [hcons] at hrest
      exact hmore (List.append_eq_nil_iff.mp (hhead _ hrest.symm)).1
    · rw [hfilter, namePieces.eq_def ("/".intercalate _), hpieces, filter_trimEnd]

theorem isLeft_of_relativeTo (h : relativeTo? directory path = some left) :
    IsLeft directory path left := by
  unfold relativeTo? at h
  split at h
  next => contradiction
  next hstart =>
      have hstart : isAbsolute directory = isAbsolute path := by simpa using hstart
      obtain ⟨rest, hrest, rfl⟩ := Option.map_eq_some_iff.mp h
      split at hrest
      next hempty =>
          obtain rfl := Option.some.inj hrest
          obtain rfl := String.isEmpty_iff.mp hempty
          have hrelative : isAbsolute path = false := by
            rw [← hstart]
            simp [isAbsolute]
          refine isLeft_of_trimEnd hstart ?_ (fun p hp => hp) fun more hmore => ?_
          · simp [namePieces, pieces, isVoid]
          · -- A path whose first piece is empty begins with a slash or has no other piece.
            by_contra hne
            have habsolute : isAbsolute ("/".intercalate ("" :: more)) = true :=
              (isAbsolute_intercalate_iff (by simp)).mpr ⟨rfl, hne⟩
            rw [← hmore, intercalate_pieces, hrelative] at habsolute
            contradiction
      next hnonempty =>
          obtain ⟨hfilter, hsuffix, hhead⟩ := afterNames_spec hrest
          refine isLeft_of_trimEnd hstart ?_ (fun p hp => hsuffix.subset hp) fun more hmore => ?_
          · rw [namePieces, hfilter, namePieces_names]
          · have hvoid := hhead "" (by simp [hmore])
            contradiction

theorem hasEndSlash_join (hpath : isAbsolute path = false) (hne : path ≠ "") :
    hasEndSlash (join directory path) = hasEndSlash path := by
  rw [join, if_neg (by simp [hpath])]
  split
  all_goals rw [hasEndSlash_append _ hne]

theorem isAbsolute_join_of_relative (hpath : isAbsolute path = false) :
    isAbsolute (join directory path) = isAbsolute directory := by
  by_cases h : directory = ""
  · have hempty : isAbsolute "" = false := by simp [isAbsolute]
    have hjoin : join "" path = path := by simp [join, hpath]
    rw [h, hjoin, hpath, hempty]
  · exact isAbsolute_join h hpath

theorem join_ne_empty (directory : String) (hne : path ≠ "") : join directory path ≠ "" := by
  unfold join
  split
  next => exact hne
  next =>
      split
      all_goals simp [hne]

theorem IsLeft.exists_last (h : IsLeft directory path left) (hne : left ≠ "") :
    ∃ front last, words left = front ++ [last] ∧ last ≠ "." ∧ hasEndSlash left = false := by
  obtain ⟨front, last, hpieces, hlast⟩ := h.ends.resolve_left hne
  obtain ⟨hempty, hhere⟩ : last ≠ "" ∧ last ≠ "." := by simpa [isVoid] using hlast
  have hmem : last ∈ pieces left := by simp [hpieces]
  have hslash := slash_notMem_of_mem_pieces hmem
  refine ⟨front.filter fun p => !p.isEmpty, last, by simp [words, hpieces, hempty], hhere, ?_⟩
  rw [← intercalate_pieces left, hpieces, hasEndSlash_intercalate front hempty,
    ← Bool.not_eq_true, hasEndSlash_iff]
  exact fun hsuffix => hslash (hsuffix.subset (by simp))

/-! ## Paths below a directory -/

def below (base : String) (names : List String) : String := names.foldl join base

theorem below_append (base : String) (front more : List String) :
    below base (front ++ more) = below (below base front) more :=
  List.foldl_append

section Below

variable (hnames : ∀ name ∈ names, IsFileName name)

include hnames

theorem words_below : words (below base names) = words base ++ names := by
  induction names generalizing base with
  | nil => simp [below]
  | cons name names ih =>
      obtain ⟨hname, hnames⟩ := List.forall_mem_cons.mp hnames
      have hrest : words (below (join base name) names) = words (join base name) ++ names :=
        ih hnames
      rw [below, List.foldl_cons, ← below, hrest, words_join hname.isAbsolute_eq, hname.words_eq,
        List.append_assoc, List.singleton_append]

theorem isAbsolute_below (hbase : base ≠ "") :
    below base names ≠ "" ∧ isAbsolute (below base names) = isAbsolute base := by
  induction names generalizing base with
  | nil => exact ⟨hbase, rfl⟩
  | cons name names ih =>
      obtain ⟨hname, hnames⟩ := List.forall_mem_cons.mp hnames
      have hjoin := isAbsolute_join hbase hname.isAbsolute_eq
      have hne : join base name ≠ "" := by
        intro hempty
        have hwords : words (join base name) = words base ++ words name :=
          words_join hname.isAbsolute_eq
        rw [hempty, words_empty, hname.words_eq] at hwords
        simp at hwords
      obtain ⟨hrest, hstart⟩ := ih hnames hne
      exact ⟨hrest, hstart.trans hjoin⟩

theorem hasEndSlash_below (hne : names ≠ []) : hasEndSlash (below base names) = false := by
  obtain ⟨front, name, rfl⟩ := (List.eq_nil_or_concat' names).resolve_left hne
  have hname := hnames name (by simp)
  rw [below_append]
  exact (hasEndSlash_join hname.isAbsolute_eq hname.nonempty).trans hname.hasEndSlash_eq

theorem namePieces_below : namePieces (below base names) = namePieces base ++ names := by
  rw [namePieces_eq, words_below hnames, List.filter_append, ← namePieces_eq,
    List.filter_eq_self.mpr fun name hname => by simpa using (hnames name hname).not_here]

end Below

/-! ## Paths below a directory of the root -/

theorem exists_afterNames {ns : List String} (h : ns <+: ps.filter fun p => !isVoid p) :
    ∃ rest, afterNames ns ps = some rest := by
  induction ps generalizing ns with
  | nil =>
      obtain rfl : ns = [] := by simpa using h
      exact ⟨_, rfl⟩
  | cons p ps ih =>
      cases ns with
      | nil => exact ⟨_, rfl⟩
      | cons n ns =>
          rw [afterNames]
          by_cases hvoid : isVoid p = true
          · rw [List.filter_cons_of_neg (by simp [hvoid])] at h
            have hn : isVoid n = false := by
              simpa using List.of_mem_filter (h.subset List.mem_cons_self)
            have hne : (p == n) = false := by
              rw [beq_eq_false_iff_ne]
              rintro rfl
              simp [hvoid] at hn
            simpa [hne, hvoid] using ih h
          · rw [List.filter_cons_of_pos (by simpa using hvoid)] at h
            obtain ⟨rfl, hrest⟩ := List.cons_prefix_cons.mp h
            simpa using ih hrest

theorem head?_pieces_join (hdirectory : directory ≠ "") (hpath : isAbsolute path = false) :
    (pieces (join directory path)).head? = (pieces directory).head? := by
  have hne : ∀ path, pieces path ≠ [] := by simp [pieces, List.splitOn_ne_nil]
  rw [join, if_neg (by simp [hpath])]
  split
  next h =>
      obtain ⟨front, hfront⟩ := hasEndSlash_iff.mp (by simpa [hdirectory] using h)
      have hends : directory = ofList front ++ "/" ++ "" := by
        rw [← ofList_toList (s := directory), ← hfront]
        simp
      have hjoined : directory ++ path = ofList front ++ "/" ++ path := by rw [hends]; simp
      rw [hjoined, hends, pieces_append_slash, pieces_append_slash,
        List.head?_append_of_ne_nil _ (hne _), List.head?_append_of_ne_nil _ (hne _)]
  next => rw [pieces_append_slash, List.head?_append_of_ne_nil _ (hne _)]

theorem head?_pieces_below (hnames : ∀ name ∈ names, IsFileName name) (hbase : base ≠ "") :
    (pieces (below base names)).head? = (pieces base).head? := by
  induction names generalizing base with
  | nil => rfl
  | cons name names ih =>
      obtain ⟨hname, hnames⟩ := List.forall_mem_cons.mp hnames
      have hjoin := ih hnames (join_ne_empty base hname.nonempty)
      exact hjoin.trans (head?_pieces_join hbase hname.isAbsolute_eq)

/-- What lies below a relative directory of the root has something left below the root. -/
theorem exists_relativeTo (hpath : isAbsolute path = false) (hbase : join directory path ≠ "")
    (hnames : ∀ name ∈ names, IsFileName name) :
    ∃ left, relativeTo? directory (below (join directory path) names) = some left := by
  have hstart : isAbsolute directory = isAbsolute (below (join directory path) names) := by
    rw [(isAbsolute_below hnames hbase).2, isAbsolute_join_of_relative hpath]
  rw [relativeTo?, hstart, bne_self_eq_false, if_neg Bool.false_ne_true]
  simp only [Option.map_eq_some_iff]
  split
  next => exact ⟨_, _, rfl, rfl⟩
  next hempty =>
      have hdirectory : directory ≠ "" := by simpa using hempty
      have hprefix : namePieces directory <+: namePieces (below (join directory path) names) := by
        rw [namePieces_below hnames, namePieces_join hpath, List.append_assoc]
        exact List.prefix_append _ _
      have hhead : (pieces (below (join directory path) names)).head? =
          (pieces directory).head? := by
        rw [head?_pieces_below hnames hbase, head?_pieces_join hdirectory hpath]
      obtain ⟨rest, hrest⟩ : ∃ rest, afterNames (Path.names directory)
          (pieces (below (join directory path) names)) = some rest := by
        unfold Path.names
        split
        next hdot =>
            -- A dot at the beginning of the directory stands at the beginning of the path too.
            obtain ⟨-, hfirst⟩ := Bool.and_eq_true_iff.mp hdot
            rw [beq_iff_eq] at hfirst
            obtain ⟨more, hmore⟩ := List.head?_eq_some_iff.mp (hhead.trans hfirst)
            rw [namePieces.eq_def (below _ _), hmore, List.filter_cons_of_neg (by decide)]
              at hprefix
            rw [hmore, afterNames, if_pos (by decide)]
            exact exists_afterNames hprefix
        next => exact exists_afterNames hprefix
      exact ⟨_, rest, hrest, rfl⟩

end Path

end SourceContract
