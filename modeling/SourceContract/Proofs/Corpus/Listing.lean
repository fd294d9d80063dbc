import SourceContract.Proofs.Corpus.Disk
import SourceContract.Proofs.FileTree.Reach

/-!
# Listed paths and the files they name

A walk turns the paths of files into paths relative to the root, and loading turns these
into paths of files again.  The first step drops the root and writes backslashes as
slashes.  So for files whose relative paths have no backslash a listing names each file
that the glob matches, names it once, and leads back to it.

A backslash in a name is lost: the path that is listed then names another file or none.
-/

namespace SourceContract.FileTree

open SourceContract.Path (IsFileName IsLeft below words namePieces)

variable {t : FileTree} {cwd : Location} {root dir path : String} {glob : Glob}
  {names : List String} {bytes : ByteArray}

/-! ## Files to be found -/

/-- Names lead from a directory of the project to a file, links being followed; the glob matches
the last of them, and `path` is what the path of the file has beyond the root. -/
structure Finds (t : FileTree) (cwd : Location) (root dir : String) (glob : Glob)
    (names : List String) (path : String) (bytes : ByteArray) : Prop where
  file_names : ∀ name ∈ names, IsFileName name
  glob_matches : ∃ name, names.getLast? = some name ∧ glob.isMatch name = true
  reaches : ∃ l, t.Reaches cwd (Path.join root dir) names l (.file bytes)
  left : Path.relativeTo? root (below (Path.join root dir) names) = some path

namespace Finds

variable {names' : List String} {bytes' : ByteArray}

theorem isLeft (h : t.Finds cwd root dir glob names path bytes) :
    IsLeft root (below (Path.join root dir) names) path :=
  Path.isLeft_of_relativeTo h.left

theorem names_ne_nil (h : t.Finds cwd root dir glob names path bytes) : names ≠ [] := by
  obtain ⟨name, hname, -⟩ := h.glob_matches
  rintro rfl
  contradiction

theorem namePieces_eq (h : t.Finds cwd root dir glob names path bytes) :
    namePieces (Path.join root path) = namePieces (Path.join root dir) ++ names := by
  rw [h.isLeft.namePieces_join, Path.namePieces_below h.file_names]

theorem unique (h : t.Finds cwd root dir glob names path bytes)
    (h' : t.Finds cwd root dir glob names' path bytes') : names = names' ∧ bytes = bytes' := by
  obtain rfl : names = names' :=
    List.append_cancel_left (h.namePieces_eq.symm.trans h'.namePieces_eq)
  obtain ⟨l, hreaches⟩ := h.reaches
  obtain ⟨l', hreaches'⟩ := h'.reaches
  exact ⟨rfl, Node.file.inj (hreaches.unique hreaches').2⟩

theorem follow_eq (h : t.Finds cwd root dir glob names path bytes)
    (hbase : Path.join root dir ≠ "") :
    ∃ l, t.follow true maxLinks (if Path.isAbsolute root then [] else cwd)
      (namePieces (Path.join root dir) ++ names) = .ok (.taken l (.file bytes)) := by
  obtain ⟨l, hreaches⟩ := h.reaches
  refine ⟨l, ?_⟩
  have hstart := h.isLeft.same_start.trans (Path.isAbsolute_below h.file_names hbase).2
  have hfilter : namePieces (Path.join root dir) ++ names =
      (words (Path.join root dir) ++ names).filter fun p => p != "." := by
    rw [← Path.namePieces_below h.file_names, Path.namePieces_eq, Path.words_below h.file_names]
  rw [hstart, hfilter, ← follow_filter]
  · exact follows_iff.mp hreaches
  · intro p hp
    rw [List.getLast?_append_of_ne_nil _ h.names_ne_nil] at hp
    exact (h.file_names p (List.mem_of_getLast? hp)).not_here

/-- The file does not stand in the place of the root.  Below an absolute path it might, if the root
were no directory. -/
theorem path_ne_empty (h : t.Finds cwd root dir glob names path bytes)
    (hbase : Path.join root dir ≠ "")
    (hroot : Path.isAbsolute dir = true → t.isDirectory cwd root = true) : path ≠ "" := by
  rintro rfl
  have hpieces : namePieces (Path.join root dir) ++ names = namePieces root := by
    rw [← Path.namePieces_below h.file_names, h.isLeft.pieces_eq]
    simp [namePieces, Path.pieces, Path.isVoid]
  by_cases hdir : Path.isAbsolute dir = true
  · obtain ⟨q, hresolve⟩ := isDirectory_iff.mp (hroot hdir)
    have hdirectory := follow_filter_of_directory (follows_iff.mp (Reaches.of_directory hresolve))
    obtain ⟨l, hfile⟩ := h.follow_eq hbase
    rw [List.append_nil, ← Path.namePieces_eq, ← hpieces, hfile] at hdirectory
    simp at hdirectory
  · rw [Path.namePieces_join (by simpa using hdir), List.append_assoc,
      List.append_right_eq_self] at hpieces
    exact h.names_ne_nil (List.append_eq_nil_iff.mp hpieces).2

theorem read_eq (h : t.Finds cwd root dir glob names path bytes)
    (hbase : t.isDirectory cwd (Path.join root dir) = true)
    (hroot : Path.isAbsolute dir = true → t.isDirectory cwd root = true)
    (hshort : ¬ maxPathSize < (Path.join root path).utf8ByteSize) :
    t.read cwd (Path.join root path) = .ok bytes := by
  obtain ⟨q, hresolve⟩ := isDirectory_iff.mp hbase
  obtain ⟨hnull, hnonempty, -, -⟩ := locate_eq_ok_iff.mp (resolve_eq_ok_iff.mp hresolve)
  have hbase : Path.join root dir ≠ "" := by simpa using hnonempty
  have hne := h.path_ne_empty hbase hroot
  have hrelative := h.isLeft.relative
  obtain ⟨front, last, hwords, hlast, hslash⟩ := h.isLeft.exists_last hne
  obtain ⟨l, hfollow⟩ := h.follow_eq hbase
  refine read_eq_ok_iff.mpr ⟨l, resolve_eq_ok_iff.mpr (locate_eq_ok_iff.mpr ⟨?_, ?_, hshort, ?_⟩)⟩
  · have hpieces : ∀ p ∈ namePieces (Path.join root path), '\x00' ∉ p.toList := by
      intro p hp hnull'
      rw [h.namePieces_eq] at hp
      obtain hp | hp := List.mem_append.mp hp
      · exact hnull ((Path.mem_toList_iff_namePieces (by decide) (by decide)).mpr ⟨p, hp, hnull'⟩)
      · exact (h.file_names p hp).no_null hnull'
    rw [Path.mem_toList_iff_namePieces (by decide) (by decide)]
    rintro ⟨p, hp, hmem⟩
    exact hpieces p hp hmem
  · simpa using Path.join_ne_empty root hne
  · have hstart : Path.isAbsolute (Path.join root path) = Path.isAbsolute root :=
      Path.isAbsolute_join_of_relative hrelative
    have hsteps : steps (Path.join root path) = words root ++ words path := by
      rw [steps_eq, Path.hasEndSlash_join hrelative hne, hslash, Path.words_join hrelative]
      simp
    rw [follows_iff, hstart, hsteps, hwords, ← List.append_assoc, follow_filter (by simp [hlast]),
      List.append_assoc, ← hwords, ← Path.words_join hrelative, ← Path.namePieces_eq,
      h.namePieces_eq]
    exact hfollow

theorem foundBelow (h : t.Finds cwd root dir glob names path bytes) :
    ∃ f, t.FoundBelow cwd (Path.join root dir) [] f ∧ glob.isMatch f.name = true ∧
      Path.relativeTo? root f.path = some path := by
  obtain ⟨name, hname, hglob⟩ := h.glob_matches
  obtain ⟨more, rfl⟩ := List.getLast?_eq_some_iff.mp hname
  obtain ⟨l, hreaches⟩ := h.reaches
  exact ⟨⟨below (Path.join root dir) (more ++ [name]), name⟩,
    ⟨more, name, h.file_names, rfl, l, bytes, hreaches⟩, hglob, h.left⟩

end Finds

theorem FoundBelow.exists_finds {f : WalkedFile}
    (h : t.FoundBelow cwd (Path.join root dir) [] f) (hglob : glob.isMatch f.name = true)
    (hleft : Path.relativeTo? root f.path = some path) :
    ∃ more bytes, t.Finds cwd root dir glob (more ++ [f.name]) path bytes ∧
      f.path = below (Path.join root dir) (more ++ [f.name]) := by
  obtain ⟨more, name, hnames, rfl, l, bytes, hreaches⟩ := h
  exact ⟨more, bytes, ⟨hnames, ⟨name, by simp, hglob⟩, ⟨l, hreaches⟩, hleft⟩, rfl⟩

/-! ## What is listed -/

/-- No path that is to be listed has a backslash, so that each is listed as it is. -/
def KeepsPaths (t : FileTree) (cwd : Location) (root dir : String) (glob : Glob) : Prop :=
  ∀ names path bytes, t.Finds cwd root dir glob names path bytes → '\\' ∉ path.toList

theorem keepsPaths_of_names (hbase : '\\' ∉ (Path.join root dir).toList)
    (hnames : ∀ e ∈ t.nodes, ∀ name ∈ e.1.getLast?, '\\' ∉ name.toList) :
    t.KeepsPaths cwd root dir glob := by
  intro names path bytes h hpath
  obtain ⟨p, hp, hmem⟩ := (Path.mem_toList_iff_namePieces (by decide) (by decide)).mp hpath
  have hpieces := h.namePieces_eq
  rw [Path.namePieces_join h.isLeft.relative] at hpieces
  have hp := List.mem_append_right (namePieces root) hp
  rw [hpieces] at hp
  obtain hp | hp := List.mem_append.mp hp
  · exact hbase ((Path.mem_toList_iff_namePieces (by decide) (by decide)).mpr ⟨p, hp, hmem⟩)
  · obtain ⟨l, hreaches⟩ := h.reaches
    obtain ⟨here, hentry⟩ := hreaches.exists_mem_namesIn (List.mem_append_right _ hp)
      (h.file_names p hp).not_here (h.file_names p hp).not_up
    obtain ⟨n, hnode⟩ := mem_namesIn_iff.mp hentry
    exact hnames _ hnode p (by simp) hmem

theorem withSlashes_eq_self (h : '\\' ∉ path.toList) : Path.withSlashes path = path := by
  have hchars : ∀ c ∈ path.toList, (if c = '\\' then '/' else c) = id c := by
    intro c hc
    refine if_neg ?_
    rintro rfl
    exact h hc
  rw [← String.toList_inj, Path.withSlashes, String.toList_map, List.map_congr_left hchars,
    List.map_id]

namespace Covers

variable {found : List WalkedFile}

theorem mem_matching_iff (h : t.Covers cwd (Path.join root dir) [] found) :
    path ∈ matching root glob found ↔
      ∃ names left bytes, t.Finds cwd root dir glob names left bytes ∧
        Path.withSlashes left = path := by
  rw [matching, List.mem_mergeSort, List.mem_filterMap]
  simp only [List.mem_filter, projectPath?, Option.map_eq_some_iff]
  constructor
  · rintro ⟨f, ⟨hf, hglob⟩, left, hleft, hpath⟩
    obtain ⟨more, bytes, hfinds, -⟩ := ((h.mem_iff f).mp hf).exists_finds hglob hleft
    exact ⟨_, left, bytes, hfinds, hpath⟩
  · rintro ⟨names, left, bytes, hfinds, hpath⟩
    obtain ⟨f, hbelow, hglob, hleft⟩ := hfinds.foundBelow
    exact ⟨f, ⟨(h.mem_iff f).mpr hbelow, hglob⟩, left, hleft, hpath⟩

theorem nodup_matching (h : t.Covers cwd (Path.join root dir) [] found)
    (hkeeps : t.KeepsPaths cwd root dir glob) : (matching root glob found).Nodup := by
  rw [matching, (List.mergeSort_perm _ _).nodup_iff, List.Nodup, List.pairwise_filterMap]
  refine (h.nodup.filter _).imp_of_mem fun {f f'} hf hf' hne path hpath path' hpath' heq => hne ?_
  obtain ⟨hf, hglob⟩ := List.mem_filter.mp hf
  obtain ⟨hf', hglob'⟩ := List.mem_filter.mp hf'
  obtain ⟨left, hleft, rfl⟩ := Option.map_eq_some_iff.mp hpath
  obtain ⟨left', hleft', rfl⟩ := Option.map_eq_some_iff.mp hpath'
  obtain ⟨more, bytes, hfinds, hbelow⟩ := ((h.mem_iff f).mp hf).exists_finds hglob hleft
  obtain ⟨more', bytes', hfinds', hbelow'⟩ := ((h.mem_iff f').mp hf').exists_finds hglob' hleft'
  rw [withSlashes_eq_self (hkeeps _ _ _ hfinds), withSlashes_eq_self (hkeeps _ _ _ hfinds')] at heq
  obtain rfl := heq
  obtain ⟨hnames, -⟩ := hfinds.unique hfinds'
  have hname : f.name = f'.name := by simpa using congrArg List.getLast? hnames
  calc
    f = ⟨below (Path.join root dir) (more ++ [f.name]), f.name⟩ := by rw [← hbelow]
    _ = ⟨below (Path.join root dir) (more' ++ [f'.name]), f'.name⟩ := by rw [hnames, hname]
    _ = f' := by rw [← hbelow']

end Covers

theorem listingOf_eq_ok_iff {globText : String} {paths : List String} :
    t.listingOf cwd root dir globText = .ok paths ↔
      t.isDirectory cwd (Path.join root dir) = true ∧
        ∃ glob found, Glob.compile globText = .ok glob ∧
          t.walk cwd (Path.join root dir) = .ok found ∧ matching root glob found = paths := by
  unfold listingOf
  split
  next hdirectory =>
      cases Glob.compile globText with
      | error fault => simp
      | ok glob => cases t.walk cwd (Path.join root dir) <;> simp [hdirectory]
  next hdirectory => simp [hdirectory]

end SourceContract.FileTree
