import SourceContract.Proofs.Corpus.Listing
import SourceContract.Proofs.FileTree.BadEntry

/-!
# What discovery gives

Asking for the files below a directory has one of three outcomes.  The directory is not there;
or the glob is none, or there is a bad entry somewhere below, and then no file is given at all;
or the files are given whose own names the glob matches, one path for each, in ascending order.
-/

namespace SourceContract.FileTree

open SourceContract.Path (IsFileName below words)

variable {t : FileTree} {cwd : Location} {root dir base globText : String} {glob : Glob}
  {names paths : List String} {found : List WalkedFile}

/-! ## Files below a directory -/

/-- Names lead from the directory to a file, and the glob matches the last of them. -/
structure Matches (t : FileTree) (cwd : Location) (base : String) (glob : Glob)
    (names : List String) : Prop where
  file_names : ∀ name ∈ names, IsFileName name
  glob_matches : ∃ name, names.getLast? = some name ∧ glob.isMatch name = true
  reaches : ∃ l bytes, t.Reaches cwd base names l (.file bytes)

/-- The paths below the root of the files that match, one for each file, in ascending order. -/
structure Lists (t : FileTree) (cwd : Location) (root dir : String) (glob : Glob)
    (paths : List String) : Prop where
  ascending : paths.Pairwise (· ≤ ·)
  one_for_each : ∃ files : List (List String), files.Nodup ∧
    (∀ names, names ∈ files ↔ t.Matches cwd (Path.join root dir) glob names) ∧
      (paths.map some).Perm
        (files.map fun names => projectPath? root (below (Path.join root dir) names))

def namesBelow (base path : String) : List String := (words path).drop (words base).length

theorem namesBelow_below (h : ∀ name ∈ names, IsFileName name) :
    namesBelow base (below base names) = names := by
  rw [namesBelow, Path.words_below h, List.drop_left]

namespace Covers

theorem exists_matches (h : t.Covers cwd base [] found) {f : WalkedFile} (hf : f ∈ found)
    (hglob : glob.isMatch f.name = true) :
    t.Matches cwd base glob (namesBelow base f.path) ∧
      f = ⟨below base (namesBelow base f.path), f.name⟩ ∧
        (namesBelow base f.path).getLast? = some f.name := by
  obtain ⟨more, name, hnames, rfl, hfile⟩ := (h.mem_iff f).mp hf
  rw [List.nil_append] at hfile ⊢
  rw [namesBelow_below hnames]
  exact ⟨⟨hnames, ⟨name, by simp, hglob⟩, hfile⟩, rfl, by simp⟩

theorem mem_of_matches (h : t.Covers cwd base [] found) (hnames : t.Matches cwd base glob names) :
    ∃ f ∈ found, glob.isMatch f.name = true ∧ namesBelow base f.path = names := by
  obtain ⟨name, hlast, hglob⟩ := hnames.glob_matches
  obtain ⟨more, rfl⟩ := List.getLast?_eq_some_iff.mp hlast
  refine ⟨⟨below base (more ++ [name]), name⟩, (h.mem_iff _).mpr ?_, hglob,
    namesBelow_below hnames.file_names⟩
  exact ⟨more, name, hnames.file_names, rfl, hnames.reaches⟩

theorem lists_matching (h : t.Covers cwd (Path.join root dir) [] found)
    (hdir : Path.isAbsolute dir = false) (hbase : Path.join root dir ≠ "") :
    t.Lists cwd root dir glob (matching root glob found) := by
  let chosen := found.filter fun f => glob.isMatch f.name
  have hmatches : ∀ f ∈ chosen,
      t.Matches cwd (Path.join root dir) glob (namesBelow (Path.join root dir) f.path) ∧
        f = ⟨below (Path.join root dir) (namesBelow (Path.join root dir) f.path), f.name⟩ ∧
          (namesBelow (Path.join root dir) f.path).getLast? = some f.name := by
    intro f hf
    obtain ⟨hf, hglob⟩ := List.mem_filter.mp hf
    exact h.exists_matches hf hglob
  refine ⟨?ascending, chosen.map fun f => namesBelow (Path.join root dir) f.path, ?once,
    fun names => ?exact, ?paths⟩
  case ascending =>
    have hsorted := @List.pairwise_mergeSort _ (fun a b : String => decide (a ≤ b))
      (by simpa using fun a b c => String.le_trans) (by simpa using String.le_total)
    simpa [matching] using hsorted _
  case once =>
    refine List.Nodup.map_on ?_ (h.nodup.filter _)
    intro f hf f' hf' heq
    obtain ⟨-, hown, hlast⟩ := hmatches f hf
    obtain ⟨-, hown', hlast'⟩ := hmatches f' hf'
    rw [heq, hlast', Option.some.injEq] at hlast
    rw [hown, hown', heq, hlast]
  case exact =>
    rw [List.mem_map]
    constructor
    · rintro ⟨f, hf, rfl⟩
      exact (hmatches f hf).1
    · intro hnames
      obtain ⟨f, hf, hglob, hpath⟩ := h.mem_of_matches hnames
      exact ⟨f, List.mem_filter.mpr ⟨hf, hglob⟩, hpath⟩
  case paths =>
    -- No file is left out, since below a relative directory each has a path below the root.
    have hpaths : ∀ f ∈ chosen, (projectPath? root f.path).isSome = true := by
      intro f hf
      obtain ⟨hmatch, hown, -⟩ := hmatches f hf
      obtain ⟨left, hleft⟩ := Path.exists_relativeTo hdir hbase hmatch.file_names
      rw [hown, projectPath?, hleft]
      rfl
    have hperm := (List.mergeSort_perm (chosen.filterMap fun f => projectPath? root f.path)
      fun a b => a ≤ b).map some
    refine hperm.trans (List.Perm.of_eq ?_)
    rw [List.map_filterMap_some_eq_filter_map_isSome, List.map_map, List.filter_eq_self.mpr]
    · refine List.map_congr_left fun f hf => ?_
      exact congrArg (projectPath? root) (congrArg WalkedFile.path (hmatches f hf).2.1)
    · simpa using hpaths

end Covers

/-! ## The three outcomes -/

theorem listingOf_eq_notFound_iff {path : String} :
    t.listingOf cwd root dir globText = .error (.notFound path) ↔
      t.isDirectory cwd (Path.join root dir) = false ∧ path = dir := by
  unfold listingOf
  split
  next hdirectory =>
      cases Glob.compile globText with
      | error fault => simp [hdirectory, globError]
      | ok glob => cases t.walk cwd (Path.join root dir) <;> simp [hdirectory, walkError]
  next hdirectory => simp [hdirectory, eq_comm]

theorem listingOf_eq_unreadable_iff (hdirectory : t.isDirectory cwd (Path.join root dir) = true) :
    (∃ path reason, t.listingOf cwd root dir globText = .error (.unreadable path reason)) ↔
      (∃ fault, Glob.compile globText = .error fault) ∨
        ∃ fault, t.walk cwd (Path.join root dir) = .error fault := by
  rw [listingOf, if_pos hdirectory]
  cases Glob.compile globText with
  | error fault => simp [globError]
  | ok glob => cases t.walk cwd (Path.join root dir) <;> simp [walkError]

/-- Discovery is exact.  Below a relative directory of the project it says that the directory is not
there if that is so, and otherwise that something cannot be read if the glob is none or some entry
below is bad, whatever its name.  In all other cases it gives one path for each file that matches,
and nothing else, in ascending order. -/
theorem discovery_is_exact (admissible : t.Admissible) (henters : t.Enters cwd)
    (hdir : Path.isAbsolute dir = false) (root globText : String) :
    let outcome := (((disk cwd).discover root dir globText).run t).1
    let base := Path.join root dir
    (∀ path, outcome = .error (.notFound path) ↔ t.isDirectory cwd base = false ∧ path = dir) ∧
      (t.isDirectory cwd base = true →
        ((∃ path reason, outcome = .error (.unreadable path reason)) ↔
          (∃ fault, Glob.compile globText = .error fault) ∨
            ∃ names name, t.BadEntry cwd base names name) ∧
        ∀ glob, Glob.compile globText = .ok glob →
          (¬ ∃ names name, t.BadEntry cwd base names name) →
            ∃ paths, outcome = .ok paths ∧ t.Lists cwd root dir glob paths) := by
  intro outcome base
  have houtcome : outcome = t.listingOf cwd root dir globText :=
    congrArg Prod.fst (run_discover cwd root t dir globText)
  rw [houtcome]
  refine ⟨fun path => listingOf_eq_notFound_iff, fun hdirectory => ⟨?_, ?_⟩⟩
  · rw [listingOf_eq_unreadable_iff hdirectory, walk_eq_error_iff admissible henters hdirectory]
  · intro glob hglob hgood
    cases hwalk : t.walk cwd base with
    | error fault =>
        exact absurd ((walk_eq_error_iff admissible henters hdirectory).mp ⟨fault, hwalk⟩) hgood
    | ok found =>
        have hcovers := covers_of_walk admissible henters hdirectory hwalk
        exact ⟨_, listingOf_eq_ok_iff.mpr ⟨hdirectory, glob, found, hglob, hwalk, rfl⟩,
          hcovers.lists_matching hdir (ne_empty_of_isDirectory hdirectory)⟩

/-- A broken link of any name spoils the directory that it is in; a link to a directory that the
names have not led through does not. -/
theorem discovery_is_exact_around_broken_link :
    let tree : FileTree := ⟨[(["d"], .directory), (["d", "a.h"], .file "goto".toUTF8),
      (["d", "b.c"], .link "x"), (["e"], .directory), (["e", "l"], .link "/f"),
      (["f"], .directory), (["f", "a.h"], .file "goto".toUTF8)]⟩
    let outcome (dir : String) := (((disk []).discover "/" dir "*.h").run tree).1
    outcome "c" = .error (.notFound "c") ∧
      (∃ path reason, outcome "d" = .error (.unreadable path reason)) ∧
        ∃ glob paths, Glob.compile "*.h" = .ok glob ∧ outcome "e" = .ok paths ∧
          tree.Lists [] "/" "e" glob paths := by
  intro tree outcome
  have hrelative : ∀ dir ∈ ["c", "d", "e"], Path.isAbsolute dir = false := by decide
  have hexact := fun dir hdir => discovery_is_exact (t := tree) (by decide) enters_nil
    (hrelative dir hdir) "/" "*.h"
  obtain ⟨glob, hglob⟩ : ∃ glob, Glob.compile "*.h" = .ok glob := ⟨_, rfl⟩
  have hbad : tree.BadEntry [] (Path.join "/" "d") [] "b.c" :=
    ⟨by decide, ⟨["d"], "x", follows_iff.mpr rfl, rfl⟩, .inl ⟨.notFound, rfl⟩⟩
  have hd : tree.isDirectory [] (Path.join "/" "d") = true := rfl
  have he : tree.isDirectory [] (Path.join "/" "e") = true := rfl
  have hwalk : tree.walk [] (Path.join "/" "e") = .ok [⟨"/e/l/a.h", "a.h"⟩] := rfl
  have hgood : ¬ ∃ names name, tree.BadEntry [] (Path.join "/" "e") names name := by
    rw [← walk_eq_error_iff (by decide) enters_nil he, hwalk]
    simp
  refine ⟨((hexact "c" (by simp)).1 "c").mpr ⟨rfl, rfl⟩, ?_, glob, ?_⟩
  · exact ((hexact "d" (by simp)).2 hd).1.mpr (.inr ⟨[], "b.c", hbad⟩)
  · obtain ⟨paths, hpaths, hlists⟩ := ((hexact "e" (by simp)).2 he).2 glob hglob hgood
    exact ⟨paths, hglob, hpaths, hlists⟩

end SourceContract.FileTree
