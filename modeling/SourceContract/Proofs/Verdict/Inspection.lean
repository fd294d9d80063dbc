import SourceContract.Proofs.Corpus.Listing
import SourceContract.Proofs.Verdict.Mishap

/-!
# What a walk inspects

A check over a walk asks for the files that were listed, one after the other, and for no
others.  So it inspects every file that is to be found, and each of them once, as long as
the listing keeps their paths.

A backslash in a name is listed as a slash, and then one file can be inspected in the
place of another.
-/

namespace SourceContract

open Matching (MatchMode Occurs)

namespace Check

variable {a : Answers} {c : Check} {dir glob : String} {paths : List String}

theorem touched_of_walk (h : c.requirement.walk? = some (dir, glob))
    (hlist : a.list dir glob = .ok paths) (mode : MatchMode) : c.touched a mode = paths := by
  have hnone : c.prerequisites = [] := prerequisites_of_walk h
  have hjudge : c.touched a mode = (c.judge mode c.requirement).asked a := by
    rw [touched_eq, hnone]
    rfl
  rw [hjudge]
  rcases Requirement.eq_of_walk h with ⟨token, require, allowEmpty, hreq⟩ | ⟨tokens, unit, hreq⟩
  all_goals
    simp [hreq, judge, value_fileSet, asked_fileSet, Answers.filesOf, hlist]

end Check

namespace FileTree

open SourceContract.Path (IsFileName below)

variable {t : FileTree} {cwd : Location} {root dir globText path : String} {glob : Glob}
  {names paths : List String} {bytes : ByteArray} {mode : MatchMode} {c : Check}

/-! ## Walks that lead back -/

/-- The listed paths lead back to the files that are to be found, each of which has one path, and
checks over the walk inspect these files and no others. -/
structure Inspects (t : FileTree) (cwd : Location) (root dir globText : String) (glob : Glob)
    (paths : List String) : Prop where
  nodup : paths.Nodup
  mem_iff : ∀ path, path ∈ paths ↔ ∃ names bytes, t.Finds cwd root dir glob names path bytes
  one_file : ∀ names names' path bytes bytes', t.Finds cwd root dir glob names path bytes →
    t.Finds cwd root dir glob names' path bytes' → names = names' ∧ bytes = bytes'
  loads : ∀ names path bytes, t.Finds cwd root dir glob names path bytes →
    ¬ maxPathSize < (Path.join root path).utf8ByteSize →
      (((Access.entry path).run ((disk cwd).project root) .empty).run t).1.1 =
        .ok (Text.Utf8.decode bytes)
  touched : ∀ mode (c : Check), c.requirement.walk? = some (dir, globText) →
    c.touched (t.answers cwd root) mode = paths
  clean : ∀ mode (c : Check) token require allowEmpty,
    c.requirement = .forbidden token (.walk dir globText) require allowEmpty →
      (c.alone ((disk cwd).project root) t mode).passed = true →
        ∀ names path bytes, t.Finds cwd root dir glob names path bytes →
          ¬ Occurs token (Text.Utf8.decode bytes)

theorem run_entry (cwd : Location) (root : String) (t : FileTree) (path : String) :
    (((Access.entry path).run ((disk cwd).project root) .empty).run t).1.1 =
      t.answerTo cwd root path := by
  rw [Access.run_eq (steady_project cwd root t) _ (Corpus.empty_agrees _), at_project]
  rfl

/-- Each file that was listed is free of the token, even one whose path is too long to be followed:
then the check does not pass. -/
theorem Finds.not_occurs (h : t.Finds cwd root dir glob names path bytes)
    (hbase : t.isDirectory cwd (Path.join root dir) = true)
    (hroot : Path.isAbsolute dir = true → t.isDirectory cwd root = true)
    (hlist : t.listingOf cwd root dir globText = .ok paths) (hmem : path ∈ paths)
    {token : String} {require : List String} {allowEmpty : Bool}
    (hrequirement : c.requirement = .forbidden token (.walk dir globText) require allowEmpty)
    (hpassed : (c.alone ((disk cwd).project root) t mode).passed = true) :
    ¬ Occurs token (Text.Utf8.decode bytes) := by
  have hmeets := (alone_passed_iff cwd root t mode c).mp hpassed
  rw [hrequirement] at hmeets
  rcases hmeets with ⟨listed, hlisted, -, hclean⟩ | ⟨⟨lacked, hlacked⟩, -⟩
  · obtain rfl : paths = listed := Except.ok.inj (hlist.symm.trans hlisted)
    obtain ⟨text, hanswer, hfree, -⟩ := hclean path hmem
    obtain ⟨bytes', hread, rfl⟩ := answerTo_eq_ok_iff.mp hanswer
    obtain ⟨l, hresolve⟩ := read_eq_ok_iff.mp hread
    obtain ⟨-, -, hshort, -⟩ := locate_eq_ok_iff.mp (resolve_eq_ok_iff.mp hresolve)
    obtain rfl : bytes = bytes' :=
      Except.ok.inj ((h.read_eq hbase hroot hshort).symm.trans hread)
    exact hfree
  · cases hlist.symm.trans hlacked

/-- A walk that succeeds inspects each file that is to be found, and each once, if their paths have
no backslashes. -/
theorem walk_inspects_each_file_once (admissible : t.Admissible) (henters : t.Enters cwd)
    (hroot : Path.isAbsolute dir = true → t.isDirectory cwd root = true)
    (hglob : Glob.compile globText = .ok glob) (hkeeps : t.KeepsPaths cwd root dir glob)
    (hdiscover : (((disk cwd).discover root dir globText).run t).1 = .ok paths) :
    t.Inspects cwd root dir globText glob paths := by
  rw [run_discover] at hdiscover
  obtain ⟨hbase, compiled, found, hcompiled, hwalk, rfl⟩ := listingOf_eq_ok_iff.mp hdiscover
  obtain rfl : glob = compiled := Except.ok.inj (hglob.symm.trans hcompiled)
  have hcovers := covers_of_walk admissible henters hbase hwalk
  have hmem : ∀ path, path ∈ matching root glob found ↔
      ∃ names bytes, t.Finds cwd root dir glob names path bytes := by
    intro path
    rw [hcovers.mem_matching_iff]
    constructor
    · rintro ⟨names, left, bytes, hfinds, rfl⟩
      rw [withSlashes_eq_self (hkeeps names left bytes hfinds)]
      exact ⟨names, bytes, hfinds⟩
    · rintro ⟨names, bytes, hfinds⟩
      exact ⟨names, path, bytes, hfinds, withSlashes_eq_self (hkeeps names path bytes hfinds)⟩
  refine ⟨hcovers.nodup_matching hkeeps, hmem, ?one_file, ?loads, ?touched, ?clean⟩
  case one_file => exact fun _ _ _ _ _ h h' => h.unique h'
  case loads =>
    intro names path bytes hfinds hshort
    rw [run_entry]
    exact answerTo_eq_ok_iff.mpr ⟨bytes, hfinds.read_eq hbase hroot hshort, rfl⟩
  case touched => exact fun mode c hwalked => Check.touched_of_walk hwalked hdiscover mode
  case clean =>
    intro mode c token require allowEmpty hrequirement hpassed names path bytes hfinds
    have hlisted := (hmem path).mpr ⟨names, bytes, hfinds⟩
    exact hfinds.not_occurs hbase hroot hdiscover hlisted hrequirement hpassed

theorem exists_headerGlob : ∃ glob, Glob.compile "*.h" = .ok glob ∧
    ∀ name ∈ ["a.h", "b.h", "a\\b.h"], glob.isMatch name = true :=
  ⟨_, rfl, by decide +kernel⟩

theorem walk_inspects_each_file_once_through_link :
    let tree : FileTree := ⟨[(["d"], .directory), (["d", "a.h"], .file "goto".toUTF8),
      (["d", "l"], .link "../e"), (["e"], .directory), (["e", "b.h"], .file "clean".toUTF8)]⟩
    ∃ glob, Glob.compile "*.h" = .ok glob ∧
      tree.Inspects [] "/" "d" "*.h" glob ["d/a.h", "d/l/b.h"] := by
  intro tree
  obtain ⟨glob, hglob, hmatch⟩ := exists_headerGlob
  have hkeeps : tree.KeepsPaths [] "/" "d" glob := keepsPaths_of_names (by decide) (by decide)
  refine ⟨glob, hglob, walk_inspects_each_file_once (by decide) enters_nil ?_ hglob hkeeps ?_⟩
  · exact fun h => absurd h (by decide)
  · have hwalk : tree.walk [] (Path.join "/" "d") =
        .ok [⟨"/d/a.h", "a.h"⟩, ⟨"/d/l/b.h", "b.h"⟩] := rfl
    have hown : projectPath? "/" "/d/a.h" = some "d/a.h" := by decide +kernel
    have hlinked : projectPath? "/" "/d/l/b.h" = some "d/l/b.h" := by decide +kernel
    rw [run_discover]
    refine listingOf_eq_ok_iff.mpr ⟨rfl, glob, _, hglob, hwalk, ?_⟩
    simp only [matching, List.filter_cons, hmatch "a.h" (by simp), hmatch "b.h" (by simp), if_true,
      List.filter_nil, List.filterMap_cons, hown, hlinked, List.filterMap_nil]
    exact List.mergeSort_of_pairwise (by simp)

/-- The two headers of the tree are listed by one path, which is that of the second.  So the first,
which has the token, is not read at all. -/
theorem backslash_hides_a_file :
    let tree : FileTree := ⟨[(["d"], .directory), (["d", "a\\b.h"], .file "goto x;".toUTF8),
      (["d", "a"], .directory), (["d", "a", "b.h"], .file "clean".toUTF8)]⟩
    let check : Check := ⟨"no goto", none, false, .forbidden "goto" (.walk "d" "*.h") [] false⟩
    tree.Admissible ∧
      (((disk []).discover "/" "d" "*.h").run tree).1 = .ok ["d/a/b.h", "d/a/b.h"] ∧
      (check.alone ((disk []).project "/") tree .literal).passed = true ∧
      ∃ glob names path bytes, Glob.compile "*.h" = .ok glob ∧
        tree.Finds [] "/" "d" glob names path bytes ∧ Occurs "goto" (Text.Utf8.decode bytes) := by
  intro tree check
  obtain ⟨glob, hglob, hmatch⟩ := exists_headerGlob
  have hhidden : glob.isMatch "a\\b.h" = true := hmatch _ (by simp)
  have hother : glob.isMatch "b.h" = true := hmatch _ (by simp)
  have hbase : tree.isDirectory [] (Path.join "/" "d") = true := rfl
  have hlist : tree.listingOf [] "/" "d" "*.h" = .ok ["d/a/b.h", "d/a/b.h"] := by
    have hwalk : tree.walk [] (Path.join "/" "d") =
        .ok [⟨"/d/a\\b.h", "a\\b.h"⟩, ⟨"/d/a/b.h", "b.h"⟩] := rfl
    have hlost : projectPath? "/" "/d/a\\b.h" = some "d/a/b.h" := by decide +kernel
    have hkept : projectPath? "/" "/d/a/b.h" = some "d/a/b.h" := by decide +kernel
    refine listingOf_eq_ok_iff.mpr ⟨hbase, glob, _, hglob, hwalk, ?_⟩
    simp only [matching, List.filter_cons, hhidden, hother, if_true, List.filter_nil,
      List.filterMap_cons, hlost, hkept, List.filterMap_nil]
    exact List.mergeSort_of_pairwise (by simp)
  have hfinds : tree.Finds [] "/" "d" glob ["a\\b.h"] "d/a\\b.h" "goto x;".toUTF8 :=
    ⟨by decide, ⟨_, rfl, hhidden⟩, ⟨_, follows_iff.mpr rfl⟩, by decide +kernel⟩
  have hread : tree.answerTo [] "/" "d/a/b.h" = .ok "clean" := by
    have hbytes : tree.read [] (Path.join "/" "d/a/b.h") = .ok "clean".toUTF8 := rfl
    exact answerTo_eq_ok_iff.mpr ⟨_, hbytes, by decide +kernel⟩
  refine ⟨by decide, ?_, ?_, glob, _, _, _, hglob, hfinds, ?_⟩
  · rw [run_discover]
    exact hlist
  · have hclean : ¬ Occurs "goto" "clean" := Matching.count_eq_zero_iff.mp (by decide +kernel)
    refine (alone_passed_iff [] "/" tree .literal check).mpr (.inl ⟨_, hlist, by simp, ?_⟩)
    intro path hpath
    obtain rfl : path = "d/a/b.h" := by simpa using hpath
    exact ⟨"clean", hread, hclean, by simp⟩
  · have hdecode : Text.Utf8.decode "goto x;".toUTF8 = "goto x;" := by decide +kernel
    rw [hdecode]
    exact ⟨by decide, by decide⟩

end FileTree

end SourceContract
