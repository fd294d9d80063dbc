import SourceContract.Proofs.Verdict.Gating
import SourceContract.Proofs.Verdict.Mishap

/-!
# When there is nothing to look at

A project may lack every file that a contract is about.  Nothing has been verified
then, and a contract that was accepted must not pass on that account: validation asks
of every requirement that it demands something.  The exception is a check that says
of itself that it may have no files.
-/

namespace SourceContract

open Matching (MatchMode)

/-! ## The files that a requirement is about -/

def FileSet.namedPaths : FileSet → List String
  | .paths ps => ps
  | .walk .. => []

def Requirement.namedPaths : Requirement → List String
  | .present paths => paths
  | .interface _ declaration implementation _ => [declaration, implementation]
  | .fields file .. => [file]
  | .paired file .. => [file]
  | .threshold file .. => [file]
  | .patterns file .. => [file]
  | .forbidden _ files .. => files.namedPaths
  | .tokens rules => rules.map TokenRule.file
  | .count files .. => files.namedPaths

namespace Answers

variable (a : Answers)

/-- The path stands in the requirement, or its walk finds it. -/
inductive Concerns (r : Requirement) (path : String) : Prop where
  | named (h : path ∈ r.namedPaths)
  | found {dir glob : String} {paths : List String} (hwalk : r.walk? = some (dir, glob))
      (hlist : a.list dir glob = .ok paths) (h : path ∈ paths)

def LacksFiles (r : Requirement) : Prop :=
  ∀ path, a.Concerns r path → ¬ a.Loads path fun _ => True

def HasNone (files : FileSet) : Prop := a.filesOf files = .ok [] ∨ a.LacksDirectory files

/-- The requirement allows for a set without files, and has one. -/
def Excuses (r : Requirement) : Prop :=
  ∃ token files require, r = .forbidden token files require true ∧ a.HasNone files

variable {a}

theorem LacksFiles.not_loads {r : Requirement} {path : String} (h : a.LacksFiles r)
    (hpath : path ∈ r.namedPaths) (P : String → Prop) : ¬ a.Loads path P := by
  rintro ⟨text, hread, -⟩
  exact h path (.named hpath) ⟨text, hread, trivial⟩

theorem concerns_of_filesOf {token : String} {files : FileSet} {require paths : List String}
    {allowEmpty : Bool} (h : a.filesOf files = .ok paths) {path : String} (hpath : path ∈ paths) :
    a.Concerns (.forbidden token files require allowEmpty) path := by
  cases files with
  | paths named =>
      cases h
      exact .named hpath
  | walk dir glob => exact .found rfl h hpath

theorem meets_forbidden_iff_of_lacksFiles {mode : MatchMode} {token : String} {files : FileSet}
    {require : List String} {allowEmpty : Bool}
    (h : a.LacksFiles (.forbidden token files require allowEmpty)) :
    a.Meets mode (.forbidden token files require allowEmpty) ↔
      allowEmpty = true ∧ a.HasNone files := by
  constructor
  · rintro (⟨paths, hpaths, hempty, hall⟩ | ⟨hlacks, hallow⟩)
    · have hnone : paths = [] := by
        refine List.eq_nil_iff_forall_not_mem.mpr fun path hpath => ?_
        obtain ⟨text, hread, -⟩ := hall path hpath
        exact h path (concerns_of_filesOf hpaths hpath) ⟨text, hread, trivial⟩
      exact ⟨hempty hnone, Or.inl (hnone ▸ hpaths)⟩
    · exact ⟨hallow, Or.inr hlacks⟩
  · rintro ⟨hallow, hpaths | hlacks⟩
    · exact Or.inl ⟨[], hpaths, fun _ => hallow, List.forall_mem_nil _⟩
    · exact Or.inr ⟨hlacks, hallow⟩

theorem meets_iff_excuses {mode : MatchMode} {r : Requirement} (hpart : r.emptyPart? = none)
    (hcount : r.isCount = false) (hlacks : a.LacksFiles r) : a.Meets mode r ↔ a.Excuses r := by
  have hfile {file : String} (hfile : file ∈ r.namedPaths) {P : String → Prop} {Q : Prop} :
      a.Loads file P → Q := fun hloads => absurd hloads (hlacks.not_loads hfile P)
  cases r with
  | present paths =>
      obtain ⟨path, rest, rfl⟩ := List.exists_cons_of_ne_nil
        (show paths ≠ [] by rintro rfl; contradiction)
      exact ⟨fun h => hfile List.mem_cons_self (h path List.mem_cons_self), nofun⟩
  | interface owner declaration implementation methods =>
      exact ⟨hfile List.mem_cons_self, nofun⟩
  | fields file owner names => exact ⟨hfile List.mem_cons_self, nofun⟩
  | paired file opening closing requireUsage => exact ⟨hfile List.mem_cons_self, nofun⟩
  | threshold file tokens min => exact ⟨hfile List.mem_cons_self, nofun⟩
  | patterns file patterns minCount => exact ⟨hfile List.mem_cons_self, nofun⟩
  | tokens rules =>
      obtain ⟨rule, rest, rfl⟩ := List.exists_cons_of_ne_nil
        (show rules ≠ [] by rintro rfl; contradiction)
      exact ⟨fun h => hfile List.mem_cons_self (h rule List.mem_cons_self), nofun⟩
  | forbidden token files require allowEmpty =>
      rw [meets_forbidden_iff_of_lacksFiles hlacks]
      constructor
      · rintro ⟨rfl, hnone⟩
        exact ⟨token, files, require, rfl, hnone⟩
      · rintro ⟨_, _, _, ⟨⟩, hnone⟩
        exact ⟨rfl, hnone⟩
  | count files tokens unit => contradiction

end Answers

/-! ## Sets without files on a tree -/

theorem matching_eq_nil_iff {root : String} {glob : Glob} {found : List WalkedFile} :
    matching root glob found = [] ↔
      ∀ f ∈ found, glob.isMatch f.name = true → projectPath? root f.path = none := by
  rw [matching, ← List.length_eq_zero_iff, List.length_mergeSort, List.length_eq_zero_iff,
    List.filterMap_eq_nil_iff]
  simp only [List.mem_filter, and_imp]

namespace FileTree

/-- No path stands in the set; or the directory to be walked is not there; or it can be walked, and
there is no file of the project whose name matches. -/
def Vacant (cwd : Location) (root : String) (t : FileTree) : FileSet → Prop
  | .paths paths => paths = []
  | .walk dir glob =>
      t.isDirectory cwd (Path.join root dir) = false ∨
        ∃ compiled found, Glob.compile glob = .ok compiled ∧
          t.walk cwd (Path.join root dir) = .ok found ∧
          ∀ f ∈ found, compiled.isMatch f.name = true → projectPath? root f.path = none

theorem hasNone_iff_vacant {cwd : Location} {root : String} {t : FileTree} {files : FileSet} :
    (t.answers cwd root).HasNone files ↔ t.Vacant cwd root files := by
  cases files with
  | paths ps => simp [Answers.HasNone, Answers.LacksDirectory, Answers.filesOf, Vacant]
  | walk dir glob =>
      simp only [Answers.HasNone, Answers.LacksDirectory, Answers.filesOf, answers, listingOf,
        Vacant]
      cases hdirectory : t.isDirectory cwd (Path.join root dir) with
      | false => simp
      | true =>
          cases Glob.compile glob with
          | error fault => simp [globError]
          | ok compiled =>
              cases t.walk cwd (Path.join root dir) with
              | error fault => simp [walkError]
              | ok found => simp [matching_eq_nil_iff]

/-- No file that the contract is about can be had from the tree. -/
def Barren (cwd : Location) (root : String) (t : FileTree) (c : Contract) : Prop :=
  ∀ k ∈ c.checks, (t.answers cwd root).LacksFiles k.requirement

def Excused (cwd : Location) (root : String) (t : FileTree) (k : Check) : Prop :=
  ∃ token files require, k.requirement = .forbidden token files require true ∧
    t.Vacant cwd root files

theorem alone_passed_iff_excused {cwd : Location} {root : String} {t : FileTree} {k : Check}
    (hfault : k.fault? = none) (hgating : k.isGating = true)
    (hlacks : (t.answers cwd root).LacksFiles k.requirement) (mode : MatchMode) :
    (k.alone ((disk cwd).project root) t mode).passed = true ↔ t.Excused cwd root k := by
  have hpart : k.requirement.emptyPart? = none := (Check.fault?_eq_none_iff.mp hfault).1
  have hcount : k.requirement.isCount = false := by simp_all [Check.isGating]
  rw [alone_passed_iff, Answers.meets_iff_excuses hpart hcount hlacks, Answers.Excuses, Excused]
  simp only [hasNone_iff_vacant]

end FileTree

/-- No contract passes over nothing.  When a contract is accepted and none of the files that it is
about can be had, a check that counts passes exactly when it says that it may have no files and its
set has none; so a single other check that counts is enough for the run not to pass. -/
theorem passes_over_nothing_iff {cwd : Location} {root : String} {t : FileTree} {c : Contract}
    {report : RunReport} (accepted : c.validate = .ok ()) (barren : t.Barren cwd root c)
    (h : Reports ((FileTree.disk cwd).project root) c.name c.matching c.checks t report) :
    let outcome := Check.alone ((FileTree.disk cwd).project root) t c.matching
    report.results = c.checks.map outcome ∧
      (∀ k ∈ c.checks, k.isGating = true →
        ((outcome k).passed = true ↔ t.Excused cwd root k)) ∧
      (report.allPassed = true ↔ ∀ k ∈ c.checks, k.isGating = true → t.Excused cwd root k) := by
  intro outcome
  have still := FileTree.steady_project cwd root t
  have hexcused : ∀ k ∈ c.checks, k.isGating = true →
      ((outcome k).passed = true ↔ t.Excused cwd root k) := by
    intro k hk hgating
    have hfault := (c.validate_eq_ok_iff.mp accepted).faultless k hk
    exact FileTree.alone_passed_iff_excused hfault hgating (barren k hk) c.matching
  refine ⟨h.results_eq still, hexcused, ?_⟩
  rw [h.allPassed_iff still]
  exact forall_congr' fun k => forall_congr' fun hk => forall_congr' fun hgating =>
    hexcused k hk hgating

theorem passes_over_nothing_iff_of_one_header :
    let tree : FileTree := ⟨[(["a.h"], .file "goto".toUTF8)]⟩
    let s := (FileTree.disk []).project "/"
    let tidy : Check := ⟨"tidy", none, false, .forbidden "goto" (.walk "" "*.c") [] true⟩
    let header : Check := ⟨"header", none, false, .present ["b"]⟩
    let report := ((runChecks s false "" .literal [tidy, header]).run tree).1
    (tidy.alone s tree .literal).passed = true ∧ report.allPassed = false := by
  intro tree s tidy header report
  let contract : Contract := { Contract.empty with checks := [tidy, header] }
  have accepted : contract.validate = .ok () := by
    have hnone : contract.fault? = none := by decide +kernel
    rw [Contract.validate, hnone]
  have hvacant : tree.Vacant [] "/" (.walk "" "*.c") :=
    Or.inr ⟨_, [⟨"/a.h", "a.h"⟩], rfl, rfl, by decide +kernel⟩
  have hread : tree.answerTo [] "/" "b" = .error (.notFound "b") := rfl
  have htidy : tree.Excused [] "/" tidy := ⟨_, _, _, rfl, hvacant⟩
  have hheader : ¬ tree.Excused [] "/" header := by
    rintro ⟨_, _, _, hrequirement, -⟩
    cases hrequirement
  have barren : tree.Barren [] "/" contract := by
    intro k hk path hconcerns
    rw [List.mem_cons, List.mem_singleton] at hk
    rcases hk with rfl | rfl
    · cases hconcerns with
      | named h => exact absurd h List.not_mem_nil
      | found hwalk hlist h =>
          cases hwalk
          rcases FileTree.hasNone_iff_vacant.mpr hvacant with hnone | ⟨lacked, hlacked⟩
          · cases hlist.symm.trans hnone
            exact absurd h List.not_mem_nil
          · cases hlist.symm.trans hlacked
    · cases hconcerns with
      | named h =>
          obtain rfl := List.mem_singleton.mp h
          rintro ⟨text, htext, -⟩
          cases hread.symm.trans htext
      | found hwalk hlist h => cases hwalk
  obtain ⟨-, hpassed, hall⟩ :=
    passes_over_nothing_iff (c := contract) accepted barren .inSequence
  refine ⟨(hpassed tidy List.mem_cons_self rfl).mpr htidy, ?_⟩
  rw [← Bool.not_eq_true]
  exact fun h => hheader (hall.mp h header (by simp [contract]) rfl)

end SourceContract
