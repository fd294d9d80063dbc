import Mathlib.Data.Finset.Card
import Mathlib.Data.List.Duplicate
import Mathlib.Data.List.Nodup
import SourceContract.Proofs.Verdict.Totals

/-!
# How missing files are reported

A check that lacks required files names them and has one issue for each, as often as
they stand among its required files.  Rules on one file require it once.  A check that
takes one file for declaration and implementation requires it twice, and a forbidden
token requires every file of its list as it stands there; so a file that is missing is
then reported more than once.
-/

namespace SourceContract

open Matching (MatchMode)

/-! ## Required files -/

/-- The requirement names the path more than once, and does not gather what it names. -/
def Requirement.Repeats (path : String) : Requirement → Prop
  | .interface _ declaration implementation _ => declaration = path ∧ implementation = path
  | .forbidden _ (.paths paths) .. => List.Duplicate path paths
  | _ => False

namespace Check

variable {c : Check} {path : String}

theorem nodup_ruleFiles (rules : List TokenRule) : (ruleFiles rules).Nodup := by
  suffices h : ∀ files : List String, files.Nodup → (rules.foldl (fun files r =>
      if files.contains r.file then files else files ++ [r.file]) files).Nodup from
    h [] List.nodup_nil
  induction rules with
  | nil => exact fun _ h => h
  | cons rule rest ih =>
      intro files hfiles
      rw [List.foldl_cons]
      apply ih
      by_cases hknown : rule.file ∈ files
      · rw [if_pos (List.contains_iff_mem.mpr hknown)]
        exact hfiles
      · rw [if_neg (by simpa using hknown)]
        exact List.concat_eq_append ▸ hfiles.concat hknown

theorem count_requiredFiles (hkind : reportsMissing c.requirement = false)
    (hpath : path ∈ c.requiredFiles) :
    c.requiredFiles.count path = 1 ↔ ¬ c.requirement.Repeats path := by
  unfold requiredFiles at hpath ⊢
  cases hreq : c.requirement with
  | present paths =>
      rw [hreq] at hkind
      contradiction
  | count files tokens unit =>
      rw [hreq] at hpath
      exact absurd hpath List.not_mem_nil
  | interface owner declaration implementation methods =>
      rw [hreq] at hpath
      simp only [List.mem_cons, List.not_mem_nil, or_false] at hpath
      simp only [Requirement.Repeats, List.count_cons, List.count_nil, beq_iff_eq]
      by_cases hdeclaration : declaration = path
      · by_cases himplementation : implementation = path
        · simp [hdeclaration, himplementation]
        · simp [hdeclaration, himplementation]
      · have himplementation : implementation = path := by
          rcases hpath with rfl | rfl
          · exact absurd rfl hdeclaration
          · rfl
        simp [hdeclaration, himplementation]
  | forbidden token files require allowEmpty =>
      rw [hreq] at hpath
      cases files with
      | walk dir glob => exact absurd hpath List.not_mem_nil
      | paths paths =>
          have hone : 1 ≤ paths.count path := List.one_le_count_iff.mpr hpath
          simp only [Requirement.Repeats, List.duplicate_iff_two_le_count]
          omega
  | tokens rules =>
      rw [hreq] at hpath
      have hone : (ruleFiles rules).count path = 1 :=
        List.count_eq_one_of_mem (nodup_ruleFiles rules) hpath
      simp only [Requirement.Repeats, hone, not_false_eq_true]
  | fields file _ _ | paired file _ _ _ | threshold file _ _ | patterns file _ _ =>
      rw [hreq] at hpath
      have hone : [file].count path = 1 :=
        List.count_eq_one_of_mem (List.nodup_singleton file) hpath
      simp only [Requirement.Repeats, hone, not_false_eq_true]

/-! ## Results that name missing files -/

variable {a : Answers} {mode : MatchMode}

def lacking (a : Answers) (c : Check) : List String :=
  c.requiredFiles.filter fun path => !Corpus.isText (a.read path)

theorem count_lacking (h : path ∈ c.lacking a) :
    (c.lacking a).count path = c.requiredFiles.count path := by
  obtain ⟨-, hfails⟩ := List.mem_filter.mp h
  exact List.count_filter (p := fun path => !Corpus.isText (a.read path)) hfails

theorem count_lacking_eq_one_iff (hkind : reportsMissing c.requirement = false)
    (h : path ∈ c.lacking a) : (c.lacking a).count path = 1 ↔ ¬ c.requirement.Repeats path := by
  rw [count_lacking h]
  exact count_requiredFiles hkind (List.mem_of_mem_filter h)

theorem nodup_lacking (hkind : reportsMissing c.requirement = false)
    (honce : ∀ path ∈ c.lacking a, ¬ c.requirement.Repeats path) : (c.lacking a).Nodup := by
  apply List.nodup_iff_count_le_one.mpr
  intro path
  by_cases hpath : path ∈ c.lacking a
  · exact ((count_lacking_eq_one_iff hkind hpath).mpr (honce path hpath)).le
  · rw [List.count_eq_zero_of_not_mem hpath]
    exact Nat.zero_le 1

/-- The result fails for the missing files, and names each as often as it is listed. -/
structure Names (c : Check) (a : Answers) (missing : List String) (r : CheckResult) : Prop where
  failed : r.passed = false
  message_eq : r.message = "file not found: " ++ ", ".intercalate missing
  issues_eq : ∃ errors : List LoadError, errors.map LoadError.path = missing ∧
    (∀ e ∈ errors, a.read e.path = .error e) ∧
    r.issues = errors.map fun e => c.issue .missingResource e.message 1
  issueCount_eq : r.issueCount = missing.length

theorem issueCount_missingFiles (errors : List LoadError) :
    (c.missingFiles errors).issueCount = errors.length := by
  rw [CheckResult.issueCount, issues_missingFiles, List.map_map]
  induction errors with
  | nil => rfl
  | cons e rest ih =>
      rw [List.map_cons, List.foldr_cons, ih, List.length_cons]
      exact Nat.add_comm 1 rest.length

theorem names_missingFiles {errors : List LoadError} (h : errors ≠ [])
    (hread : ∀ e ∈ errors, a.read e.path = .error e) :
    c.Names a (errors.map LoadError.path) (c.missingFiles errors) := by
  refine ⟨(decided_missingFiles h).passed_eq, ?_, ⟨errors, rfl, hread, issues_missingFiles _⟩, ?_⟩
  · rw [missingFiles, CheckResult.withIssues_eq]
    rfl
  · rw [issueCount_missingFiles, List.length_map]

theorem path_errorsOf (honest : ∀ path e, a.read path = .error e → e.path = path)
    (paths : List String) :
    (errorsOf (paths.map fun path => (path, a.read path))).map LoadError.path =
      paths.filter fun path => !Corpus.isText (a.read path) := by
  induction paths with
  | nil => rfl
  | cons path rest ih =>
      rw [List.map_cons, errorsOf, List.filterMap_cons, List.filter_cons]
      cases hread : a.read path with
      | ok text => exact ih
      | error e =>
          rw [List.map_cons, honest path e hread]
          exact congrArg (path :: ·) ih

theorem read_of_mem_errorsOf (honest : ∀ path e, a.read path = .error e → e.path = path)
    {paths : List String} {e : LoadError}
    (h : e ∈ errorsOf (paths.map fun path => (path, a.read path))) : a.read e.path = .error e := by
  obtain ⟨answer, hanswer, herror⟩ := List.mem_filterMap.mp h
  obtain ⟨path, -, rfl⟩ := List.mem_map.mp hanswer
  cases hread : a.read path with
  | ok text => simp [hread] at herror
  | error e' =>
      obtain rfl : e' = e := by simpa [hread] using herror
      rw [honest path e' hread, hread]

theorem names_verdict (honest : ∀ path e, a.read path = .error e → e.path = path)
    (hkind : reportsMissing c.requirement = false) (hlacking : c.lacking a ≠ []) :
    c.Names a (c.lacking a) (c.verdict a mode) := by
  have hpaths := path_errorsOf honest c.requiredFiles
  have herrors : errorsOf (c.requiredFiles.map fun path => (path, a.read path)) ≠ [] := by
    intro hnone
    rw [hnone] at hpaths
    exact hlacking hpaths.symm
  have hnames := names_missingFiles (c := c) herrors fun e => read_of_mem_errorsOf honest
  rw [hpaths] at hnames
  rw [verdict_eq, prerequisites_eq hkind]
  simp only [List.isEmpty_eq_false_iff.mpr herrors, Bool.false_eq_true, if_false]
  exact ⟨hnames.failed, hnames.message_eq, hnames.issues_eq, hnames.issueCount_eq⟩

end Check

/-! ## Reports on a tree -/

theorem Reports.issueCount_eq {σ : Type} {s : Source (StateM σ)} {w : σ} (still : s.Steady w)
    {name : String} {mode : MatchMode} {checks : List Check} {report : RunReport}
    (h : Reports s name mode checks w report) :
    report.stats.issueCount =
      ((checks.filter Check.isGating).map fun c => (c.alone s w mode).issueCount).sum := by
  rw [h.eq_aggregate still]
  change ((_ : List CheckResult).flatMap CheckResult.issues |>.map Issue.count).foldr _ 0 = _
  rw [RunReport.issueCount_eq_sum, RunReport.gating_verdicts, List.map_map]
  simp only [Check.alone_eq still]
  rfl

theorem FileTree.path_of_answerTo {cwd : Location} {root : String} {t : FileTree} {path : String}
    {e : LoadError} (h : t.answerTo cwd root path = .error e) : e.path = path := by
  unfold answerTo at h
  cases hread : t.read cwd (Path.join root path) with
  | ok bytes => simp [hread] at h
  | error fault =>
      obtain rfl : loadError path _ fault = e := by simpa [hread] using h
      unfold loadError
      split
      next => rfl
      next => rfl

/-- Missing files are reported as often as they are required.  When a check lacks required files,
its result names them in order and has one issue for each; a file stands there once, unless the
check is about one file as declaration and implementation, or about a list that repeats the file.
Without such a file the check has as many issues as there are missing files, and this is what it
adds to the number of issues of the run, if it counts. -/
theorem missing_files_are_named_as_required {cwd : Location} {root name : String} {t : FileTree}
    {mode : MatchMode} {checks : List Check} {report : RunReport}
    (h : Reports ((FileTree.disk cwd).project root) name mode checks t report) :
    let a := t.answers cwd root
    let outcome := Check.alone ((FileTree.disk cwd).project root) t mode
    report.results = checks.map outcome ∧
      report.stats.issueCount =
        ((checks.filter Check.isGating).map fun c => (outcome c).issueCount).sum ∧
      ∀ c ∈ checks, Check.reportsMissing c.requirement = false → c.lacking a ≠ [] →
        c.Names a (c.lacking a) (outcome c) ∧
          (∀ path ∈ c.lacking a, (c.lacking a).count path = 1 ↔ ¬ c.requirement.Repeats path) ∧
          ((∀ path ∈ c.lacking a, ¬ c.requirement.Repeats path) →
            (outcome c).issueCount = (c.lacking a).toFinset.card) := by
  intro a outcome
  have still := FileTree.steady_project cwd root t
  refine ⟨h.results_eq still, h.issueCount_eq still, ?_⟩
  intro c _ hkind hlacking
  have hnames : c.Names a (c.lacking a) (outcome c) := by
    change c.Names a (c.lacking a) (c.alone _ _ _)
    rw [Check.alone_eq still, FileTree.at_project]
    exact Check.names_verdict (fun path e => FileTree.path_of_answerTo) hkind hlacking
  refine ⟨hnames, fun path => Check.count_lacking_eq_one_iff hkind, ?_⟩
  intro honce
  rw [hnames.issueCount_eq, List.toFinset_card_of_nodup (Check.nodup_lacking hkind honce)]

theorem missing_files_are_named_as_required_by_two_rules :
    let s := (FileTree.disk []).project "/"
    let errors : Check := ⟨"errors", none, false, .tokens [⟨"a", ["open"], 1⟩, ⟨"a", ["shut"], 6⟩]⟩
    let report := ((runChecks s false "" .literal [errors]).run .empty).1
    (errors.alone s .empty .literal).message = "file not found: a" ∧
      (errors.alone s .empty .literal).issueCount = 1 ∧ report.stats.issueCount = 1 := by
  intro s errors report
  have hread : FileTree.empty.answerTo [] "/" "a" = .error (.notFound "a") := rfl
  have hlacking : errors.lacking (FileTree.empty.answers [] "/") = ["a"] := by
    change List.filter _ ["a"] = _
    simp only [List.filter_cons, FileTree.answers, hread]
    rfl
  have h : Reports s "" .literal [errors] .empty report := .inSequence
  obtain ⟨-, htotal, hchecks⟩ := missing_files_are_named_as_required h
  obtain ⟨hnames, -, hcount⟩ := hchecks errors List.mem_cons_self rfl (by simp [hlacking])
  have hone := hcount (fun _ _ h => h)
  rw [hlacking] at hnames hone
  refine ⟨hnames.message_eq, hone, ?_⟩
  rw [htotal]
  exact congrArg (· + 0) hone

/-- A header that is taken for declaration and implementation, and is not there, is one missing
file with two issues. -/
theorem missing_header_is_named_twice :
    let io : Check := ⟨"io", none, false, .interface "Io" "a" "a" ["open"]⟩
    let r := io.alone ((FileTree.disk []).project "/") .empty .literal
    r.message = "file not found: a, a" ∧ r.issueCount = 2 ∧
      r.issues = List.replicate 2 (io.issue .missingResource "file not found: a" 1) := by
  intro io r
  have hread : (FileTree.empty.answers [] "/").read "a" = .error (.notFound "a") := rfl
  have herrors : Check.errorsOf (io.prerequisites.map fun path =>
      (path, (FileTree.empty.answers [] "/").read path)) = [.notFound "a", .notFound "a"] := by
    change Check.errorsOf [("a", _), ("a", _)] = _
    rw [hread]
    rfl
  have hr : r = (io.missingFiles [.notFound "a", .notFound "a"]).withInformational false := by
    change io.alone _ _ _ = _
    rw [Check.alone_eq (FileTree.steady_project [] "/" .empty), FileTree.at_project,
      Check.verdict_eq, herrors]
    rfl
  rw [hr]
  decide +kernel

end SourceContract
