import Mathlib.Algebra.GroupWithZero.Nat
import SourceContract.Proofs.Corpus.Recall
import SourceContract.Proofs.Verdict.Meaning

/-!
# Checks over sets of files

A check over a set of files comes down to what each path of the set gives: a text, or
the reason why there is none.  What the check decides can be said with these two lists,
whether it is on a corpus of its own or on one that remembers other files.
-/

namespace SourceContract

open Matching (MatchMode)

variable {σ : Type} {s : Source (StateM σ)} {w : σ} {a : Answers} {c : Check}
  {mode : MatchMode}

/-! ## Texts and faults -/

namespace Answers

variable (a : Answers)

def texts (paths : List String) : List String :=
  paths.filterMap fun path => (a.read path).toOption

def faults (paths : List String) : List LoadError :=
  paths.filterMap fun path => match a.read path with
    | .ok _ => none
    | .error e => some e

variable {a} {path : String} {paths : List String}

theorem texts_cons_of_ok {text : String} (h : a.read path = .ok text) :
    a.texts (path :: paths) = text :: a.texts paths :=
  List.filterMap_cons_some (by rw [h]; rfl)

theorem texts_cons_of_error {e : LoadError} (h : a.read path = .error e) :
    a.texts (path :: paths) = a.texts paths :=
  List.filterMap_cons_none (by rw [h]; rfl)

theorem faults_cons_of_ok {text : String} (h : a.read path = .ok text) :
    a.faults (path :: paths) = a.faults paths :=
  List.filterMap_cons_none (by rw [h])

theorem faults_cons_of_error {e : LoadError} (h : a.read path = .error e) :
    a.faults (path :: paths) = e :: a.faults paths :=
  List.filterMap_cons_some (by rw [h])

end Answers

namespace Check

theorem errorsOf_eq_faults (a : Answers) (paths : List String) :
    errorsOf (paths.map fun path => (path, a.read path)) = a.faults paths := by
  rw [errorsOf, List.filterMap_map]
  rfl

theorem totalOf_eq_sum (a : Answers) (n : String → Nat) (paths : List String) :
    totalOf n (paths.map fun path => (path, a.read path)) = ((a.texts paths).map n).sum := by
  induction paths with
  | nil => rfl
  | cons path rest ih =>
      simp only [totalOf, List.map_cons, List.foldr_cons] at ih ⊢
      rw [ih]
      cases hread : a.read path with
      | ok text => rw [Answers.texts_cons_of_ok hread, List.map_cons, List.sum_cons]
      | error e => rw [Answers.texts_cons_of_error hread, Nat.zero_add]

/-! ## On a corpus in any state -/

def outcome (s : Source (StateM σ)) (corpus : Corpus) (w : σ) (mode : MatchMode) (c : Check) :
    CheckResult :=
  (((c.evaluate mode).run s corpus).run w).1.1

theorem outcome_eq (still : s.Steady w) (corpus : Corpus) (mode : MatchMode) (c : Check) :
    c.outcome s corpus w mode = c.verdict (corpus.tells (s.at w)) mode :=
  Access.run_tells still (c.evaluate mode) corpus

/-! ## Files to be judged -/

theorem value_judge_forbidden {token : String} {files : FileSet} {require paths : List String}
    {allowEmpty : Bool} (h : a.filesOf files = .ok paths) :
    (c.judge mode (.forbidden token files require allowEmpty)).value a =
      c.decideForbidden token require allowEmpty (paths.map fun path => (path, a.read path)) := by
  simp only [judge, Access.value_bind, value_fileSet, h, Access.value_entries, Access.value_pure]

theorem value_judge_count {files : FileSet} {tokens paths : List String} {unit : CountUnit}
    (h : a.filesOf files = .ok paths) :
    (c.judge mode (.count files tokens unit)).value a =
      c.decideCount tokens unit (paths.map fun path => (path, a.read path)) := by
  simp only [judge, Access.value_bind, value_fileSet, h, Access.value_entries, Access.value_pure]

theorem isGating_of_count {files : FileSet} {tokens : List String} {unit : CountUnit}
    (h : c.requirement = .count files tokens unit) : c.isGating = false := by
  simp [isGating, h, Requirement.isCount]

/-- A measurement passes over what it cannot read, so nothing comes before it. -/
theorem verdict_count (a : Answers) (mode : MatchMode) {files : FileSet} {tokens : List String}
    {unit : CountUnit} (h : c.requirement = .count files tokens unit) :
    c.verdict a mode =
      ((c.judge mode (.count files tokens unit)).value a).withInformational true := by
  have hnone : c.prerequisites = [] := by simp [prerequisites, reportsMissing, requiredFiles, h]
  rw [verdict_of_loads mode (by simp [hnone]), h, isGating_of_count h, Bool.not_false]

theorem verdict_forbidden {token : String} {files : FileSet} {require paths : List String}
    {allowEmpty : Bool} (h : c.requirement = .forbidden token files require allowEmpty)
    (hthere : ∀ path ∈ c.requiredFiles, a.Loads path fun _ => True)
    (hfiles : a.filesOf files = .ok paths) :
    c.verdict a mode = (c.decideForbidden token require allowEmpty
      (paths.map fun path => (path, a.read path))).withInformational (!c.isGating) := by
  rw [← prerequisites_eq (by rw [h]; rfl)] at hthere
  rw [verdict_of_loads mode hthere, h, value_judge_forbidden hfiles]

end Check

end SourceContract
