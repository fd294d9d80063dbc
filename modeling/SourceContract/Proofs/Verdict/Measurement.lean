import Mathlib.Algebra.Order.BigOperators.Group.List
import Mathlib.Algebra.Order.Group.Nat
import SourceContract.Proofs.Verdict.FileSet

/-!
# What a measurement measures

A measurement adds up what it counts in the texts that its paths give, and lists the
paths that give none.  It has a value whatever happens, also when it is not known which
files there are, and it never counts towards a verdict.  Counting files instead of
occurrences gives a smaller value, but zero only where there is nothing to count.
-/

namespace SourceContract

open Matching (MatchMode count occurrences)

variable {a : Answers} {c : Check} {tokens paths : List String} {unit : CountUnit}

/-! ## Quantities -/

namespace Answers

/-- All uses of the tokens in the texts that the paths give; or the number of those texts in which
some token is used. -/
def quantity (a : Answers) (tokens : List String) : CountUnit → List String → Nat
  | .occurrences, paths =>
      ((a.texts paths).map fun text => (tokens.map fun token => count text token).sum).sum
  | .files, paths =>
      (a.texts paths).countP fun text => tokens.any fun token => count text token != 0

theorem quantity_eq_sum (a : Answers) (tokens : List String) (unit : CountUnit)
    (paths : List String) :
    ((a.texts paths).map (Check.measure tokens unit)).sum = a.quantity tokens unit paths := by
  cases unit with
  | occurrences => rfl
  | files =>
      simp only [quantity]
      induction a.texts paths with
      | nil => rfl
      | cons text rest ih =>
          rw [List.map_cons, List.sum_cons, List.countP_cons, ih, Nat.add_comm]
          congr 1
          by_cases hzero : occurrences text tokens = 0
          · rw [Check.measure, if_pos hzero, Matching.occurrences_eq_zero_iff.mp hzero]
            rfl
          · have hsome := mt Matching.occurrences_eq_zero_iff.mpr hzero
            rw [Check.measure, if_neg hzero, if_pos (by simpa using hsome)]

theorem quantity_files_le_length (a : Answers) (tokens paths : List String) :
    a.quantity tokens .files paths ≤ (a.texts paths).length :=
  List.countP_le_length

theorem quantity_files_le (a : Answers) (tokens paths : List String) :
    a.quantity tokens .files paths ≤ a.quantity tokens .occurrences paths := by
  rw [← quantity_eq_sum, ← quantity_eq_sum]
  refine List.sum_le_sum fun text _ => ?_
  simp only [Check.measure]
  split
  next => exact Nat.zero_le _
  next h => exact Nat.pos_of_ne_zero h

theorem quantity_files_eq_zero_iff (a : Answers) (tokens paths : List String) :
    a.quantity tokens .files paths = 0 ↔ a.quantity tokens .occurrences paths = 0 := by
  rw [← quantity_eq_sum, ← quantity_eq_sum]
  simp only [List.sum_eq_zero_iff, List.mem_map, forall_exists_index, and_imp,
    forall_apply_eq_imp_iff₂, Check.measure]
  refine forall_congr' fun text => forall_congr' fun _ => ?_
  split
  next h => simp [h]
  next h => simp [h]

end Answers

/-! ## Results -/

namespace Check

/-- The result does not count towards a verdict, and what its value and its issues are is settled by
the files of the set, or by what is known of them. -/
structure Measures (c : Check) (a : Answers) (files : FileSet) (tokens : List String)
    (unit : CountUnit) (r : CheckResult) : Prop where
  informational : r.informational = true
  lacking : a.LacksDirectory files → r.value = some 0 ∧ r.passed = true
  unresolved : ∀ e, a.filesOf files = .error e → (∀ dir, e ≠ .notFound dir) →
    r.value = some 0 ∧ r.issues = [⟨c.name, .missingResource, e.message, 1⟩]
  resolved : ∀ paths, a.filesOf files = .ok paths →
    r.value = some (a.quantity tokens unit paths) ∧
      r.issues = (a.faults paths).map fun e => ⟨c.name, .missingResource, e.message, 1⟩

theorem value_decideCount (c : Check) (a : Answers) (tokens : List String) (unit : CountUnit)
    (paths : List String) :
    (c.decideCount tokens unit (paths.map fun path => (path, a.read path))).value =
      some (a.quantity tokens unit paths) := by
  rw [← Answers.quantity_eq_sum, ← totalOf_eq_sum]
  rfl

theorem issues_decideCount (c : Check) (a : Answers) (tokens : List String) (unit : CountUnit)
    (paths : List String) :
    (c.decideCount tokens unit (paths.map fun path => (path, a.read path))).issues =
      (a.faults paths).map fun e => ⟨c.name, .missingResource, e.message, 1⟩ := by
  simp only [decideCount, CheckResult.withValue, CheckResult.settled, CheckResult.withIssues_eq,
    errorsOf_eq_faults, List.map_map]
  rfl

theorem verdict_count_of_missing {mode : MatchMode} {files : FileSet} {dir : String}
    (h : c.requirement = .count files tokens unit)
    (hfiles : a.filesOf files = .error (.notFound dir)) :
    c.verdict a mode =
      ((c.passing ("0 (no directory " ++ dir ++ ")")).withValue 0).withInformational true := by
  rw [verdict_count a mode h]
  simp only [judge, Access.value_bind, value_fileSet, hfiles, Access.value_pure]

theorem verdict_count_of_unreadable {mode : MatchMode} {files : FileSet} {path reason : String}
    (h : c.requirement = .count files tokens unit)
    (hfiles : a.filesOf files = .error (.unreadable path reason)) :
    c.verdict a mode =
      ((c.missingFiles [.unreadable path reason]).withValue 0).withInformational true := by
  rw [verdict_count a mode h]
  simp only [judge, Access.value_bind, value_fileSet, hfiles, Access.value_pure]

theorem verdict_measures (a : Answers) (mode : MatchMode) {files : FileSet}
    (h : c.requirement = .count files tokens unit) :
    c.Measures a files tokens unit (c.verdict a mode) where
  informational := by
    rw [verdict_count a mode h]
    rfl
  lacking := by
    rintro ⟨dir, hfiles⟩
    rw [verdict_count_of_missing h hfiles]
    exact ⟨rfl, rfl⟩
  unresolved := by
    intro e hfiles hother
    cases e with
    | notFound dir => exact absurd rfl (hother dir)
    | unreadable path reason =>
        rw [verdict_count_of_unreadable h hfiles]
        exact ⟨rfl, rfl⟩
  resolved := by
    intro paths hfiles
    rw [verdict_count a mode h, value_judge_count hfiles]
    exact ⟨c.value_decideCount a tokens unit paths, c.issues_decideCount a tokens unit paths⟩

theorem Measures.value_of_error {r : CheckResult} {files : FileSet} {e : LoadError}
    (h : c.Measures a files tokens unit r) (hfiles : a.filesOf files = .error e) :
    r.value = some 0 := by
  cases e with
  | notFound dir => exact (h.lacking ⟨dir, hfiles⟩).1
  | unreadable path reason => exact (h.unresolved _ hfiles fun _ => nofun).1

theorem Measures.exists_value {r : CheckResult} {files : FileSet}
    (h : c.Measures a files tokens unit r) : ∃ n, r.value = some n := by
  cases hfiles : a.filesOf files with
  | ok paths => exact ⟨_, (h.resolved paths hfiles).1⟩
  | error e => exact ⟨0, h.value_of_error hfiles⟩

theorem Measures.exists_values {c c' : Check} {r r' : CheckResult} {files : FileSet}
    (h : c.Measures a files tokens .occurrences r) (h' : c'.Measures a files tokens .files r') :
    ∃ uses holders, r.value = some uses ∧ r'.value = some holders ∧
      holders ≤ uses ∧ (holders = 0 ↔ uses = 0) ∧
      ∀ paths, a.filesOf files = .ok paths → holders ≤ (a.texts paths).length := by
  cases hfiles : a.filesOf files with
  | ok paths =>
      refine ⟨_, _, (h.resolved paths hfiles).1, (h'.resolved paths hfiles).1,
        a.quantity_files_le tokens paths, a.quantity_files_eq_zero_iff tokens paths, ?_⟩
      intro others hothers
      obtain rfl : paths = others := Except.ok.inj hothers
      exact a.quantity_files_le_length tokens paths
  | error e =>
      refine ⟨0, 0, h.value_of_error hfiles, h'.value_of_error hfiles, Nat.le_refl _, Iff.rfl, ?_⟩
      intro paths hpaths
      cases hpaths

end Check

/-! ## Evaluation -/

variable {σ : Type} {s : Source (StateM σ)} {w : σ}

/-- Measurements are exact and never gate.  While the files do not change, whatever the corpus
remembers, a measurement has the value that the files of its set give, and lists those that cannot
be had.  The number of files is at most the number of texts and at most the number of occurrences,
and zero only together with it. -/
theorem measurements_are_exact (still : s.Steady w) (corpus : Corpus) (mode : MatchMode)
    (files : FileSet) (tokens : List String) :
    let a := corpus.tells (s.at w)
    (∀ (c : Check) (unit : CountUnit), c.requirement = .count files tokens unit →
        c.isGating = false ∧ (∃ n, (c.outcome s corpus w mode).value = some n) ∧
          c.Measures a files tokens unit (c.outcome s corpus w mode)) ∧
      ∀ c c' : Check, c.requirement = .count files tokens .occurrences →
        c'.requirement = .count files tokens .files →
        ∃ uses holders, (c.outcome s corpus w mode).value = some uses ∧
          (c'.outcome s corpus w mode).value = some holders ∧
          holders ≤ uses ∧ (holders = 0 ↔ uses = 0) ∧
          ∀ paths, a.filesOf files = .ok paths → holders ≤ (a.texts paths).length := by
  intro a
  have hmeasures (c : Check) (unit : CountUnit) (h : c.requirement = .count files tokens unit) :
      c.Measures a files tokens unit (c.outcome s corpus w mode) := by
    rw [Check.outcome_eq still]
    exact Check.verdict_measures a mode h
  refine ⟨fun c unit h => ?_, ?_⟩
  · exact ⟨Check.isGating_of_count h, (hmeasures c unit h).exists_value, hmeasures c unit h⟩
  · exact fun c c' h h' => (hmeasures c .occurrences h).exists_values (hmeasures c' .files h')

theorem measurements_are_exact_of_repeated_path :
    let s : Source (StateM Unit) :=
      { read := fun path =>
          pure (if path = "a.h" then .ok "open close open" else .error (.notFound path))
        list := fun _ _ => pure (.ok ["a.h", "b.h", "a.h", "c.h"]) }
    let corpus := Corpus.empty.add "c.h" (.ok "lock")
    let headers : FileSet := .walk "" "*.h"
    let uses (unit : CountUnit) : Check := ⟨"uses", none, false, .count headers ["open"] unit⟩
    s.Steady () ∧ ((uses .occurrences).outcome s corpus () .literal).value = some 4 ∧
      ((uses .files).outcome s corpus () .literal).value = some 2 := by
  intro s corpus headers uses
  have still : s.Steady () := ⟨fun _ => rfl, fun _ _ => rfl⟩
  obtain ⟨hexact, -⟩ := measurements_are_exact still corpus .literal headers ["open"]
  have hfour : (corpus.tells (s.at ())).quantity ["open"] .occurrences
      ["a.h", "b.h", "a.h", "c.h"] = 4 := by
    decide +kernel
  have htwo : (corpus.tells (s.at ())).quantity ["open"] .files
      ["a.h", "b.h", "a.h", "c.h"] = 2 := by
    decide +kernel
  refine ⟨still, ?_, ?_⟩
  · rw [← hfour]
    exact ((hexact (uses .occurrences) _ rfl).2.2.resolved _ rfl).1
  · rw [← htwo]
    exact ((hexact (uses .files) _ rfl).2.2.resolved _ rfl).1

end SourceContract
