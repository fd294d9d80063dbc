import SourceContract.Proofs.CommandLine.Invocation

/-!
# What the exit code says

A run of the command ends with 0 when every check that counts has passed, with 1 when
one has not, and with 2 when something stood in the way of a verdict, or of saving
it.  What can stand in the way is said here without running anything.
-/

namespace SourceContract.CommandLine

open FileTree

variable (cwd : Location) (t : FileTree)

/-! ## Verdicts -/

def PassesOn (root : String) (c : Contract) : Prop :=
  ∀ k ∈ c.checks, k.isGating = true →
    (k.alone ((disk cwd).project root) t c.matching).passed = true

theorem reportOn_allPassed_iff (root : String) (c : Contract) :
    (reportOn cwd t root c).allPassed = true ↔ PassesOn cwd t root c :=
  Reports.inSequence.allPassed_iff (steady_project cwd root t)

/-- The run comes to a verdict on the contract, and delivers it. -/
structure Judged (now : String) (o : Options) (root : String) (c : Contract) : Prop where
  ready : Ready cwd t o root c
  delivers : Delivers cwd t now o root c

/-! ## Obstacles -/

/-- What stands in the way of a verdict that is delivered. -/
inductive Obstacle (now : String) (o : Options) : Prop where
  | unknownFormat (pretty : o.format ≠ "pretty") (json : o.format ≠ "json")
  | noRoot (h : ∀ root, ¬ HasRoot cwd t o.root root)
  | noContract {root : String} (hasRoot : HasRoot cwd t o.root root)
      (h : ∀ c, ¬ (origin cwd t o root).Gives cwd t c)
  | invalidContract {root : String} {c : Contract} {fault : ContractFault}
      (hasRoot : HasRoot cwd t o.root root) (gives : (origin cwd t o root).Gives cwd t c)
      (h : c.validate = .error fault)
  | unsavedReport {root : String} {c : Contract} (hasRoot : HasRoot cwd t o.root root)
      (gives : (origin cwd t o root).Gives cwd t c) (wanted : o.noReport = false)
      (h : ¬ Saves cwd t (reportFile o root c) (document cwd t now root c))

variable {cwd t}

theorem HasRoot.unique {path : Option String} {root root' : String}
    (h : HasRoot cwd t path root) (h' : HasRoot cwd t path root') : root = root' :=
  Except.ok.inj (h.1.symm.trans h'.1)

theorem Ready.unique {o : Options} {root root' : String} {c c' : Contract}
    (h : Ready cwd t o root c) (h' : Ready cwd t o root' c') : root = root' ∧ c = c' := by
  obtain rfl := h.hasRoot.unique h'.hasRoot
  exact ⟨rfl, h.gives.unique h'.gives⟩

theorem obstacle_iff_not_judged {now : String} {o : Options} :
    Obstacle cwd t now o ↔ ∀ root c, ¬ Judged cwd t now o root c := by
  constructor
  · rintro h root c ⟨⟨hformat, hroot, hgives, hvalid⟩, hdelivers⟩
    cases h with
    | unknownFormat pretty json =>
        rcases hformat with h | h
        · exact pretty h
        · exact json h
    | noRoot h => exact h root hroot
    | noContract hasRoot h =>
        obtain rfl := hasRoot.unique hroot
        exact h c hgives
    | invalidContract hasRoot gives h =>
        obtain rfl := hasRoot.unique hroot
        obtain rfl := gives.unique hgives
        rw [hvalid] at h
        contradiction
    | unsavedReport hasRoot gives wanted h =>
        obtain rfl := hasRoot.unique hroot
        obtain rfl := gives.unique hgives
        rcases hdelivers with hnone | hsaves
        · rw [wanted] at hnone
          contradiction
        · exact h hsaves
  · intro hnone
    by_cases hformat : o.format ≠ "pretty" ∧ o.format ≠ "json"
    · exact .unknownFormat hformat.1 hformat.2
    by_cases hroot : ∃ root, HasRoot cwd t o.root root
    case neg => exact .noRoot fun root h => hroot ⟨root, h⟩
    obtain ⟨root, hroot⟩ := hroot
    by_cases hgives : ∃ c, (origin cwd t o root).Gives cwd t c
    case neg => exact .noContract hroot fun c h => hgives ⟨c, h⟩
    obtain ⟨c, hgives⟩ := hgives
    cases hvalid : c.validate with
    | error fault => exact .invalidContract hroot hgives hvalid
    | ok =>
        have hknown : o.format = "pretty" ∨ o.format = "json" := by grind
        have hdelivers : ¬ Delivers cwd t now o root c := fun h =>
          hnone root c ⟨⟨hknown, hroot, hgives, hvalid⟩, h⟩
        have hwanted : o.noReport = false := by
          rw [← Bool.not_eq_true]
          exact fun h => hdelivers (Or.inl h)
        exact .unsavedReport hroot hgives hwanted fun h => hdelivers (Or.inr h)

/-! ## Exit codes -/

theorem exitCode_reportOn_eq_zero_iff {root : String} {c : Contract} :
    exitCode (reportOn cwd t root c) = 0 ↔ PassesOn cwd t root c := by
  rw [← reportOn_allPassed_iff, exitCode]
  split <;> simp_all

theorem exitCode_reportOn_eq_one_iff {root : String} {c : Contract} :
    exitCode (reportOn cwd t root c) = 1 ↔ ¬ PassesOn cwd t root c := by
  rw [← reportOn_allPassed_iff, exitCode]
  split <;> simp_all

section ExitCode

variable {colour : Bool} {now : String} {o : Options} {outcome : Outcome} {after : FileTree}

theorem Course.exitCode_of_judged (h : Course cwd t colour now o outcome after)
    (hlist : o.listTemplates = false) {root : String} {c : Contract}
    (hjudged : Judged cwd t now o root c) :
    outcome.exitCode = exitCode (reportOn cwd t root c) := by
  cases h with
  | listed h => simp [hlist] at h
  | stopped _ hready => exact absurd hjudged.ready (hready root c)
  | shown _ hready =>
      obtain ⟨rfl, rfl⟩ := hready.unique hjudged.ready
      rfl
  | saved _ hready =>
      obtain ⟨rfl, rfl⟩ := hready.unique hjudged.ready
      exact savedOutcome_exitCode ..
  | unsaved _ hready hwanted hnowhere =>
      obtain ⟨rfl, rfl⟩ := hready.unique hjudged.ready
      rcases (delivers_iff ..).mp hjudged.delivers with hnone | ⟨made, l, hsaves⟩
      · simp [hwanted] at hnone
      · exact absurd hsaves (hnowhere made l)

theorem Course.exitCode_of_obstacle (h : Course cwd t colour now o outcome after)
    (hlist : o.listTemplates = false) (hobstacle : Obstacle cwd t now o) :
    outcome.exitCode = 2 := by
  have hnone := obstacle_iff_not_judged.mp hobstacle
  cases h with
  | listed h => simp [hlist] at h
  | stopped => rfl
  | shown _ hready hnoReport => exact absurd ⟨hready, Or.inl hnoReport⟩ (hnone _ _)
  | saved _ hready _ hsaves =>
      have hdelivers := (delivers_iff cwd t now o).mpr (Or.inr ⟨_, _, hsaves⟩)
      exact absurd ⟨hready, hdelivers⟩ (hnone _ _)
  | unsaved => rfl

theorem run_exitCode_of_judged (hlist : o.listTemplates = false) {root : String} {c : Contract}
    (h : Judged cwd t now o root c) :
    ((run (disk cwd) colour now o).run t).1.exitCode = exitCode (reportOn cwd t root c) :=
  (run_course cwd t colour now o rfl).exitCode_of_judged hlist h

theorem run_exitCode_of_obstacle (hlist : o.listTemplates = false) (h : Obstacle cwd t now o) :
    ((run (disk cwd) colour now o).run t).1.exitCode = 2 :=
  (run_course cwd t colour now o rfl).exitCode_of_obstacle hlist h

end ExitCode

/-- The law of exit codes.  A run has one end, whether its checks are evaluated one by one or side
by side.  The list of templates ends with 0.  Any other run ends with 2 exactly when there is an
obstacle: the format is not known, there is no project root, the contract cannot be had or is not
valid, or the report is wanted and cannot be saved.  Otherwise it ends with 0 when every check that
counts passes on the tree, and with 1 when one does not. -/
theorem exitCode_law (cwd : Location) (t : FileTree) (colour : Bool) (now : String) (o : Options) :
    let ended := (run (disk cwd) colour now o).run t
    let code := ended.1.exitCode
    (∀ outcome after, Ends cwd t colour now o outcome after ↔ ended = (outcome, after)) ∧
      (code = 0 ↔ o.listTemplates = true ∨
        ∃ root c, Judged cwd t now o root c ∧ PassesOn cwd t root c) ∧
      (code = 1 ↔ o.listTemplates = false ∧
        ∃ root c, Judged cwd t now o root c ∧ ¬ PassesOn cwd t root c) ∧
      (code = 2 ↔ o.listTemplates = false ∧ Obstacle cwd t now o) := by
  intro ended code
  refine ⟨fun _ _ => ends_iff cwd t colour now o, ?_⟩
  cases hlist : o.listTemplates with
  | true =>
      have hcode : code = 0 := by
        simp only [code, ended, run, hlist, if_true]
        rfl
      simp [hcode]
  | false =>
      by_cases hobstacle : Obstacle cwd t now o
      · have hcode : code = 2 := run_exitCode_of_obstacle hlist hobstacle
        have hnone := obstacle_iff_not_judged.mp hobstacle
        simp [hcode, hobstacle, hnone]
      · have hjudged : ∃ root c, Judged cwd t now o root c := by
          simpa [obstacle_iff_not_judged] using hobstacle
        obtain ⟨root, c, h⟩ := hjudged
        have hcode : code = exitCode (reportOn cwd t root c) := run_exitCode_of_judged hlist h
        have honly (P : String → Contract → Prop) :
            (∃ root' c', Judged cwd t now o root' c' ∧ P root' c') ↔ P root c := by
          constructor
          · rintro ⟨root', c', h', hP⟩
            obtain ⟨rfl, rfl⟩ := h.ready.unique h'.ready
            exact hP
          · exact fun hP => ⟨root, c, h, hP⟩
        have hcode' : code ≠ 2 := by
          rw [hcode, exitCode]
          split <;> decide
        simp only [honly, hobstacle, hcode', Bool.false_eq_true, false_or, true_and, and_false]
        rw [hcode]
        exact ⟨exitCode_reportOn_eq_zero_iff, exitCode_reportOn_eq_one_iff, trivial⟩

end SourceContract.CommandLine
