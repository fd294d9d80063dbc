import SourceContract.Proofs.CommandLine.Stages
import SourceContract.Proofs.FileTree.Change

/-!
# What a run can do

There are five things that a run can do: it lists templates, it stops before anything
is verified, or it shows a report, which may then be wanted as a document that is
saved or cannot be saved.  Which of them it does is settled by the file tree and the
options.
-/

namespace SourceContract.CommandLine

open FileTree

/-! ## After the checks -/

section Deliver

variable {m : Type → Type} [Monad m]

def deliver (disk : Disk m) (colour : Bool) (now : String) (o : Options) (root : String)
    (c : Contract) (r : RunReport) : m Outcome := do
  let shown := display colour o r c root
  if o.noReport then return ⟨exitCode r, shown, ""⟩
  else
    let path := o.output.getD (Path.join root c.reportPath)
    match ← save disk path (Markdown.render r c root now) with
    | .ok () => return savedOutcome o r shown path
    | .error fault => return (Fault.reportNotSaved path fault).outcome shown

theorem report_eq (disk : Disk m) (colour : Bool) (now : String) (o : Options) (root : String)
    (c : Contract) :
    report disk colour now o root c =
      c.run (disk.project root) false >>= deliver disk colour now o root c := (rfl)

end Deliver

variable (cwd : Location) (t : FileTree) (colour : Bool) (now : String) (o : Options)

theorem run_report (root : String) (c : Contract) :
    (report (disk cwd) colour now o root c).run t =
      (deliver (disk cwd) colour now o root c (reportOn cwd t root c)).run t := by
  rw [report_eq, run_bind, run_contract]

theorem exitCode_ne_two (r : RunReport) : exitCode r ≠ 2 := by
  unfold exitCode
  split <;> decide

theorem savedOutcome_exitCode (o : Options) (r : RunReport) (shown path : String) :
    (savedOutcome o r shown path).exitCode = exitCode r := by
  unfold savedOutcome
  split <;> rfl

/-! ## Saving a document -/

/-- The directory of the path is made, if it is not there, and the text can be written at the
location `l` of the tree `made`. -/
def SavesTo (path : String) (made : FileTree) (l : Location) : Prop :=
  withDirectory cwd t path = (made, .ok ()) ∧ made.target cwd path = .ok l

theorem saves_iff {path text : String} :
    Saves cwd t path text ↔ ∃ made l, SavesTo cwd t path made l := by
  constructor
  · rintro ⟨made, after, hmade, hafter⟩
    rw [write_eq] at hafter
    cases htarget : made.target cwd path with
    | error fault =>
        rw [htarget] at hafter
        contradiction
    | ok l => exact ⟨made, l, hmade, htarget⟩
  · rintro ⟨made, l, hmade, htarget⟩
    refine ⟨made, made.put l (.file text.toUTF8), hmade, ?_⟩
    rw [write_eq, htarget]
    rfl

theorem delivers_iff {root : String} {c : Contract} :
    Delivers cwd t now o root c ↔
      o.noReport = true ∨ ∃ made l, SavesTo cwd t (reportFile o root c) made l :=
  or_congr_right (saves_iff cwd t)

theorem run_save (path text : String) :
    (save (disk cwd) path text).run t =
      match withDirectory cwd t path with
      | (made, .error fault) => (.error fault, made)
      | (made, .ok ()) => ((disk cwd).write path text).run made := by
  unfold save withDirectory
  cases (Path.parent? path).filter fun p => !p.isEmpty with
  | none => rfl
  | some parent =>
      simp only [run_bind, run_makeDirectories]
      obtain ⟨made, result⟩ := t.makeDirectories cwd parent
      cases result <;> rfl

theorem run_write_eq (path text : String) :
    ((disk cwd).write path text).run t =
      match t.target cwd path with
      | .ok l => (.ok (), t.put l (.file text.toUTF8))
      | .error fault => (.error fault, t) := by
  rw [run_write, write_eq]
  cases t.target cwd path <;> rfl

/-- Where a document is saved does not depend on what it says.  One that cannot be saved may leave
directories behind. -/
theorem run_save_cases (path : String) :
    (∃ made l, SavesTo cwd t path made l ∧ ∀ text,
        (save (disk cwd) path text).run t = (.ok (), made.put l (.file text.toUTF8))) ∨
      (∀ made l, ¬ SavesTo cwd t path made l) ∧ ∀ text, ∃ fault,
        (save (disk cwd) path text).run t = (.error fault, (withDirectory cwd t path).1) := by
  cases hmade : withDirectory cwd t path with
  | mk made result =>
      cases result with
      | error fault =>
          refine Or.inr ⟨?_, fun text => ⟨fault, by rw [run_save, hmade]⟩⟩
          rintro made' l ⟨hmade', -⟩
          rw [hmade] at hmade'
          cases hmade'
      | ok =>
          have hsave (text : String) : (save (disk cwd) path text).run t =
              ((disk cwd).write path text).run made := by rw [run_save, hmade]
          simp only [hsave, run_write_eq]
          cases htarget : made.target cwd path with
          | error fault =>
              refine Or.inr ⟨?_, fun text => ⟨fault, rfl⟩⟩
              rintro made' l ⟨hmade', htarget'⟩
              rw [hmade] at hmade'
              cases hmade'
              rw [htarget] at htarget'
              contradiction
          | ok l => exact Or.inl ⟨made, l, ⟨hmade, htarget⟩, fun text => rfl⟩

/-! ## Courses -/

/-- What a run does, and how it ends. -/
inductive Course : Outcome → FileTree → Prop where
  | listed (hlist : o.listTemplates = true) : Course ⟨0, templateList, ""⟩ t
  | stopped (hlist : o.listTemplates = false) (hready : ∀ root c, ¬ Ready cwd t o root c)
      {fault : Fault} : Course (fault.outcome "") t
  | shown (hlist : o.listTemplates = false) {root : String} {c : Contract}
      (hready : Ready cwd t o root c) (hnone : o.noReport = true) :
      Course ⟨exitCode (reportOn cwd t root c),
        display colour o (reportOn cwd t root c) c root, ""⟩ t
  | saved (hlist : o.listTemplates = false) {root : String} {c : Contract}
      (hready : Ready cwd t o root c) (hwanted : o.noReport = false) {made : FileTree}
      {l : Location} (hsaves : SavesTo cwd t (reportFile o root c) made l) :
      Course (savedOutcome o (reportOn cwd t root c)
          (display colour o (reportOn cwd t root c) c root) (reportFile o root c))
        (made.put l (.file (document cwd t now root c).toUTF8))
  | unsaved (hlist : o.listTemplates = false) {root : String} {c : Contract}
      (hready : Ready cwd t o root c) (hwanted : o.noReport = false)
      (hsaves : ∀ made l, ¬ SavesTo cwd t (reportFile o root c) made l) {fault : FileFault} :
      Course ((Fault.reportNotSaved (reportFile o root c) fault).outcome
          (display colour o (reportOn cwd t root c) c root))
        (withDirectory cwd t (reportFile o root c)).1

theorem deliver_course (hlist : o.listTemplates = false) {root : String} {c : Contract}
    (hready : Ready cwd t o root c) {outcome : Outcome} {after : FileTree}
    (h : (deliver (disk cwd) colour now o root c (reportOn cwd t root c)).run t =
      (outcome, after)) : Course cwd t colour now o outcome after := by
  unfold deliver at h
  split at h
  next hnone =>
      cases h
      exact .shown hlist hready hnone
  next hwanted =>
      have hwanted : o.noReport = false := by simpa using hwanted
      simp only [run_bind] at h
      rcases run_save_cases cwd t (reportFile o root c) with
        ⟨made, l, hsaves, hsave⟩ | ⟨hnowhere, hsave⟩
      · rw [reportFile] at hsave
        rw [hsave] at h
        cases h
        exact .saved hlist hready hwanted hsaves
      · obtain ⟨fault, hsave⟩ := hsave (document cwd t now root c)
        rw [reportFile, document] at hsave
        rw [hsave] at h
        cases h
        exact .unsaved hlist hready hwanted hnowhere

theorem run_cases :
    (o.listTemplates = true ∧ ∀ colour now,
        (run (disk cwd) colour now o).run t = (⟨0, templateList, ""⟩, t)) ∨
      o.listTemplates = false ∧ ((∀ root c, ¬ Ready cwd t o root c) ∧
          (∃ fault : Fault, ∀ colour now,
            (run (disk cwd) colour now o).run t = (fault.outcome "", t)) ∨
        ∃ root c, Ready cwd t o root c ∧ ∀ colour now,
          (run (disk cwd) colour now o).run t =
            (deliver (disk cwd) colour now o root c (reportOn cwd t root c)).run t) := by
  unfold run
  split
  next hlist => exact Or.inl ⟨hlist, fun colour now => rfl⟩
  next hlist =>
      refine Or.inr ⟨by simpa using hlist, ?_⟩
      obtain ⟨prepared, hrun, hready⟩ := run_prepare cwd t o
      simp only [run_bind, hrun]
      cases prepared with
      | error fault =>
          exact Or.inl ⟨fun root c h => (nomatch (hready root c).mpr h), fault, fun _ _ => rfl⟩
      | ok found =>
          exact Or.inr ⟨found.1, found.2, (hready found.1 found.2).mp rfl,
            fun colour now => run_report cwd t colour now o found.1 found.2⟩

theorem run_course {outcome : Outcome} {after : FileTree}
    (h : (run (disk cwd) colour now o).run t = (outcome, after)) :
    Course cwd t colour now o outcome after := by
  rcases run_cases cwd t o with
    ⟨hlist, hrun⟩ | ⟨hlist, ⟨hnone, fault, hrun⟩ | ⟨root, c, hready, hrun⟩⟩
  · rw [hrun] at h
    cases h
    exact .listed hlist
  · rw [hrun] at h
    cases h
    exact .stopped hlist hnone
  · rw [hrun] at h
    exact deliver_course cwd t colour now o hlist hready h

end SourceContract.CommandLine
