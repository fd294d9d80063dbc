import Mathlib.Algebra.BigOperators.Group.List.Defs
import Mathlib.Algebra.Group.Nat.Defs
import Mathlib.Data.List.Nodup
import SourceContract.CommandLine.Usage
import SourceContract.Proofs.CommandLine.Course

/-!
# From arguments to an end

An invocation reads its arguments and, unless they are refused, verifies a project.
The checks are evaluated one by one, or side by side by workers that take turns in
any order.  Either way the run has an end, and it is always the same.
-/

namespace SourceContract

open Matching (MatchMode)

/-! ## Finished pools -/

namespace Pool

variable {σ : Type} {s : Source (StateM σ)} {w : σ}

theorem disk_after (still : s.Steady w) (cancelled : Bool) (mode : MatchMode)
    (checks : List Check) (schedule : List Nat) :
    ((start checks w).after s cancelled mode schedule).disk = w :=
  ((sound_start (s.at w) cancelled mode checks w).after still schedule).disk_eq

theorem exists_report (still : s.Steady w) (cancelled : Bool) (name : String) (mode : MatchMode)
    (checks : List Check) :
    ∃ schedule report, runChecksInPool s cancelled name mode checks schedule w = some report := by
  obtain ⟨turns, hturns⟩ := exists_turns (s.at w) cancelled mode (start checks w)
  -- Each worker gets as many turns as any of them needs.
  let schedule := (List.replicate turns (List.range checks.length)).flatten
  have hcount : ∀ i < checks.length, schedule.count i = turns := by
    intro i hi
    have hone : (List.range checks.length).count i = 1 :=
      List.count_eq_one_of_mem List.nodup_range (List.mem_range.mpr hi)
    simp [schedule, List.count_flatten, hone]
  have sound := sound_start (s.at w) cancelled mode checks w
  have hleft : ∀ i < checks.length,
      leftOf (s.at w) cancelled mode ((start checks w).after s cancelled mode schedule) i = 0 := by
    intro i hi
    have hafter := sound.leftOf_after still schedule i
    have henough := hturns i
    have := hcount i hi
    omega
  obtain ⟨evaluated, hevaluated⟩ := (sound.after still schedule).finished hleft
  exact ⟨schedule, _, (sound.after still schedule).report?_eq name hevaluated⟩

end Pool

namespace CommandLine

open FileTree

/-! ## Runs whose checks are evaluated side by side -/

variable (cwd : Location) (t : FileTree) (colour : Bool) (now : String) (o : Options)

/-- How a run ends whose checks are evaluated side by side, with turns in the order of the schedule.
There is no end if the schedule leaves a check unfinished. -/
def runInPool (schedule : List Nat) : Option (Outcome × FileTree) :=
  if o.listTemplates then some (⟨0, templateList, ""⟩, t)
  else
    match (prepare (disk cwd) o).run t with
    | (.error fault, t) => some (fault.outcome "", t)
    | (.ok (root, c), t) =>
        let pool :=
          (Pool.start c.checks t).after ((disk cwd).project root) false c.matching schedule
        (pool.report? c.name c.checks).map fun r =>
          (deliver (disk cwd) colour now o root c r).run pool.disk

inductive Ends (outcome : Outcome) (after : FileTree) : Prop where
  | inSequence (h : o.parallel = false)
      (hrun : (run (disk cwd) colour now o).run t = (outcome, after))
  | sideBySide (h : o.parallel = true) {schedule : List Nat}
      (hrun : runInPool cwd t colour now o schedule = some (outcome, after))

theorem reportOn_of_pool {root : String} {c : Contract} {schedule : List Nat} {r : RunReport}
    (h : runChecksInPool ((disk cwd).project root) false c.name c.matching c.checks schedule t =
      some r) : r = reportOn cwd t root c := by
  have still := steady_project cwd root t
  rw [Reports.eq_aggregate still (.sideBySide h), reportOn, Contract.run, runChecks_eq still]

theorem eq_run_of_runInPool {schedule : List Nat} {e : Outcome × FileTree}
    (h : runInPool cwd t colour now o schedule = some e) :
    (run (disk cwd) colour now o).run t = e := by
  unfold runInPool at h
  unfold run
  split at h
  next hlist =>
      cases h
      rw [if_pos hlist]
      rfl
  next hlist =>
      rw [if_neg hlist]
      obtain ⟨prepared, hrun, -⟩ := run_prepare cwd t o
      simp only [run_bind, hrun] at h ⊢
      cases prepared with
      | error fault =>
          cases h
          rfl
      | ok found =>
          obtain ⟨r, hr, rfl⟩ := Option.map_eq_some_iff.mp h
          rw [Pool.disk_after (steady_project cwd found.1 t), reportOn_of_pool cwd t hr]
          exact run_report cwd t colour now o found.1 found.2

theorem exists_runInPool :
    ∃ schedule, runInPool cwd t colour now o schedule =
      some ((run (disk cwd) colour now o).run t) := by
  obtain ⟨schedule, hschedule⟩ :
      ∃ schedule, ∃ e, runInPool cwd t colour now o schedule = some e := by
    unfold runInPool
    split
    next => exact ⟨[], _, rfl⟩
    next =>
        obtain ⟨prepared, hrun, -⟩ := run_prepare cwd t o
        simp only [hrun]
        cases prepared with
        | error fault => exact ⟨[], _, rfl⟩
        | ok found =>
            obtain ⟨schedule, r, hr⟩ := Pool.exists_report (steady_project cwd found.1 t) false
              found.2.name found.2.matching found.2.checks
            exact ⟨schedule, _, Option.map_eq_some_iff.mpr ⟨r, hr, rfl⟩⟩
  obtain ⟨e, he⟩ := hschedule
  exact ⟨schedule, he.trans (congrArg some (eq_run_of_runInPool cwd t colour now o he).symm)⟩

/-- It makes no difference how the checks are evaluated: every run has an end, and only one. -/
theorem ends_iff {outcome : Outcome} {after : FileTree} :
    Ends cwd t colour now o outcome after ↔
      (run (disk cwd) colour now o).run t = (outcome, after) := by
  constructor
  · rintro (⟨-, hrun⟩ | ⟨-, hrun⟩)
    · exact hrun
    · exact eq_run_of_runInPool cwd t colour now o hrun
  · intro hrun
    cases hparallel : o.parallel with
    | false => exact .inSequence hparallel hrun
    | true =>
        obtain ⟨schedule, hschedule⟩ := exists_runInPool cwd t colour now o
        exact .sideBySide hparallel (hschedule.trans (congrArg some hrun))

/-! ## Invocations -/

theorem exists_contract_of_empty : ∃ c, Contract.ofYaml "" = .ok c ∧ c.validate = .ok () := by
  have haccepted : (Contract.ofYaml "").toOption.any (fun c => c.validate.isOk) = true := by
    decide +kernel
  cases hc : Contract.ofYaml "" with
  | error fault =>
      rw [hc] at haccepted
      contradiction
  | ok c =>
      refine ⟨c, rfl, ?_⟩
      rw [hc] at haccepted
      cases hvalid : c.validate with
      | ok => rfl
      | error fault => simp [Except.toOption, hvalid, Except.isOk, Except.toBool] at haccepted

inductive Invokes (args : List String) : Outcome → FileTree → Prop where
  | refused {refusal : Refusal} (h : Options.ofArguments args = .error refusal) :
      Invokes args refusal.outcome t
  | accepted {o : Options} (h : Options.ofArguments args = .ok o) {outcome : Outcome}
      {after : FileTree} (hends : Ends cwd t colour now o outcome after) :
      Invokes args outcome after

theorem exists_invokes (args : List String) :
    ∃ outcome after, Invokes cwd t colour now args outcome after := by
  cases hargs : Options.ofArguments args with
  | error refusal => exact ⟨_, _, .refused hargs⟩
  | ok o => exact ⟨_, _, .accepted hargs ((ends_iff cwd t colour now o).mpr rfl)⟩

end CommandLine

end SourceContract
