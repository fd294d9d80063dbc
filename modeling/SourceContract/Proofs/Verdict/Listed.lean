import SourceContract.Proofs.Verdict.FileSet
import SourceContract.Proofs.Verdict.Mishap

/-!
# A walk and the list of what it finds

The files of a check can be found by a walk or named one by one.  Named files come first:
if one is missing, a check that forbids a token is not judged at all, while found ones are
gone through anyway.  A measurement makes no such difference.  So the two forms agree
wherever all files are there, and where one is not, both forms fail.
-/

namespace SourceContract

open Matching (MatchMode)

/-! ## Naming what is found -/

/-- The requirement with paths named one by one in the place of its walk. -/
def Requirement.naming (paths : List String) : Requirement → Requirement
  | .forbidden token (.walk ..) require allowEmpty =>
      .forbidden token (.paths paths) require allowEmpty
  | .count (.walk ..) wanted unit => .count (.paths paths) wanted unit
  | r => r

def Check.naming (paths : List String) (c : Check) : Check :=
  { c with requirement := c.requirement.naming paths }

namespace Check

variable {a : Answers} {c : Check} {mode : MatchMode} {dir glob : String} {paths : List String}

theorem value_judge_naming (hwalk : c.requirement.walk? = some (dir, glob))
    (hlist : a.list dir glob = .ok paths) :
    ((c.naming paths).judge mode (c.naming paths).requirement).value a =
      (c.judge mode c.requirement).value a := by
  have hfound : a.filesOf (.walk dir glob) = .ok paths := hlist
  have hnamed : a.filesOf (.paths paths) = .ok paths := rfl
  obtain ⟨name, description, informational, requirement⟩ := c
  rcases Requirement.eq_of_walk hwalk with ⟨token, require, allowEmpty, rfl⟩ | ⟨tokens, unit, rfl⟩
  · rw [value_judge_forbidden hfound]
    exact value_judge_forbidden hnamed
  · rw [value_judge_count hfound]
    exact value_judge_count hnamed

theorem isGating_naming (paths : List String) (c : Check) :
    (c.naming paths).isGating = c.isGating := by
  obtain ⟨name, description, informational, requirement⟩ := c
  cases requirement with
  | forbidden token files require allowEmpty => cases files <;> rfl
  | count files tokens unit => cases files <;> rfl
  | _ => rfl

theorem verdict_naming (hwalk : c.requirement.walk? = some (dir, glob))
    (hlist : a.list dir glob = .ok paths)
    (hthere : ∀ path ∈ (c.naming paths).prerequisites, a.Loads path fun _ => True) :
    (c.naming paths).verdict a mode = c.verdict a mode := by
  -- The walk has no prerequisites, and those of the named form are there.
  have hnone : c.prerequisites = [] := prerequisites_of_walk hwalk
  rw [verdict_of_loads mode hthere, verdict_of_loads mode (by simp [hnone]), isGating_naming,
    value_judge_naming hwalk hlist]

theorem prerequisites_naming (hwalk : c.requirement.walk? = some (dir, glob)) :
    (c.naming paths).prerequisites = if c.requirement.isCount then [] else paths := by
  obtain ⟨name, description, informational, requirement⟩ := c
  rcases Requirement.eq_of_walk hwalk with ⟨token, require, allowEmpty, rfl⟩ | ⟨tokens, unit, rfl⟩
  · rfl
  · rfl

theorem not_meets_of_missing {files : FileSet} {token path : String} {require : List String}
    {allowEmpty : Bool} (hfiles : a.filesOf files = .ok paths) (hpath : path ∈ paths)
    (hmissing : ¬ a.Loads path fun _ => True) :
    ¬ a.Meets mode (.forbidden token files require allowEmpty) := by
  rintro (⟨others, hothers, -, hall⟩ | ⟨⟨lacked, hlacked⟩, -⟩)
  · obtain rfl : paths = others := Except.ok.inj (hfiles.symm.trans hothers)
    obtain ⟨text, hread, -⟩ := hall path hpath
    exact hmissing ⟨text, hread, trivial⟩
  · cases hfiles.symm.trans hlacked

theorem verdict_fails_of_missing (hwalk : c.requirement.walk? = some (dir, glob))
    (hlist : a.list dir glob = .ok paths) (hcount : c.requirement.isCount = false) {path : String}
    (hpath : path ∈ paths) (hmissing : ¬ a.Loads path fun _ => True) :
    (c.verdict a mode).passed = false ∧ ((c.naming paths).verdict a mode).passed = false := by
  simp only [← Bool.not_eq_true, verdict_passed_iff_meets]
  have hfound : a.filesOf (.walk dir glob) = .ok paths := hlist
  have hnamed : a.filesOf (.paths paths) = .ok paths := rfl
  obtain ⟨name, description, informational, requirement⟩ := c
  rcases Requirement.eq_of_walk hwalk with ⟨token, require, allowEmpty, rfl⟩ | ⟨tokens, unit, rfl⟩
  · exact ⟨not_meets_of_missing hfound hpath hmissing, not_meets_of_missing hnamed hpath hmissing⟩
  · contradiction

end Check

/-! ## Evaluation -/

variable {σ : Type} {s : Source (StateM σ)} {w : σ}

/-- A walk and its listing agree.  Let a walk find its files while the files do not change, on a
corpus that may remember anything, and let a check name them instead.  A measurement gives the
identical result.  A check that forbids a token does so too if all the files can be had, also where
there are none; if one cannot, it fails in both forms. -/
theorem walk_agrees_with_listing (still : s.Steady w) (corpus : Corpus) (mode : MatchMode)
    {c : Check} {dir glob : String} {paths : List String}
    (hwalk : c.requirement.walk? = some (dir, glob))
    (hlist : ((s.list dir glob).run w).1 = .ok paths) :
    let a := corpus.tells (s.at w)
    (c.requirement.isCount = true →
        (c.naming paths).outcome s corpus w mode = c.outcome s corpus w mode) ∧
      ((∀ path ∈ paths, a.Loads path fun _ => True) →
        (c.naming paths).outcome s corpus w mode = c.outcome s corpus w mode) ∧
      ∀ path ∈ paths, c.requirement.isCount = false → ¬ a.Loads path (fun _ => True) →
        (c.outcome s corpus w mode).passed = false ∧
          ((c.naming paths).outcome s corpus w mode).passed = false := by
  intro a
  have hlist : a.list dir glob = .ok paths := hlist
  simp only [Check.outcome_eq still]
  refine ⟨fun hcount => ?_, fun hthere => ?_, fun path hpath hcount hmissing => ?_⟩
  · refine Check.verdict_naming hwalk hlist ?_
    simp [Check.prerequisites_naming hwalk, hcount]
  · refine Check.verdict_naming hwalk hlist fun path hpath => hthere path ?_
    rw [Check.prerequisites_naming hwalk] at hpath
    split at hpath
    next => exact absurd hpath List.not_mem_nil
    next => exact hpath
  · exact Check.verdict_fails_of_missing hwalk hlist hcount hpath hmissing

theorem walk_agrees_with_listing_of_two_headers :
    let s : Source (StateM Unit) :=
      { read := fun path =>
          pure (if path = "a.h" then .ok "goto x;" else .error (.notFound path))
        list := fun _ _ => pure (.ok ["a.h", "b.h"]) }
    let tidy : Check := ⟨"tidy", none, false, .forbidden "lock" (.walk "" "*.h") [] false⟩
    let uses : Check := ⟨"uses", none, false, .count (.walk "" "*.h") ["goto"] .files⟩
    let known := Corpus.empty.add "b.h" (.ok "")
    let named (c : Check) := c.naming ["a.h", "b.h"]
    s.Steady () ∧ (named uses).outcome s .empty () .literal = uses.outcome s .empty () .literal ∧
      (named tidy).outcome s known () .literal = tidy.outcome s known () .literal ∧
      (named tidy).outcome s .empty () .literal ≠ tidy.outcome s .empty () .literal ∧
      (tidy.outcome s .empty () .literal).passed = false ∧
      ((named tidy).outcome s .empty () .literal).passed = false := by
  intro s tidy uses known named
  have still : s.Steady () := ⟨fun _ => rfl, fun _ _ => rfl⟩
  have huses := walk_agrees_with_listing still .empty .literal (c := uses) rfl rfl
  have hknown := walk_agrees_with_listing still known .literal (c := tidy) rfl rfl
  have htidy := walk_agrees_with_listing still .empty .literal (c := tidy) rfl rfl
  refine ⟨still, huses.1 rfl, hknown.2.1 ?_, by decide +kernel, htidy.2.2 "b.h" (by decide) rfl ?_⟩
  · intro path hpath
    rcases List.mem_pair.mp hpath with rfl | rfl
    · exact ⟨"goto x;", rfl, trivial⟩
    · exact ⟨"", rfl, trivial⟩
  · rintro ⟨text, hread, -⟩
    cases hread

end SourceContract
