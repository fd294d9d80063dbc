import SourceContract.Proofs.CommandLine.ExitCode
import SourceContract.Proofs.CommandLine.Invocation
import SourceContract.Proofs.Report.Document

/-!
# Presentation and outcome

The format says how a report is shown, and side by side is a way to evaluate checks.
Neither has a say in what is found: two runs that differ in these options only end
with the same code and write the same document, but for the time that it bears.
-/

namespace SourceContract

namespace CommandLine

open FileTree

/-- The trees agree, but for the time in a document that is written in both. -/
inductive SameButTime (now now' : String) : FileTree → FileTree → Prop where
  | same (t : FileTree) : SameButTime now now' t t
  | document (made : FileTree) (l : Location) (head tail : String) :
      SameButTime now now' (made.put l (.file (head ++ now ++ tail).toUTF8))
        (made.put l (.file (head ++ now' ++ tail).toUTF8))

structure SameResult (now now' : String) (e e' : Outcome × FileTree) : Prop where
  code : e.1.exitCode = e'.1.exitCode
  left : SameButTime now now' e.2 e'.2

variable (cwd : Location) (t : FileTree) (colour colour' : Bool) (now now' : String)

/-! ## Two runs -/

theorem sameResult_savedOutcome (o o' : Options) {r : RunReport} {shown shown' path : String}
    {after after' : FileTree} (h : SameButTime now now' after after') :
    SameResult now now' (savedOutcome o r shown path, after)
      (savedOutcome o' r shown' path, after') :=
  ⟨by rw [savedOutcome_exitCode, savedOutcome_exitCode], h⟩

theorem deliver_sameResult (o : Options) (format : String) (parallel : Bool) (root : String)
    (c : Contract) (r : RunReport) :
    SameResult now now' ((deliver (disk cwd) colour now o root c r).run t)
      ((deliver (disk cwd) colour' now' { o with format := format, parallel := parallel }
        root c r).run t) := by
  unfold deliver
  split
  next => exact ⟨rfl, .same t⟩
  next =>
      simp only [run_bind]
      -- Whether the document can be saved is settled before its text is looked at.
      rcases run_save_cases cwd t (o.output.getD (Path.join root c.reportPath)) with
        ⟨made, l, -, hsave⟩ | ⟨-, hsave⟩
      · obtain ⟨head, tail, htime⟩ := Markdown.render_time r c root
        rw [hsave, hsave, htime, htime]
        exact sameResult_savedOutcome now now' _ _ (.document made l head tail)
      · obtain ⟨fault, hfault⟩ := hsave (Markdown.render r c root now)
        obtain ⟨fault', hfault'⟩ := hsave (Markdown.render r c root now')
        rw [hfault, hfault']
        exact ⟨rfl, .same _⟩

theorem prepare_eq {o : Options} (hknown : o.format = "pretty" ∨ o.format = "json")
    {format : String} (hformat : format = "pretty" ∨ format = "json") (parallel : Bool) :
    prepare (disk cwd) { o with format := format, parallel := parallel } =
      prepare (disk cwd) o := by
  unfold prepare
  rw [if_neg (by grind), if_neg (by grind)]
  rfl

theorem run_sameResult {o : Options} (hknown : o.format = "pretty" ∨ o.format = "json")
    {format : String} (hformat : format = "pretty" ∨ format = "json") (parallel : Bool) :
    SameResult now now' ((run (disk cwd) colour now o).run t)
      ((run (disk cwd) colour' now' { o with format := format, parallel := parallel }).run t) := by
  unfold run
  split
  next => exact ⟨rfl, .same t⟩
  next =>
      obtain ⟨prepared, hrun, -⟩ := run_prepare cwd t o
      rw [prepare_eq cwd hknown hformat parallel]
      simp only [run_bind, hrun]
      cases prepared with
      | error fault => exact ⟨rfl, .same t⟩
      | ok found =>
          rw [run_report, run_report]
          exact deliver_sameResult cwd t colour colour' now now' o format parallel _ _ _

/-! ## The report as JSON -/

theorem exitCode_reportOn_eq_zero_iff_failed (root : String) (c : Contract) :
    exitCode (reportOn cwd t root c) = 0 ↔ (reportOn cwd t root c).stats.failed = 0 := by
  have hcancelled : (reportOn cwd t root c).cancelled = false := by
    rw [reportOn, Contract.run, runChecks_eq (steady_project cwd root t)]
    rfl
  simp [exitCode, RunReport.allPassed, hcancelled]

section Json

variable {cwd t colour now}

theorem Course.stdout_json {o : Options} {outcome : Outcome} {after : FileTree}
    (h : Course cwd t colour now o outcome after) (hjson : o.format = "json")
    (hlist : o.listTemplates = false) (hcode : outcome.exitCode ≤ 1) :
    ∃ root c, Ready cwd t o root c ∧
      outcome.exitCode = exitCode (reportOn cwd t root c) ∧
      outcome.stdout = (reportOn cwd t root c).toValue.toJson ++ "\n" := by
  have hdisplay : ∀ r c root, display colour o r c root = r.toValue.toJson ++ "\n" :=
    fun r c root => if_pos (by simpa using hjson)
  cases h with
  | listed h => simp [hlist] at h
  | stopped => contradiction
  | shown _ hready => exact ⟨_, _, hready, rfl, hdisplay _ _ _⟩
  | saved _ hready =>
      refine ⟨_, _, hready, savedOutcome_exitCode .., ?_⟩
      -- The note goes beside the JSON text.
      rw [savedOutcome, if_pos (by simpa using hjson), hdisplay]
  | unsaved => contradiction

end Json

/-- Presentation does not change the outcome.  A run whose format is known, and one with another
known format whose checks may be evaluated in the other way, end with the same code and leave the
same files behind, but for the time in the document; and there is such a second run.  A run in the
JSON format that does not list templates and ends with 0 or 1 prints the report as JSON, a line
break and nothing else, and the report counts no failures exactly when the code is 0. -/
theorem presentation_keeps_result {o : Options} (hknown : o.format = "pretty" ∨ o.format = "json")
    {format : String} (hformat : format = "pretty" ∨ format = "json") (parallel : Bool)
    {outcome : Outcome} {after : FileTree} (h : Ends cwd t colour now o outcome after) :
    let o' := { o with format := format, parallel := parallel }
    (∃ outcome' after', Ends cwd t colour' now' o' outcome' after') ∧
      (∀ outcome' after', Ends cwd t colour' now' o' outcome' after' →
        outcome.exitCode = outcome'.exitCode ∧ SameButTime now now' after after') ∧
      (o.format = "json" → o.listTemplates = false → outcome.exitCode ≤ 1 →
        ∃ root c, Ready cwd t o root c ∧
          outcome.stdout = (reportOn cwd t root c).toValue.toJson ++ "\n" ∧
          ((reportOn cwd t root c).stats.failed = 0 ↔ outcome.exitCode = 0)) := by
  intro o'
  have hrun := (ends_iff cwd t colour now o).mp h
  refine ⟨⟨_, _, (ends_iff cwd t colour' now' o').mpr rfl⟩, ?_, ?_⟩
  · intro outcome' after' h'
    have hrun' := (ends_iff cwd t colour' now' o').mp h'
    have hsame := run_sameResult cwd t colour colour' now now' hknown hformat parallel
    rw [hrun, hrun'] at hsame
    exact ⟨hsame.code, hsame.left⟩
  · intro hjson hlist hcode
    obtain ⟨root, c, hready, hexit, hstdout⟩ :=
      (run_course cwd t colour now o hrun).stdout_json hjson hlist hcode
    refine ⟨root, c, hready, hstdout, ?_⟩
    rw [hexit]
    exact (exitCode_reportOn_eq_zero_iff_failed cwd t root c).symm

theorem presentation_keeps_result_of_empty_contract :
    let tree : FileTree := ⟨[(["k"], .file "".toUTF8)]⟩
    let o : Options := ⟨none, some "k", none, some "r", "json", false, false, false, 0⟩
    let o' := { o with format := "pretty", parallel := true }
    ∃ outcome after, Ends [] tree false "now" o outcome after ∧ outcome.exitCode ≤ 1 ∧
      (∃ outcome' after', Ends [] tree true "later" o' outcome' after' ∧
        outcome.exitCode = outcome'.exitCode ∧ SameButTime "now" "later" after after') ∧
      ∃ root c, Ready [] tree o root c ∧
        outcome.stdout = (reportOn [] tree root c).toValue.toJson ++ "\n" ∧
        ((reportOn [] tree root c).stats.failed = 0 ↔ outcome.exitCode = 0) := by
  intro tree o o'
  obtain ⟨c, hc, hvalid⟩ := exists_contract_of_empty
  have hready : Ready [] tree o "/" c :=
    ⟨Or.inr rfl, .top _, ⟨"".toUTF8, "", rfl, by decide +kernel, hc⟩, hvalid⟩
  have hsaves : SavesTo [] tree "r" tree ["r"] := ⟨rfl, rfl⟩
  have hdelivers : Delivers [] tree "now" o "/" c :=
    (delivers_iff ..).mpr (Or.inr ⟨tree, ["r"], hsaves⟩)
  let e := (run (disk []) false "now" o).run tree
  have hends : Ends [] tree false "now" o e.1 e.2 := .inSequence rfl rfl
  have hcode : e.1.exitCode ≤ 1 := by
    rw [run_exitCode_of_judged rfl ⟨hready, hdelivers⟩, exitCode]
    split <;> decide
  have hpretty : "pretty" = "pretty" ∨ "pretty" = "json" := Or.inl rfl
  obtain ⟨⟨outcome', after', hends'⟩, hsame, hjson⟩ :=
    presentation_keeps_result [] tree false true "now" "later" (Or.inr rfl) hpretty true hends
  exact ⟨e.1, e.2, hends, hcode, ⟨outcome', after', hends', hsame outcome' after' hends'⟩,
    hjson rfl rfl hcode⟩

end CommandLine

end SourceContract
