import SourceContract.Proofs.CommandLine.ExitCode
import SourceContract.Proofs.CommandLine.Invocation
import SourceContract.Proofs.Report.Colour

/-!
# Colour and outcome

Whether a report is shown in colour has no say in what a run does.  It ends with the
same code, says the same about faults and leaves the same files behind; and what is
seen on the console is the same, too.
-/

namespace SourceContract.CommandLine

open Console (Shows seen)
open FileTree

variable (cwd : Location) (t : FileTree) (now : String) (o : Options)

/-- The second end is that of the first one, but for styles around what is printed. -/
structure SameButColour (e e' : Outcome × FileTree) : Prop where
  code : e'.1.exitCode = e.1.exitCode
  stderr : e'.1.stderr = e.1.stderr
  left : e'.2 = e.2
  stdout : '\x1b' ∉ e.1.stdout.toList → Shows e'.1.stdout e.1.stdout

theorem SameButColour.refl (e : Outcome × FileTree) : SameButColour e e :=
  ⟨rfl, rfl, rfl, .of_no_escape⟩

theorem SameButColour.of_stdout {plain coloured : String}
    (h : '\x1b' ∉ plain.toList → Shows coloured plain) (code : Nat) (stderr : String)
    (after : FileTree) :
    SameButColour (⟨code, plain, stderr⟩, after) (⟨code, coloured, stderr⟩, after) :=
  ⟨rfl, rfl, rfl, h⟩

theorem shows_display {r : RunReport} {c : Contract} {root : String}
    (h : '\x1b' ∉ (display false o r c root).toList) :
    Shows (display true o r c root) (display false o r c root) := by
  unfold display at h ⊢
  by_cases hjson : (o.format == "json") = true
  · simp only [if_pos hjson] at h ⊢
    exact .of_no_escape h
  · simp only [if_neg hjson] at h ⊢
    exact Console.shows_render h

theorem sameButColour_savedOutcome (r : RunReport) {shown coloured path : String}
    (h : '\x1b' ∉ shown.toList → Shows coloured shown) (after : FileTree) :
    SameButColour (savedOutcome o r shown path, after) (savedOutcome o r coloured path, after) := by
  unfold savedOutcome
  split
  next => exact .of_stdout h ..
  next => exact .of_stdout (.before (.before (.before h _) _) _) ..

theorem deliver_sameButColour (root : String) (c : Contract) (r : RunReport) :
    SameButColour ((deliver (disk cwd) false now o root c r).run t)
      ((deliver (disk cwd) true now o root c r).run t) := by
  unfold deliver
  split
  next => exact .of_stdout (shows_display o) _ "" t
  next =>
      simp only [run_bind]
      generalize (save (disk cwd) (o.output.getD (Path.join root c.reportPath))
        (Markdown.render r c root now)).run t = saved
      obtain ⟨result, after⟩ := saved
      cases result with
      | ok => exact sameButColour_savedOutcome o r (shows_display o) after
      | error fault => exact .of_stdout (shows_display o) 2 _ after

theorem run_sameButColour :
    SameButColour ((run (disk cwd) false now o).run t) ((run (disk cwd) true now o).run t) := by
  rcases run_cases cwd t o with
    ⟨-, hrun⟩ | ⟨-, ⟨-, fault, hrun⟩ | ⟨root, c, -, hrun⟩⟩
  · rw [hrun, hrun]
    exact .refl _
  · rw [hrun, hrun]
    exact .refl _
  · rw [hrun, hrun]
    exact deliver_sameButColour cwd t now o root c _

/-- Colour is decoration only, whatever the format is.  A run has an end in colour as it has one
without, and it ends with the same code, says the same about faults and leaves the same files
behind.  If nothing that is printed without colour is an escape character, then what is printed in
colour is the same text, blanks included, once each sequence that sets a style is taken out. -/
theorem colour_is_decoration {plain : Outcome} {after : FileTree}
    (h : Ends cwd t false now o plain after) :
    (∃ coloured after', Ends cwd t true now o coloured after') ∧
      ∀ coloured after', Ends cwd t true now o coloured after' →
        coloured.exitCode = plain.exitCode ∧ coloured.stderr = plain.stderr ∧ after' = after ∧
          ('\x1b' ∉ plain.stdout.toList → seen coloured.stdout = plain.stdout) := by
  have hrun := (ends_iff cwd t false now o).mp h
  refine ⟨⟨_, _, (ends_iff cwd t true now o).mpr rfl⟩, fun coloured after' h' => ?_⟩
  have hrun' := (ends_iff cwd t true now o).mp h'
  have hsame := run_sameButColour cwd t now o
  rw [hrun, hrun'] at hsame
  exact ⟨hsame.code, hsame.stderr, hsame.left, fun hplain => (hsame.stdout hplain).seen_eq⟩

/-! ## A missing file in colour -/

def lackingCheck : Check := ⟨"a", none, false, .present ["g"]⟩

def lackingContract : Contract := { Contract.empty with name := "demo", checks := [lackingCheck] }

def lackingText : String := "name: demo\nchecks:\n- name: a\n  kind: exists\n  paths: [g]\n"

theorem ofYaml_lackingText : Contract.ofYaml lackingText = .ok lackingContract := by
  decide +kernel

theorem escape_notMem_lackingReport {t : FileTree}
    (hmissing : t.answerTo [] "/" "g" = .error (.notFound "g")) :
    '\x1b' ∉ (Console.render false version (reportOn [] t "/" lackingContract) lackingContract
      "/").toList := by
  have hreport : reportOn [] t "/" lackingContract = .aggregate "demo"
      [(lackingCheck.decidePresent [("g", t.answerTo [] "/" "g")]).withInformational false]
      (Corpus.empty.add "g" (t.answerTo [] "/" "g")).stats false := by
    rw [reportOn, Contract.run, runChecks_eq (steady_project [] "/" t), at_project]
    rfl
  rw [Console.escape_mem_render_iff, hreport, hmissing]
  decide +kernel

theorem colour_is_decoration_of_missing_file :
    let tree : FileTree := ⟨[(["k"], .file lackingText.toUTF8)]⟩
    let o : Options := ⟨none, some "k", none, some "r", "pretty", false, false, false, 0⟩
    ∃ plain after, Ends [] tree false "now" o plain after ∧ '\x1b' ∉ plain.stdout.toList ∧
      ∃ coloured, Ends [] tree true "now" o coloured after ∧
        coloured.exitCode = plain.exitCode ∧ coloured.stderr = plain.stderr ∧
        seen coloured.stdout = plain.stdout := by
  have hc := ofYaml_lackingText
  generalize lackingText = text at hc ⊢
  intro tree o
  have hvalid : lackingContract.validate = .ok () := by decide +kernel
  have hready : Ready [] tree o "/" lackingContract :=
    ⟨Or.inl rfl, .top _, .of_text rfl hc, hvalid⟩
  have hsaves : SavesTo [] tree "r" tree ["r"] := ⟨rfl, rfl⟩
  have hmissing : tree.answerTo [] "/" "g" = .error (.notFound "g") := rfl
  obtain ⟨plain, after, hrun⟩ : ∃ plain after,
      (run (disk []) false "now" o).run tree = (plain, after) := ⟨_, _, rfl⟩
  have hends : Ends [] tree false "now" o plain after := .inSequence rfl hrun
  have hplain : '\x1b' ∉ plain.stdout.toList := by
    have hreport := escape_notMem_lackingReport hmissing
    cases run_course [] tree false "now" o hrun with
    | listed hlist => contradiction
    | stopped _ hnone => exact absurd hready (hnone _ _)
    | shown _ _ hnone => contradiction
    | saved _ hready' =>
        obtain ⟨rfl, rfl⟩ := hready.unique hready'
        have hpath : '\x1b' ∉ (reportFile o "/" lackingContract).toList :=
          (by decide : '\x1b' ∉ "r".toList)
        rw [savedOutcome, if_neg (by decide)]
        simp only [String.toList_append, List.mem_append, not_or]
        exact ⟨⟨⟨hreport, by decide⟩, ⟨by decide, hpath⟩, by decide⟩, by decide⟩
    | unsaved _ _ _ hnowhere => exact absurd hsaves (hnowhere _ _)
  obtain ⟨⟨coloured, after', hends'⟩, hsame⟩ := colour_is_decoration [] tree "now" o hends
  obtain ⟨hcode, hstderr, rfl, hseen⟩ := hsame coloured after' hends'
  exact ⟨plain, _, hends, hplain, coloured, hends', hcode, hstderr, hseen hplain⟩

end SourceContract.CommandLine
