import SourceContract.Proofs.CommandLine.ExitCode
import SourceContract.Proofs.CommandLine.Invocation

/-!
# What an invocation leaves behind

Of the regular files in a tree an invocation touches at most one, the document at the
report path.  A run that is told to leave the document out, one that lists templates
and one that ends with 2 touch none.
-/

namespace SourceContract.CommandLine

open FileTree

variable (cwd : Location) (t : FileTree) (colour : Bool) (now : String)

theorem digs_withDirectory (path : String) : t.Digs (withDirectory cwd t path).1 := by
  unfold withDirectory
  split
  next => exact .refl
  next => exact digs_makeDirectories t cwd _

/-- The run has shown its report on the contract and has written it as a document, which is now the
whole of the regular file at the location `l`. -/
structure WritesReport (o : Options) (outcome : Outcome) (after : FileTree) (l : Location)
    (root : String) (c : Contract) : Prop where
  shown : outcome = savedOutcome o (reportOn cwd t root c)
    (display colour o (reportOn cwd t root c) c root) (reportFile o root c)
  written : after.file? l = some (Markdown.render (reportOn cwd t root c) c root now).toUTF8
  others : ∀ q, q ≠ l → after.file? q = t.file? q
  /-- If the report path has led anywhere before, then to this very location. -/
  before : ∀ q, t.LeadsTo cwd (reportFile o root c) q → q = l
  found : t.Enters cwd → after.resolve cwd (reportFile o root c) =
    .ok (l, .file (Markdown.render (reportOn cwd t root c) c root now).toUTF8)

variable {cwd t colour now} {o : Options} {outcome : Outcome} {after : FileTree}

theorem SavesTo.digs {path : String} {made : FileTree} {l : Location}
    (h : SavesTo cwd t path made l) : t.Digs made := by
  have hdigs := digs_withDirectory cwd t path
  rw [h.1] at hdigs
  exact hdigs

theorem SavesTo.writesReport {root : String} {c : Contract} {made : FileTree} {l : Location}
    (h : SavesTo cwd t (reportFile o root c) made l) :
    WritesReport cwd t colour now o
      (savedOutcome o (reportOn cwd t root c) (display colour o (reportOn cwd t root c) c root)
        (reportFile o root c))
      (made.put l (.file (document cwd t now root c).toUTF8)) l root c := by
  have hwidens := h.digs.widens
  obtain ⟨place, htargets, rfl⟩ := target_eq_ok h.2
  have hl := htargets.location_ne_nil
  refine ⟨rfl, ?_, ?_, ?_, ?_⟩
  · rw [file?_put_file hl, if_pos rfl]
    rfl
  · intro q hq
    rw [file?_put_file hl, if_neg hq, hwidens.file?_eq]
  · intro q hq
    exact (hwidens.leadsTo hq).unique ⟨place, htargets.leads, rfl⟩
  · intro henters
    exact htargets.resolve_put (hwidens.enters henters) _

namespace Course

theorem writesReport (h : Course cwd t colour now o outcome after)
    (hlist : o.listTemplates = false) (hwanted : o.noReport = false) (hcode : outcome.exitCode ≠ 2) :
    ∃ l root c, Ready cwd t o root c ∧ WritesReport cwd t colour now o outcome after l root c := by
  cases h with
  | listed h => simp [hlist] at h
  | stopped => exact absurd rfl hcode
  | shown _ _ hnone => simp [hwanted] at hnone
  | saved _ hready _ hsaves => exact ⟨_, _, _, hready, hsaves.writesReport⟩
  | unsaved => exact absurd rfl hcode

theorem file?_eq (h : Course cwd t colour now o outcome after)
    (hnone : outcome.exitCode = 2 ∨ o.listTemplates = true ∨ o.noReport = true) (l : Location) :
    after.file? l = t.file? l := by
  cases h with
  | listed => rfl
  | stopped => rfl
  | shown => rfl
  | saved hlist hready hwanted hsaves =>
      rw [savedOutcome_exitCode] at hnone
      rcases hnone with hcode | h | h
      · exact absurd hcode (exitCode_ne_two _)
      · simp [hlist] at h
      · simp [hwanted] at h
  | unsaved => exact (digs_withDirectory cwd t _).widens.file?_eq l

theorem stdout_eq (h : Course cwd t colour now o outcome after) (hcode : outcome.exitCode = 2)
    (hready : ∀ root c, ¬ Ready cwd t o root c) : outcome.stdout = "" := by
  cases h with
  | listed => contradiction
  | stopped => rfl
  | shown _ h => exact absurd h (hready _ _)
  | saved _ h => exact absurd h (hready _ _)
  | unsaved _ h => exact absurd h (hready _ _)

end Course

/-- An invocation touches at most its report.  When it reads its options, neither lists templates
nor leaves the document out, and does not end with 2, the document is written to the one regular
file that the report path leads to, in place of what was there, and no other is touched.  In all
other cases every regular file stays as it was.  An invocation that ends with 2 before anything is
verified prints nothing. -/
theorem invocation_touches_only_report {args : List String}
    (h : Invokes cwd t colour now args outcome after) :
    (∀ o, Options.ofArguments args = .ok o → o.listTemplates = false → o.noReport = false →
        outcome.exitCode ≠ 2 →
        ∃ l root c, Ready cwd t o root c ∧ WritesReport cwd t colour now o outcome after l root c) ∧
      ((outcome.exitCode = 2 ∨ ∀ o, Options.ofArguments args = .ok o →
          o.listTemplates = true ∨ o.noReport = true) →
        ∀ l, after.file? l = t.file? l) ∧
      (outcome.exitCode = 2 →
        (∀ o, Options.ofArguments args = .ok o → ∀ root c, ¬ Ready cwd t o root c) →
        outcome.stdout = "") := by
  cases h with
  | @refused refusal hargs =>
      refine ⟨fun o ho => ?_, fun _ _ => rfl, fun hcode _ => ?_⟩
      · rw [hargs] at ho
        contradiction
      · cases refusal <;> first | rfl | contradiction
  | @accepted o hargs _ _ hends =>
      have hcourse := run_course cwd t colour now o ((ends_iff cwd t colour now o).mp hends)
      have honly : ∀ o', Options.ofArguments args = .ok o' → o' = o := fun o' ho' =>
        Except.ok.inj (ho'.symm.trans hargs)
      refine ⟨?_, ?_, ?_⟩
      · intro o' ho'
        obtain rfl := honly o' ho'
        exact hcourse.writesReport
      · intro hnone
        exact hcourse.file?_eq (hnone.imp_right fun hall => hall o hargs)
      · intro hcode hready
        exact hcourse.stdout_eq hcode (hready o hargs)

theorem invocation_touches_only_report_over_old_report :
    let tree : FileTree := ⟨[(["k"], .file "".toUTF8), (["r"], .file "old".toUTF8)]⟩
    let args := ["-c", "k", "-o", "r"]
    let o : Options := ⟨none, some "k", none, some "r", "pretty", false, false, false, 0⟩
    ∃ outcome after root c, Invokes [] tree false "" args outcome after ∧ outcome.exitCode ≠ 2 ∧
      Ready [] tree o root c ∧ WritesReport [] tree false "" o outcome after ["r"] root c := by
  intro tree args o
  have hargs : Options.ofArguments args = .ok o := by decide +kernel
  obtain ⟨c, hc, hvalid⟩ := exists_contract_of_empty
  have hready : Ready [] tree o "/" c :=
    ⟨Or.inl rfl, .top _, ⟨"".toUTF8, "", rfl, by decide +kernel, hc⟩, hvalid⟩
  have hsaves : SavesTo [] tree "r" tree ["r"] := ⟨rfl, rfl⟩
  have hdelivers : Delivers [] tree "" o "/" c :=
    (delivers_iff ..).mpr (Or.inr ⟨tree, ["r"], hsaves⟩)
  let e := (run (disk []) false "" o).run tree
  have hinvokes : Invokes [] tree false "" args e.1 e.2 := .accepted hargs (.inSequence rfl rfl)
  have hcode : e.1.exitCode ≠ 2 := by
    rw [run_exitCode_of_judged rfl ⟨hready, hdelivers⟩]
    exact exitCode_ne_two _
  obtain ⟨l, root, c, hready, hwrites⟩ :=
    (invocation_touches_only_report hinvokes).1 o hargs rfl rfl hcode
  have hleads : tree.LeadsTo [] "r" ["r"] := ⟨.taken ["r"] (.file "old".toUTF8), rfl, rfl⟩
  obtain rfl := hwrites.before ["r"] hleads
  exact ⟨e.1, e.2, root, c, hinvokes, hcode, hready, hwrites⟩

end SourceContract.CommandLine
