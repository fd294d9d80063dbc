import SourceContract.Proofs.Corpus.Likewise
import SourceContract.Proofs.Verdict.Vacant

/-!
# What messages hide

A result without its messages says which check it is of, whether it passed, and what was
counted and found wrong.  When the answers to a check say the same, its result does too,
but for the messages, and so does a report.
-/

namespace SourceContract

open Matching (MatchMode)

/-! ## Without messages -/

def Issue.silent (i : Issue) : Issue := { i with message := "" }

def CheckResult.silent (r : CheckResult) : CheckResult :=
  { r with message := "", issues := r.issues.map Issue.silent }

def RunReport.silent (r : RunReport) : RunReport :=
  { r with results := r.results.map CheckResult.silent, issues := r.issues.map Issue.silent }

namespace CheckResult

@[simp] theorem silent_withInformational (r : CheckResult) (informational : Bool) :
    (r.withInformational informational).silent = r.silent.withInformational informational := rfl

@[simp] theorem silent_withValue (r : CheckResult) (value : Nat) :
    (r.withValue value).silent = r.silent.withValue value := rfl

@[simp] theorem silent_settled (r : CheckResult) (message : String) :
    (r.settled message).silent = r.silent.settled "" := by
  simp [silent, settled]

theorem silent_withIssues (r : CheckResult) (kind : IssueKind) (messages : List String) :
    (r.withIssues kind messages).silent = { r.silent with
      issues := r.silent.issues ++ List.replicate messages.length ⟨r.name, kind, "", 1⟩ } := by
  rw [withIssues_eq]
  simp [silent, Issue.silent, Function.comp_def]

end CheckResult

namespace Check

variable {c : Check} {answers answers' : List (String × Entry)}

theorem length_errorsOf_eq (h : SameTexts answers answers') :
    (errorsOf answers).length = (errorsOf answers').length := by
  have hkinds := h.map_eq (f := fun _ e => Corpus.isText e) fun _ _ _ hsame => hsame.isText_eq
  have hcount (answers : List (String × Entry)) : (errorsOf answers).length =
      (answers.map fun answer => Corpus.isText answer.2).countP not := by
    rw [errorsOf, List.length_filterMap_eq_countP, List.countP_map]
    refine List.countP_congr fun answer _ => ?_
    cases hentry : answer.2 <;> simp [hentry, Corpus.isText]
  rw [hcount, hcount, hkinds]

theorem isEmpty_errorsOf_eq (h : SameTexts answers answers') :
    (errorsOf answers).isEmpty = (errorsOf answers').isEmpty := by
  have hlength := length_errorsOf_eq h
  rw [Bool.eq_iff_iff, List.isEmpty_iff_length_eq_zero, List.isEmpty_iff_length_eq_zero, hlength]

theorem silent_missingFiles {errors errors' : List LoadError} (h : errors.length = errors'.length) :
    (c.missingFiles errors).silent = (c.missingFiles errors').silent := by
  simp only [missingFiles, CheckResult.silent_withIssues, List.length_map, h]
  rfl

theorem decidePresent_eq (h : SameTexts answers answers') :
    c.decidePresent answers = c.decidePresent answers' := by
  have hpresent := h.map_eq (f := fun path e => (path, isPresent e)) fun path e e' hsame => by
    rw [isPresent, isPresent, hsame]
  have htally (answers : List (String × Entry)) :
      Matching.Tally.ofItems (fun a => isPresent a.2) Prod.fst answers =
        Matching.Tally.ofItems Prod.snd Prod.fst
          (answers.map fun answer => (answer.1, isPresent answer.2)) := by
    simp [Matching.Tally.ofItems, List.filter_map, Function.comp_def]
  have hlength := h.length_eq
  unfold decidePresent
  rw [htally, htally, hpresent, hlength]

theorem silent_forbiddenIssues {token : String} {require : List String} {path : String}
    {e e' : Entry} (h : SameText e e') :
    (c.forbiddenIssues token require path e).map Issue.silent =
      (c.forbiddenIssues token require path e').map Issue.silent := by
  cases e <;> cases e' <;>
    simp_all [SameText, Except.toOption, forbiddenIssues, Issue.silent, issue]

theorem silent_decideForbidden {token : String} {require : List String} {allowEmpty : Bool}
    (h : SameTexts answers answers') :
    (c.decideForbidden token require allowEmpty answers).silent =
      (c.decideForbidden token require allowEmpty answers').silent := by
  -- With files to look at, the result is made of the issues alone.
  have hinspected (answers : List (String × Entry)) (hne : answers ≠ []) :
      (c.decideForbidden token require allowEmpty answers).silent =
        let issues := (answers.map fun answer =>
          (c.forbiddenIssues token require answer.1 answer.2).map Issue.silent).flatten
        { c.passing "" with passed := issues.isEmpty, issues := issues } := by
    have hsome : answers.isEmpty = false := by simpa using hne
    rw [decideForbidden, hsome, if_neg Bool.false_ne_true, ← List.flatMap_def, ← List.map_flatMap]
    simp only [CheckResult.silent, List.isEmpty_map]
    rfl
  have hissues := h.map_eq
    (f := fun path e => (c.forbiddenIssues token require path e).map Issue.silent)
    fun path e e' hsame => silent_forbiddenIssues hsame
  cases h with
  | nil => rfl
  | cons _ _ =>
      rw [hinspected _ (List.cons_ne_nil _ _), hinspected _ (List.cons_ne_nil _ _), hissues]

theorem totalOf_eq (h : SameTexts answers answers') (n : String → Nat) :
    totalOf n answers = totalOf n answers' := by
  induction h with
  | nil => rfl
  | @cons answer answer' rest rest' hfirst _ ih =>
      obtain ⟨path, e⟩ := answer
      obtain ⟨path', e'⟩ := answer'
      unfold totalOf at ih ⊢
      rw [List.map_cons, List.map_cons, List.foldr_cons, List.foldr_cons, ih]
      cases e <;> cases e' <;> simp_all [SameText, Except.toOption]

theorem silent_decideCount {tokens : List String} {unit : CountUnit}
    (h : SameTexts answers answers') :
    (c.decideCount tokens unit answers).silent = (c.decideCount tokens unit answers').silent := by
  simp only [decideCount, CheckResult.silent_withValue, CheckResult.silent_settled,
    CheckResult.silent_withIssues, List.length_map, totalOf_eq h, length_errorsOf_eq h]

/-! ## Checks -/

/-- The two results differ in messages at most. -/
def Agree (r r' : CheckResult) : Prop := r.silent = r'.silent

theorem likewise_fileSet (files : FileSet) :
    Access.Likewise SameFiles (fileSet files) (fileSet files) := by
  cases files with
  | paths ps => exact .done (.refl _)
  | walk dir glob => exact .files dir glob

theorem likewise_judge (mode : MatchMode) (c : Check) (r : Requirement) :
    Access.Likewise Agree (c.judge mode r) (c.judge mode r) := by
  cases r with
  | present paths =>
      refine (Access.Likewise.entries paths).bind fun answers answers' h => ?_
      exact .done (congrArg CheckResult.silent (decidePresent_eq h))
  | interface owner declaration implementation methods =>
      refine (Access.Likewise.text declaration).bind_eq fun declared => ?_
      exact (Access.Likewise.text implementation).bind_eq fun implemented => .done rfl
  | fields file owner names => exact (Access.Likewise.text file).bind_eq fun text => .done rfl
  | paired file opening closing requireUsage =>
      exact (Access.Likewise.text file).bind_eq fun text => .done rfl
  | threshold file tokens min => exact (Access.Likewise.text file).bind_eq fun text => .done rfl
  | patterns file patterns minCount =>
      exact (Access.Likewise.text file).bind_eq fun text => .done rfl
  | tokens rules => exact (Access.Likewise.textsOf _).bind_eq fun texts => .done rfl
  | forbidden token files require allowEmpty =>
      refine (likewise_fileSet files).bind fun found found' h => ?_
      cases h with
      | made dir => cases allowEmpty <;> exact .done rfl
      | refl found =>
          cases found with
          | ok paths =>
              refine (Access.Likewise.entries paths).bind fun answers answers' h => ?_
              exact .done (silent_decideForbidden h)
          | error e =>
              cases e with
              | notFound dir => cases allowEmpty <;> exact .done rfl
              | unreadable path reason => exact .done rfl
  | count files tokens unit =>
      refine (likewise_fileSet files).bind fun found found' h => ?_
      cases h with
      | made dir => cases unit <;> exact .done rfl
      | refl found =>
          cases found with
          | ok paths =>
              refine (Access.Likewise.entries paths).bind fun answers answers' h => ?_
              exact .done (silent_decideCount h)
          | error e => cases e <;> exact .done rfl

theorem likewise_evaluate (mode : MatchMode) (c : Check) :
    Access.Likewise Agree (c.evaluate mode) (c.evaluate mode) := by
  refine (Access.Likewise.entries _).bind fun answers answers' h => ?_
  have hmark (r r' : CheckResult) (hagree : Agree r r') : Access.Likewise Agree
      (pure (r.withInformational (!c.isGating))) (pure (r'.withInformational (!c.isGating))) := by
    refine .done ?_
    rw [Agree, CheckResult.silent_withInformational, CheckResult.silent_withInformational, hagree]
  dsimp only
  rw [← isEmpty_errorsOf_eq h]
  split
  next => exact (likewise_judge mode c c.requirement).bind hmark
  next => exact hmark _ _ (silent_missingFiles (length_errorsOf_eq h))

/-! ## What a check asks for -/

theorem concerns_of_mem_files {a : Answers} {r : Requirement} {files : FileSet}
    (hnamed : r.namedPaths = files.namedPaths) (hwalk : r.walk? = files.walk?) {paths : List String}
    (hfiles : a.filesOf files = .ok paths) {path : String} (hpath : path ∈ paths) :
    a.Concerns r path := by
  cases files with
  | paths named =>
      cases hfiles
      exact .named (hnamed ▸ hpath)
  | walk dir glob => exact .found hwalk hfiles hpath

theorem concerns_of_mem_asked {a : Answers} {mode : MatchMode} {c : Check} {r : Requirement}
    {path : String} (h : path ∈ (c.judge mode r).asked a) : a.Concerns r path := by
  cases r with
  | forbidden token files require allowEmpty =>
      simp only [judge, Access.asked_bind, asked_fileSet, value_fileSet, List.nil_append] at h
      cases hfiles : a.filesOf files with
      | ok paths => exact concerns_of_mem_files rfl rfl hfiles (by simpa [hfiles] using h)
      | error e => cases e <;> cases allowEmpty <;> simp [hfiles] at h
  | count files tokens unit =>
      simp only [judge, Access.asked_bind, asked_fileSet, value_fileSet, List.nil_append] at h
      cases hfiles : a.filesOf files with
      | ok paths => exact concerns_of_mem_files rfl rfl hfiles (by simpa [hfiles] using h)
      | error e => cases e <;> simp [hfiles] at h
  | present paths => exact .named (by simpa [judge, Requirement.namedPaths] using h)
  | interface owner declaration implementation methods =>
      exact .named (by simpa [judge, Requirement.namedPaths] using h)
  | fields file owner names => exact .named (by simpa [judge, Requirement.namedPaths] using h)
  | paired file opening closing requireUsage =>
      exact .named (by simpa [judge, Requirement.namedPaths] using h)
  | threshold file tokens min => exact .named (by simpa [judge, Requirement.namedPaths] using h)
  | patterns file ps minCount => exact .named (by simpa [judge, Requirement.namedPaths] using h)
  | tokens rules => exact .named (by simpa [judge, Requirement.namedPaths] using h)

theorem mem_namedPaths_of_mem_prerequisites {path : String} (h : path ∈ c.prerequisites) :
    path ∈ c.requirement.namedPaths := by
  unfold prerequisites requiredFiles at h
  cases hreq : c.requirement with
  | present paths => simp [hreq, reportsMissing] at h
  | count files tokens unit => simp [hreq, reportsMissing] at h
  | tokens rules =>
      rw [hreq] at h
      obtain ⟨rule, hrule, rfl⟩ := mem_ruleFiles.mp h
      exact List.mem_map_of_mem hrule
  | forbidden token files require allowEmpty =>
      cases files with
      | paths named =>
          simpa [hreq, reportsMissing, Requirement.namedPaths, FileSet.namedPaths] using h
      | walk dir glob => simp [hreq, reportsMissing] at h
  | _ => simpa [hreq, reportsMissing, Requirement.namedPaths] using h

theorem concerns_of_mem_touched {a : Answers} {mode : MatchMode} {path : String}
    (h : path ∈ c.touched a mode) : a.Concerns c.requirement path := by
  rw [touched_eq] at h
  rcases List.mem_append.mp h with hfirst | hjudged
  · exact .named (mem_namedPaths_of_mem_prerequisites hfirst)
  · split at hjudged
    next => exact concerns_of_mem_asked hjudged
    next => exact absurd hjudged List.not_mem_nil

theorem walk?_of_mem_listed {a : Answers} {mode : MatchMode} {w : String × String}
    (h : w ∈ (c.evaluate mode).listed a) : c.requirement.walk? = some w := by
  simp only [evaluate, Access.listed_bind, Access.listed_entries, Access.value_entries,
    List.nil_append] at h
  rw [← prerequisites] at h
  cases herrors : errorsOf (c.prerequisites.map fun path => (path, a.read path)) with
  | nil => simpa [herrors, listed_judge] using h
  | cons e rest => simp [herrors] at h

end Check

/-! ## Verdicts and reports -/

/-- To whatever the requirement asks, the answers say the same. -/
structure Answers.SameFor (a b : Answers) (r : Requirement) : Prop where
  read : ∀ path, a.Concerns r path → SameText (a.read path) (b.read path)
  list : ∀ dir glob, r.walk? = some (dir, glob) → SameFiles (a.list dir glob) (b.list dir glob)

theorem Answers.SameFor.verdict {a b : Answers} {c : Check} (h : a.SameFor b c.requirement)
    (mode : MatchMode) :
    (c.verdict a mode).silent = (c.verdict b mode).silent ∧ c.touched a mode = c.touched b mode :=
  (c.likewise_evaluate mode).value
    (fun path hpath => h.read path (Check.concerns_of_mem_touched hpath))
    (fun w hw => h.list w.1 w.2 (Check.walk?_of_mem_listed hw))

theorem Corpus.stats_afterChecks_eq {a b : Answers} {checks : List Check}
    (h : ∀ c ∈ checks, a.SameFor b c.requirement) (mode : MatchMode) :
    (afterChecks a mode checks).stats = (afterChecks b mode checks).stats := by
  refine (afterChecks_agrees a mode checks).stats_eq_of_isText (afterChecks_agrees b mode checks)
    (fun path => ?_) fun path hpath => ?_
  · simp only [mem_afterChecks]
    exact exists_congr fun c => and_congr_right fun hc => by rw [((h c hc).verdict mode).2]
  · obtain ⟨c, hc, htouched⟩ := mem_afterChecks.mp hpath
    exact ((h c hc).read path (Check.concerns_of_mem_touched htouched)).isText_eq

namespace RunReport

theorem silent_aggregate (contract : String) (results : List CheckResult) (corpus : CorpusStats)
    (cancelled : Bool) :
    (aggregate contract results corpus cancelled).silent =
      aggregate contract (results.map CheckResult.silent) corpus cancelled := by
  have hgating : gating (results.map CheckResult.silent) =
      (gating results).map CheckResult.silent := by
    rw [gating, gating, List.filter_map]
    rfl
  have hissues : (gating (results.map CheckResult.silent)).flatMap CheckResult.issues =
      ((gating results).flatMap CheckResult.issues).map Issue.silent := by
    rw [hgating, List.flatMap_map, List.map_flatMap]
    rfl
  have hstats : statsOf (results.map CheckResult.silent) corpus = statsOf results corpus := by
    unfold statsOf
    simp only [hissues]
    simp only [hgating, List.length_map, List.map_map, List.filter_map]
    rfl
  simp only [aggregate, silent, hissues, hstats]

theorem allPassed_silent (r : RunReport) : r.silent.allPassed = r.allPassed := rfl

theorem passed_silent (r : RunReport) :
    r.silent.results.map CheckResult.passed = r.results.map CheckResult.passed := by
  simp [silent, CheckResult.silent, Function.comp_def]

end RunReport

end SourceContract
