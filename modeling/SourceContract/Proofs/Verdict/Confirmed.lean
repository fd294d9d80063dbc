import Mathlib.Data.List.Perm.Subperm
import SourceContract.Proofs.Corpus.Known
import SourceContract.Proofs.Verdict.Decision
import SourceContract.Proofs.Verdict.Meaning
import SourceContract.Proofs.Verdict.Pool

/-!
# No verdict on a text that was not read

A text that cannot be had counts as empty, but this never matters: before a check is
judged, all its files are loaded, and it is not judged unless all of them have a text.
To say so, the check is judged once more, by a program that takes every text from what
is known already and for all others does whatever it likes.  The files may change all
the while, and other checks may be evaluated at the same time.
-/

namespace SourceContract

open Matching

variable {σ : Type}

/-! ## Texts from elsewhere -/

namespace Corpus

/-- The text that the corpus holds for the path.  Without one, `fallback` goes on. -/
def textOr (known : Corpus) (fallback : String → Access String) (path : String) : Access String :=
  match known.find? path with
  | some (.ok t) => return t
  | _ => fallback path

def error? (known : Corpus) (path : String) : Option LoadError :=
  match known.find? path with
  | some (.error e) => some e
  | _ => none

theorem textOr_eq {known : Corpus} {path t : String} (h : known.find? path = some (.ok t))
    (fallback : String → Access String) : known.textOr fallback path = pure t := by
  simp only [textOr, h]

end Corpus

def Access.textsBy (text : String → Access String) : List String → Access (List String)
  | [] => return []
  | path :: rest => do
      let t ← text path
      return t :: (← textsBy text rest)

namespace Check

variable {c : Check} {mode : MatchMode} {known : Corpus}

def judgeBy (text : String → Access String) (mode : MatchMode) (c : Check) :
    Requirement → Access CheckResult
  | .interface owner declaration implementation methods => do
      let declared ← text declaration
      let implemented ← text implementation
      return c.decideInterface owner (Tally.ofMethods mode declared implemented methods)
  | .fields file owner fields => do
      let declared ← text file
      let absentOwner := owner.filter fun o => !contains declared o
      return c.decideFields file absentOwner (Tally.ofFields mode declared owner fields)
  | .paired file opening closing requireUsage => do
      let text ← text file
      return c.decidePaired file opening closing (count text opening) (count text closing)
        requireUsage
  | .threshold file tokens min => do
      let text ← text file
      return c.decideThreshold file tokens (occurrences text tokens) min
  | .tokens rules => do
      let texts ← Access.textsBy text (rules.map TokenRule.file)
      return c.decideTokens (rules.zipWith (fun r text => (r, occurrences text r.anyOf)) texts)
  | .patterns file patterns minCount => do
      let text ← text file
      return c.decidePatterns file minCount (patterns.map (countPattern text))
  | r => c.judge mode r

def settleBy (text : String → Access String) (mode : MatchMode) (c : Check)
    (answers : List (String × Entry)) : Access CheckResult :=
  if (errorsOf answers).isEmpty then c.judgeBy text mode c.requirement
  else return c.missingFiles (errorsOf answers)

def evaluateBy (text : String → Access String) (mode : MatchMode) (c : Check) :
    Access CheckResult := do
  let answers ← Access.entries c.prerequisites
  let result ← c.settleBy text mode answers
  return result.withInformational (!c.isGating)

theorem textsBy_text (paths : List String) :
    Access.textsBy Access.text paths = Access.textsOf paths := by
  induction paths with
  | nil => rfl
  | cons path rest ih => simp only [Access.textsBy, Access.textsOf, ih]

theorem judgeBy_text (mode : MatchMode) (c : Check) (r : Requirement) :
    c.judgeBy Access.text mode r = c.judge mode r := by
  cases r with
  | tokens rules => simp only [judgeBy, judge, textsBy_text]
  | _ => rfl

theorem evaluateBy_text (mode : MatchMode) (c : Check) :
    c.evaluateBy Access.text mode = c.evaluate mode := by
  rw [evaluate, ← prerequisites, evaluateBy]
  congr 1
  funext answers
  simp only [settleBy, judgeBy_text]
  split
  next => rfl
  next => rfl

/-! ## Judging after loading -/

theorem given_textsBy {text text' : String → Access String} {told : String → Option Entry}
    {paths : List String} (h : ∀ path ∈ paths, (text path).given told = (text' path).given told) :
    (Access.textsBy text paths).given told = (Access.textsBy text' paths).given told := by
  induction paths with
  | nil => rfl
  | cons path rest ih =>
      obtain ⟨hpath, hrest⟩ := List.forall_mem_cons.mp h
      simp only [Access.textsBy, Access.given_bind, hpath, ih hrest]

theorem given_judgeBy {text text' : String → Access String} {told : String → Option Entry}
    (h : ∀ path ∈ c.prerequisites, (text path).given told = (text' path).given told) :
    (c.judgeBy text mode c.requirement).given told =
      (c.judgeBy text' mode c.requirement).given told := by
  unfold prerequisites requiredFiles at h
  -- By the kinds that ask for texts; the paths of each are among its required files.
  cases hreq : c.requirement with
  | interface owner declaration implementation methods =>
      rw [hreq] at h
      have hdeclared := h declaration List.mem_cons_self
      have himplemented := h implementation (List.mem_cons_of_mem _ List.mem_cons_self)
      simp only [judgeBy, Access.given_bind, hdeclared, himplemented]
  | tokens rules =>
      rw [hreq] at h
      have htexts : ∀ path ∈ rules.map TokenRule.file,
          (text path).given told = (text' path).given told := by
        intro path hpath
        exact h path (mem_ruleFiles.mpr (List.mem_map.mp hpath))
      simp only [judgeBy, Access.given_bind, given_textsBy htexts]
  | fields file _ _ | paired file _ _ _ | threshold file _ _ | patterns file _ _ =>
      rw [hreq] at h
      simp only [judgeBy, Access.given_bind, h file List.mem_cons_self]
  | _ => rfl

theorem find?_of_entries {paths : List String} {answers : List (String × Entry)}
    (h : (Access.entries paths).Reaches known.find? answers) {path : String}
    (hpath : path ∈ paths) : ∃ e, (path, e) ∈ answers ∧ known.find? path = some e := by
  obtain ⟨hpaths, hsame⟩ := Access.reaches_entries h
  rw [← hpaths] at hpath
  obtain ⟨⟨path, e⟩, ha, rfl⟩ := List.mem_map.mp hpath
  exact ⟨e, ha, hsame _ ha⟩

/-- After the prerequisites have been asked for, every text that is asked for is known. -/
theorem given_settleBy (mode : MatchMode) {answers : List (String × Entry)}
    (h : (Access.entries c.prerequisites).Reaches known.find? answers)
    (fallback : String → Access String) :
    (c.settleBy (known.textOr fallback) mode answers).given known.find? =
      (c.settleBy Access.text mode answers).given known.find? := by
  unfold settleBy
  split
  next hempty =>
    apply given_judgeBy
    intro path hpath
    obtain ⟨e, ha, hfind⟩ := find?_of_entries h hpath
    have hnone := List.filterMap_eq_nil_iff.mp (List.isEmpty_iff.mp hempty) _ ha
    cases e with
    | ok t => rw [Corpus.textOr_eq hfind, Access.given_text hfind, Access.given_pure]
    | error e => contradiction
  next => rfl

/-! ## What a result rests on -/

/-- The result of a check when the corpus holds all that was seen.  Its prerequisites are loaded,
and so counted.  If some of them failed to load, the result is a failure with one issue for each,
in order.  All texts that the result depends on are in the corpus. -/
structure RestsOn (c : Check) (mode : MatchMode) (known : Corpus) (r : CheckResult) : Prop where
  loaded : ∀ path ∈ c.prerequisites, path ∈ known.paths
  counted : c.prerequisites.dedup.length ≤ known.stats.filesInspected + known.stats.filesMissing
  failed : c.prerequisites.filterMap known.error? ≠ [] →
    r.passed = false ∧ r.issues = (c.prerequisites.filterMap known.error?).map fun e =>
      c.issue .missingResource e.message 1
  judged : ∀ fallback : String → Access String,
    (c.evaluateBy (known.textOr fallback) mode).Reaches known.find? r

theorem errorsOf_eq_filterMap {answers : List (String × Entry)}
    (hsame : ∀ a ∈ answers, known.find? a.1 = some a.2) :
    errorsOf answers = (answers.map Prod.fst).filterMap known.error? := by
  rw [List.filterMap_map, errorsOf]
  apply List.filterMap_congr
  rintro ⟨path, e⟩ ha
  simp only [Function.comp_apply, Corpus.error?, hsame _ ha]
  cases e <;> rfl

theorem length_dedup_le {paths : List String} (h : ∀ path ∈ paths, path ∈ known.paths) :
    paths.dedup.length ≤ known.stats.filesInspected + known.stats.filesMissing := by
  have hpaths : paths.dedup.length ≤ known.paths.length := by
    have hsub : paths.dedup ⊆ known.paths := fun path hpath => h path (List.mem_dedup.mp hpath)
    exact (List.Nodup.subperm (List.nodup_dedup paths) hsub).length_le
  have hsplit := List.length_eq_length_filter_add (l := known.answers) fun a => Corpus.isText a.2
  rw [Corpus.paths, List.length_map] at hpaths
  exact Nat.le_trans hpaths (Nat.le_of_eq hsplit)

theorem restsOn_of_reaches {r : CheckResult} (h : (c.evaluate mode).Reaches known.find? r) :
    c.RestsOn mode known r := by
  rw [← evaluateBy_text] at h
  obtain ⟨answers, hentries, h⟩ := Access.reaches_bind_iff.mp h
  obtain ⟨judged, hjudged, h⟩ := Access.reaches_bind_iff.mp h
  obtain rfl := Access.reaches_pure_iff.mp h
  obtain ⟨hpaths, hsame⟩ := Access.reaches_entries hentries
  have herrors := errorsOf_eq_filterMap hsame
  rw [hpaths] at herrors
  have hloaded : ∀ path ∈ c.prerequisites, path ∈ known.paths := by
    intro path hpath
    obtain ⟨e, -, hfind⟩ := find?_of_entries hentries hpath
    exact List.mem_map_of_mem (Corpus.mem_answers_of_find? hfind)
  refine ⟨hloaded, length_dedup_le hloaded, ?_, ?_⟩
  · intro hfailures
    rw [settleBy, herrors, if_neg (by simpa using hfailures)] at hjudged
    obtain rfl := Access.reaches_pure_iff.mp hjudged
    exact ⟨(c.decided_missingFiles hfailures).passed_eq, issues_missingFiles _⟩
  · intro fallback
    -- What is put into a program does not change what it reaches, so the texts can be exchanged.
    rw [← Access.reaches_given_iff, ← given_settleBy mode hentries fallback,
      Access.reaches_given_iff] at hjudged
    exact Access.reaches_bind_iff.mpr ⟨answers, hentries,
      Access.reaches_bind_iff.mpr ⟨judged, hjudged, .done _⟩⟩

theorem run_evaluateBy (s : Source (StateM σ)) (mode : MatchMode) (c : Check) (corpus : Corpus)
    (w : σ) (fallback : String → Access String) :
    let confirmed := (((Access.entries c.prerequisites).run s corpus).run w).1.2
    ((c.evaluateBy (confirmed.textOr fallback) mode).run s corpus).run w =
      ((c.evaluate mode).run s corpus).run w := by
  intro confirmed
  have hentries := (Access.run_reaches (s := s) (Access.entries c.prerequisites) corpus w).2
  have hsettled := given_settleBy mode hentries fallback
  have hrun (p : Access CheckResult) (w : σ) :
      ((p.given confirmed.find?).run s confirmed).run w = (p.run s confirmed).run w :=
    Access.run_given p confirmed (fun _ _ h => h) w
  rw [← evaluateBy_text, evaluateBy, evaluateBy]
  simp only [Access.run_seq]
  rw [← hrun, hsettled, hrun]

end Check

/-! ## Side by side -/

namespace Worker

def rest? (mode : MatchMode) : Worker → Option (Access CheckResult)
  | waiting c => some (c.evaluate mode)
  | running p => some p
  | reading path next => some (.load path next)
  | storing path _ next => some (.load path next)
  | finished outcome => outcome.map .done

theorem eq_finished_of_outcome? {worker : Worker} {outcome : Option CheckResult}
    (h : worker.outcome? = some outcome) : worker = finished outcome := by
  cases worker with
  | finished o =>
      cases h
      rfl
  | _ => contradiction

/-- What the rest of the evaluation can come to, the evaluation of the check can come to. -/
def Continues (mode : MatchMode) (c : Check) (corpus : Corpus) (worker : Worker) : Prop :=
  ∀ known, corpus.HeldBy known → ∀ p, worker.rest? mode = some p → ∀ r, p.Reaches known r →
    (c.evaluate mode).Reaches known r

theorem find?_keep (corpus : Corpus) (path : String) (e : Entry) :
    (corpus.keep path e).2.find? path = some (corpus.keep path e).1 ∧
      corpus.HeldBy (corpus.keep path e).2.find? := by
  unfold Corpus.keep
  cases hfind : corpus.find? path with
  | some kept => exact ⟨hfind, .refl corpus⟩
  | none => exact ⟨by rw [Corpus.find?_add, if_pos rfl], .to_add hfind e⟩

theorem step_reaches (s : Source (StateM σ)) (cancelled : Bool) (mode : MatchMode)
    (worker : Worker) (corpus : Corpus) (w : σ) :
    let (after, corpus', _) := worker.step s cancelled mode corpus w
    corpus.HeldBy corpus'.find? ∧ ∀ known, corpus'.HeldBy known →
      ∀ p', after.rest? mode = some p' → ∀ r, p'.Reaches known r →
        ∃ p, worker.rest? mode = some p ∧ p.Reaches known r := by
  cases worker with
  | waiting c =>
      refine ⟨.refl corpus, fun known _ p' hp' r hr => ⟨_, rfl, ?_⟩⟩
      cases cancelled with
      | false =>
          cases hp'
          exact hr
      | true => contradiction
  | running p =>
      cases p with
      | done r => exact ⟨.refl corpus, fun known _ p' hp' r hr => ⟨p', hp', hr⟩⟩
      | load path next =>
          cases hfind : corpus.find? path with
          | some e =>
              simp only [step, hfind]
              refine ⟨.refl corpus, fun known hheld p' hp' r hr => ⟨_, rfl, ?_⟩⟩
              cases hp'
              exact .load (hheld path e hfind) hr
          | none =>
              simp only [step, hfind]
              exact ⟨.refl corpus, fun known _ p' hp' r hr => ⟨p', hp', hr⟩⟩
      | list dir glob next =>
          refine ⟨.refl corpus, fun known _ p' hp' r hr => ⟨_, rfl, ?_⟩⟩
          cases hp'
          exact .list _ hr
  | reading path next => exact ⟨.refl corpus, fun known _ p' hp' r hr => ⟨p', hp', hr⟩⟩
  | storing path e next =>
      obtain ⟨hfind, hkept⟩ := find?_keep corpus path e
      refine ⟨hkept, fun known hheld p' hp' r hr => ⟨_, rfl, ?_⟩⟩
      cases hp'
      exact .load (hheld path _ hfind) hr
  | finished outcome => exact ⟨.refl corpus, fun known _ p' hp' r hr => ⟨p', hp', hr⟩⟩

end Worker

namespace Pool

variable {s : Source (StateM σ)} {cancelled : Bool} {mode : MatchMode} {checks : List Check}

def Continues (mode : MatchMode) (checks : List Check) (pool : Pool σ) : Prop :=
  ∀ (i : Nat) (c : Check) (worker : Worker), checks[i]? = some c → pool.workers[i]? = some worker →
    worker.Continues mode c pool.corpus

theorem continues_start (mode : MatchMode) (checks : List Check) (w : σ) :
    (start checks w).Continues mode checks := by
  intro i c worker hc hworker known _ p hp r hr
  rw [start, List.getElem?_map, hc] at hworker
  cases hworker
  cases hp
  exact hr

theorem Continues.turn {pool : Pool σ} (h : pool.Continues mode checks) (j : Nat) :
    (pool.turn s cancelled mode j).Continues mode checks := by
  cases hworker : pool.workers[j]? with
  | none =>
      rw [turn_none hworker]
      exact h
  | some before =>
      have hstep := before.step_reaches s cancelled mode pool.corpus pool.disk
      rw [turn_some hworker]
      generalize before.step s cancelled mode pool.corpus pool.disk = taken at hstep ⊢
      obtain ⟨hheld, hreaches⟩ := hstep
      intro i c worker hc hi known hknown p' hp' r hr
      have hbefore : pool.corpus.HeldBy known := fun path e he => hknown path e (hheld path e he)
      by_cases heq : j = i
      · subst heq
        have hlt := (List.getElem?_eq_some_iff.mp hworker).1
        rw [List.getElem?_set_self hlt] at hi
        cases hi
        obtain ⟨p, hp, hr⟩ := hreaches known hknown p' hp' r hr
        exact h j c before hc hworker known hbefore p hp r hr
      · rw [List.getElem?_set_ne heq] at hi
        exact h i c worker hc hi known hbefore p' hp' r hr

theorem Continues.after {pool : Pool σ} (h : pool.Continues mode checks) (schedule : List Nat) :
    (pool.after s cancelled mode schedule).Continues mode checks := by
  induction schedule generalizing pool with
  | nil => exact h
  | cons j rest ih => exact ih (h.turn j)

theorem finished_reaches (schedule : List Nat) (w : σ) {i : Nat} {c : Check} {r : CheckResult}
    (hc : checks[i]? = some c)
    (hr : ((start checks w).after s cancelled mode schedule).workers[i]? =
      some (.finished (some r))) :
    (c.evaluate mode).Reaches ((start checks w).after s cancelled mode schedule).corpus.find? r :=
  (continues_start mode checks w).after schedule i c _ hc hr _ (.refl _) _ rfl r (.done r)

end Pool

/-- No check is judged on a text that was not read, whatever the corpus holds at first and however
the files change during the evaluation.  All prerequisites of a check are loaded, and if some fail
to load, the result says which, in order, and nothing else.  All texts come from what the corpus
holds once the prerequisites are loaded: with anything else in place of an empty text for files
that cannot be had, the result, the corpus and the disk are the same.

The same holds of a check that is evaluated beside others on one corpus. -/
theorem texts_are_read_before_judging (s : Source (StateM σ)) (mode : MatchMode) :
    (∀ (c : Check) (corpus : Corpus) (w : σ),
      let confirmed := (((Access.entries c.prerequisites).run s corpus).run w).1.2
      let ((r, after), w') := ((c.evaluate mode).run s corpus).run w
      c.RestsOn mode after r ∧ ∀ fallback : String → Access String,
        ((c.evaluateBy (confirmed.textOr fallback) mode).run s corpus).run w = ((r, after), w')) ∧
    ∀ (cancelled : Bool) (checks : List Check) (schedule : List Nat) (w : σ) (i : Nat) (c : Check)
      (r : CheckResult),
      let pool := (Pool.start checks w).after s cancelled mode schedule
      checks[i]? = some c → pool.workers[i]? = some (.finished (some r)) →
        c.RestsOn mode pool.corpus r := by
  constructor
  · intro c corpus w confirmed
    exact ⟨Check.restsOn_of_reaches (Access.run_reaches (c.evaluate mode) corpus w).2,
      Check.run_evaluateBy s mode c corpus w⟩
  · intro cancelled checks schedule w i c r pool hc hr
    exact Check.restsOn_of_reaches (Pool.finished_reaches schedule w hc hr)

theorem texts_are_read_before_judging_of_vanishing_files :
    let s : Source (StateM Nat) :=
      { read := fun path => do
          let reads ← get
          set (reads + 1)
          return if reads = 0 then .ok "open" else .error (.notFound path)
        list := fun dir _ => return .error (.notFound dir) }
    let kept : Check := ⟨"calls", none, false, .threshold "a.h" ["open"] 0⟩
    let lost : Check := ⟨"io", none, false, .interface "Io" "a.h" "b.h" ["open"]⟩
    let pool := (Pool.start [lost] 0).after s false .literal (List.replicate 8 0)
    (((kept.evaluate .literal).run s .empty).run 0).1.1.passed = true ∧
      ∃ r, pool.workers[0]? = some (.finished (some r)) ∧ "a.h" ∈ pool.corpus.paths ∧
        r.issues = [lost.issue .missingResource "file not found: b.h" 1] := by
  intro s kept lost pool
  refine ⟨by decide +kernel, ?_⟩
  have hlost : lost.prerequisites.filterMap pool.corpus.error? = [.notFound "b.h"] := by
    decide +kernel
  obtain ⟨worker, hworker, houtcome⟩ := Option.bind_eq_some_iff.mp
    (show pool.workers[0]?.bind Worker.outcome? =
      some (some ((lost.missingFiles [.notFound "b.h"]).withInformational false)) by decide +kernel)
  obtain rfl := Worker.eq_finished_of_outcome? houtcome
  have hrests := (texts_are_read_before_judging s .literal).2 false [lost] (List.replicate 8 0) 0 0
    lost _ rfl hworker
  have hissues := (hrests.failed (by rw [hlost]; exact List.cons_ne_nil _ _)).2
  rw [hlost] at hissues
  exact ⟨_, hworker, hrests.loaded "a.h" List.mem_cons_self, hissues⟩

end SourceContract
