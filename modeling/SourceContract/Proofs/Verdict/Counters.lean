import Mathlib.Data.Finset.Card
import SourceContract.Proofs.Verdict.Inspection
import SourceContract.Proofs.Verdict.Silent

/-!
# The counters of files

A check asks for every path that stands in it, also when it has failed already, and for
every path that its walk lists.  So the counters of a run are known before it: they tell
how many of these paths there are with a text and how many without one.
-/

namespace SourceContract

open Matching (MatchMode)

/-! ## What is asked for -/

/-- The paths that stand in a requirement, and those that its walk lists. -/
def Answers.pathsOf (a : Answers) (r : Requirement) : List String :=
  r.namedPaths ++ match r.walk? with
    | none => []
    | some (dir, glob) =>
        match a.list dir glob with
        | .ok paths => paths
        | .error _ => []

theorem Answers.mem_pathsOf_iff {a : Answers} {r : Requirement} {path : String} :
    path ∈ a.pathsOf r ↔ a.Concerns r path := by
  rw [pathsOf, List.mem_append]
  constructor
  · rintro (hnamed | hfound)
    · exact .named hnamed
    · cases hwalk : r.walk? with
      | none => simp [hwalk] at hfound
      | some w =>
          cases hlist : a.list w.1 w.2 with
          | ok paths => exact .found hwalk hlist (by simpa [hwalk, hlist] using hfound)
          | error e => simp [hwalk, hlist] at hfound
  · rintro (hnamed | ⟨hwalk, hlist, hpath⟩)
    · exact Or.inl hnamed
    · simp only [hwalk, hlist]
      exact Or.inr hpath

theorem Answers.pathsOf_of_unlisted {a : Answers} {r : Requirement} {dir glob : String}
    (hwalk : r.walk? = some (dir, glob)) {e : LoadError} (hlist : a.list dir glob = .error e) :
    a.pathsOf r = [] := by
  have hnamed : r.namedPaths = [] := by
    rcases Requirement.eq_of_walk hwalk with ⟨token, require, allowEmpty, rfl⟩ | ⟨tokens, unit, rfl⟩
    · rfl
    · rfl
  simp only [pathsOf, hnamed, hwalk, hlist, List.append_nil]

namespace Check

variable {a : Answers} {mode : MatchMode} {c : Check} {path : String}

theorem mem_touched_of_mem_asked (hnone : c.prerequisites = [])
    (h : path ∈ (c.judge mode c.requirement).asked a) : path ∈ c.touched a mode := by
  rw [touched_eq, hnone]
  exact h

theorem mem_touched_of_named (h : path ∈ c.requirement.namedPaths) : path ∈ c.touched a mode := by
  have hfirst : path ∈ c.prerequisites → path ∈ c.touched a mode := by
    intro hpath
    rw [touched_eq]
    exact List.mem_append_left _ hpath
  unfold prerequisites requiredFiles at hfirst
  -- Only presence and measurements ask for their paths when they are judged, and they have no
  -- prerequisites that could keep them from it.
  cases hreq : c.requirement with
  | present paths =>
      rw [hreq] at h
      apply mem_touched_of_mem_asked
      · simp [prerequisites, reportsMissing, hreq]
      · rw [hreq, judge, Access.asked_bind, Access.asked_entries]
        exact List.mem_append_left _ h
  | count files tokens unit =>
      rw [hreq] at h
      cases files with
      | walk dir glob => exact absurd h List.not_mem_nil
      | paths paths =>
          apply mem_touched_of_mem_asked
          · simp [prerequisites, requiredFiles, hreq]
          · simpa [hreq, judge, asked_fileSet, value_fileSet, Answers.filesOf] using
              show path ∈ paths from h
  | forbidden token files require allowEmpty =>
      rw [hreq] at h hfirst
      cases files with
      | walk dir glob => exact absurd h List.not_mem_nil
      | paths paths => exact hfirst h
  | tokens rules =>
      rw [hreq] at h hfirst
      exact hfirst (mem_ruleFiles.mpr (List.mem_map.mp h))
  | _ =>
      rw [hreq] at h hfirst
      exact hfirst h

theorem mem_touched_iff : path ∈ c.touched a mode ↔ path ∈ a.pathsOf c.requirement := by
  rw [Answers.mem_pathsOf_iff]
  constructor
  · exact concerns_of_mem_touched
  · rintro (hnamed | ⟨hwalk, hlist, hpath⟩)
    · exact mem_touched_of_named hnamed
    · rw [touched_of_walk hwalk hlist]
      exact hpath

end Check

/-! ## Counting -/

theorem Corpus.Agrees.stats_eq_card {a : Answers} {c : Corpus} (h : c.Agrees a) {P : Finset String}
    (known : ∀ path, path ∈ c.paths ↔ path ∈ P) :
    c.stats = ⟨(P.filter fun path => isText (a.read path) = true).card,
      (P.filter fun path => isText (a.read path) = false).card⟩ := by
  have hP : P = c.paths.toFinset := by
    ext path
    rw [List.mem_toFinset, known]
  have hcount (test : Bool → Bool) : (c.answers.filter fun e => test (isText e.2)).length =
      (P.filter fun path => test (isText (a.read path)) = true).card := by
    rw [hP, ← List.toFinset_filter, List.toFinset_card_of_nodup (h.once.filter _), h.answers_eq,
      List.filter_map, List.length_map]
    rfl
  have hinspected := hcount id
  have hmissing := hcount not
  simp only [id, Bool.not_eq_true'] at hinspected hmissing
  rw [stats, hinspected, hmissing]

variable {σ : Type} {s : Source (StateM σ)} {w : σ} {name : String} {mode : MatchMode}
  {checks : List Check}

/-- The counters of a run count paths, each once: all those that stand in its checks, and those
that the walks list.  The files inspected are the paths that load, and the files missing are the
others.  A directory that cannot be listed adds to neither. -/
theorem counters_count_paths (still : s.Steady w) {report : RunReport}
    (h : Reports s name mode checks w report) :
    let P := (checks.flatMap fun c => (s.at w).pathsOf c.requirement).toFinset
    report.stats.filesInspected =
        (P.filter fun path => Corpus.isText ((s.at w).read path) = true).card ∧
      report.stats.filesMissing =
        (P.filter fun path => Corpus.isText ((s.at w).read path) = false).card ∧
      ∀ c ∈ checks, ∀ dir glob e, c.requirement.walk? = some (dir, glob) →
        (s.at w).list dir glob = .error e → (s.at w).pathsOf c.requirement = [] := by
  intro P
  have hknown (path : String) :
      path ∈ (Corpus.afterChecks (s.at w) mode checks).paths ↔ path ∈ P := by
    rw [Corpus.mem_afterChecks, List.mem_toFinset, List.mem_flatMap]
    simp only [Check.mem_touched_iff]
  have hstats := (Corpus.afterChecks_agrees (s.at w) mode checks).stats_eq_card hknown
  rw [h.eq_aggregate still, hstats]
  refine ⟨rfl, rfl, ?_⟩
  intro c _ dir glob e hwalk hlist
  exact Answers.pathsOf_of_unlisted hwalk hlist

theorem counters_count_paths_of_shared_headers :
    let s : Source (StateM Unit) :=
      { read := fun path =>
          return if path.endsWith ".h" then .ok "open" else .error (.notFound path)
        list := fun dir _ =>
          return if dir = "src" then .ok ["a.h", "b.h"] else .error (.notFound dir) }
    let checks : List Check :=
      [⟨"there", none, false, .present ["c", "a.h", "c"]⟩,
        ⟨"io", none, false, .interface "Io" "c" "d.h" ["open"]⟩,
        ⟨"tidy", none, false, .forbidden "goto" (.walk "src" "*.h") [] false⟩,
        ⟨"size", none, false, .count (.walk "lib" "*.h") ["open"] .files⟩]
    let report := ((runChecks s false "" .literal checks).run ()).1
    report.stats.filesInspected = 3 ∧ report.stats.filesMissing = 1 := by
  intro s checks report
  have still : s.Steady () := ⟨fun _ => rfl, fun _ _ => rfl⟩
  have h : Reports s "" .literal checks () report := .inSequence
  obtain ⟨hinspected, hmissing, -⟩ := counters_count_paths still h
  rw [hinspected, hmissing]
  decide +kernel

end SourceContract
