import SourceContract.Proofs.Contract.Validate
import SourceContract.Proofs.Verdict.Backed
import SourceContract.Proofs.Verdict.Meaning

/-!
# What can go wrong with patterns and globs

Validation compiles the patterns and globs of a contract, and deciding its checks
compiles them again.  Here the second of these takes down each one that turns out to
be none.  What it takes down on a file tree is what validation looks for, provided
that the file to be searched, or the directory to be walked, is there.
-/

namespace SourceContract

open Matching (MatchMode)

/-! ## Mishaps -/

inductive Mishap where
  | invalidPattern (pattern : String) (fault : Pattern.Fault)
  | invalidGlob (glob : String) (fault : Glob.Fault)
deriving DecidableEq, Repr

namespace Mishap

def reportedFor (check : String) : Mishap → ContractFault
  | .invalidPattern pattern fault => .invalidPattern check pattern fault
  | .invalidGlob glob fault => .invalidGlob check glob fault

theorem reportedFor_inj {check check' : String} {m m' : Mishap}
    (h : m.reportedFor check = m'.reportedFor check') : check = check' ∧ m = m' := by
  cases m <;> cases m' <;> simp_all [reportedFor]

def ofPattern? (pattern : String) : Option Mishap :=
  match Pattern.compile pattern with
  | .ok _ => none
  | .error fault => some (.invalidPattern pattern fault)

def ofGlob? (glob : String) : Option Mishap :=
  match Glob.compile glob with
  | .ok _ => none
  | .error fault => some (.invalidGlob glob fault)

end Mishap

/-! ## What validation looks for -/

def FileSet.walk? : FileSet → Option (String × String)
  | .paths _ => none
  | .walk dir glob => some (dir, glob)

namespace Requirement

def walk? : Requirement → Option (String × String)
  | .forbidden _ files .. => files.walk?
  | .count files .. => files.walk?
  | _ => none

def patternTexts : Requirement → List String
  | .patterns _ ps _ => ps
  | _ => []

theorem eq_of_walk {r : Requirement} {dir glob : String} (h : r.walk? = some (dir, glob)) :
    (∃ token require allowEmpty, r = .forbidden token (.walk dir glob) require allowEmpty) ∨
      ∃ tokens unit, r = .count (.walk dir glob) tokens unit := by
  cases r with
  | forbidden token files require allowEmpty =>
      cases files with
      | paths paths => contradiction
      | walk dir' glob' =>
          cases h
          exact Or.inl ⟨token, require, allowEmpty, rfl⟩
  | count files tokens unit =>
      cases files with
      | paths paths => contradiction
      | walk dir' glob' =>
          cases h
          exact Or.inr ⟨tokens, unit, rfl⟩
  | _ => contradiction

theorem patternTexts_of_walk {r : Requirement} {dir glob : String}
    (h : r.walk? = some (dir, glob)) : r.patternTexts = [] := by
  rcases eq_of_walk h with ⟨token, require, allowEmpty, rfl⟩ | ⟨tokens, unit, rfl⟩ <;> rfl

def mishaps (r : Requirement) : List Mishap :=
  r.walk?.toList.filterMap (fun w => Mishap.ofGlob? w.2) ++
    r.patternTexts.filterMap Mishap.ofPattern?

theorem mem_mishaps_iff_of_walk {r : Requirement} {dir glob : String} {m : Mishap}
    (h : r.walk? = some (dir, glob)) : m ∈ r.mishaps ↔ Mishap.ofGlob? glob = some m := by
  simp [mishaps, h, patternTexts_of_walk h]

theorem mishaps_of_no_walk {r : Requirement} (h : r.walk? = none) :
    r.mishaps = r.patternTexts.filterMap Mishap.ofPattern? := by
  simp [mishaps, h]

end Requirement

theorem patternFault?_eq (check : String) :
    patternFault? check = fun pattern =>
      (Mishap.ofPattern? pattern).map (Mishap.reportedFor check) := by
  funext pattern
  unfold patternFault? Mishap.ofPattern?
  cases Pattern.compile pattern <;> rfl

theorem FileSet.fault?_eq (check : String) (files : FileSet) :
    files.fault? check =
      (files.walk?.bind fun w => Mishap.ofGlob? w.2).map (Mishap.reportedFor check) := by
  cases files with
  | paths paths => rfl
  | walk dir glob =>
      simp only [fault?, walk?, Option.bind_some, Mishap.ofGlob?]
      cases Glob.compile glob <;> rfl

theorem Requirement.searchFault?_eq (check : String) (r : Requirement) :
    r.searchFault? check = r.mishaps.head?.map (Mishap.reportedFor check) := by
  cases r with
  | forbidden token files require allowEmpty =>
      cases files <;> simp [searchFault?, FileSet.fault?_eq, mishaps, walk?, FileSet.walk?,
        patternTexts]
  | count files tokens unit =>
      cases files <;> simp [searchFault?, FileSet.fault?_eq, mishaps, walk?, FileSet.walk?,
        patternTexts]
  | patterns file ps minCount =>
      simp [searchFault?, patternFault?_eq, mishaps, walk?, patternTexts, Function.comp_def]
  | _ => rfl

namespace Check

theorem mishaps_of_fault?_eq_none {c : Check} (h : c.fault? = none) :
    c.requirement.mishaps = [] := by
  simpa [Requirement.searchFault?_eq] using (fault?_eq_none_iff.mp h).2

theorem exists_glob_of_walk {c : Check} (h : c.fault? = none) {dir glob : String}
    (hwalk : c.requirement.walk? = some (dir, glob)) :
    ∃ compiled, Glob.compile glob = .ok compiled := by
  cases hcompile : Glob.compile glob with
  | ok compiled => exact ⟨compiled, rfl⟩
  | error fault =>
      have hm : Mishap.ofGlob? glob = some (.invalidGlob glob fault) := by
        simp only [Mishap.ofGlob?, hcompile]
      have hmem := (Requirement.mem_mishaps_iff_of_walk hwalk).mpr hm
      simp [mishaps_of_fault?_eq_none h] at hmem

theorem mem_mishaps_of_fault?_eq_some {c : Check} {check : String} {m : Mishap}
    (h : c.fault? = some (m.reportedFor check)) :
    c.name = check ∧ m ∈ c.requirement.mishaps := by
  unfold fault? at h
  cases hpart : c.requirement.emptyPart? with
  | some part => cases m <;> simp [hpart, Mishap.reportedFor] at h
  | none =>
      simp only [hpart, Requirement.searchFault?_eq, Option.map_eq_some_iff] at h
      obtain ⟨first, hfirst, hreport⟩ := h
      obtain ⟨rfl, rfl⟩ := Mishap.reportedFor_inj hreport
      exact ⟨rfl, List.mem_of_mem_head? hfirst⟩

end Check

/-! ## Taking patterns down -/

namespace Check

variable {a : Answers} {mode : MatchMode} {c : Check}

def CountedPattern.mishap? (p : CountedPattern) : Option Mishap :=
  match p.2 with
  | .ok _ => none
  | .error fault => some (.invalidPattern p.1 fault)

/-- Decides a requirement, and takes down each pattern that was to be counted and is none. -/
def judgeNoting (mode : MatchMode) (c : Check) : Requirement → Access (CheckResult × List Mishap)
  | .patterns file patterns minCount => do
      let text ← Access.text file
      let counted := patterns.map (countPattern text)
      return (c.decidePatterns file minCount counted, counted.filterMap CountedPattern.mishap?)
  | r => do return (← c.judge mode r, [])

def evaluateNoting (mode : MatchMode) (c : Check) : Access (CheckResult × List Mishap) := do
  let missing := errorsOf (← Access.entries c.prerequisites)
  let (result, notes) ← if missing.isEmpty then c.judgeNoting mode c.requirement
    else pure (c.missingFiles missing, [])
  return (result.withInformational (!c.isGating), notes)

theorem judgeNoting_erased (mode : MatchMode) (c : Check) (r : Requirement) :
    Prod.fst <$> c.judgeNoting mode r = c.judge mode r := by
  cases r <;> simp [judgeNoting, judge]

/-- Taking notes changes neither what a check asks for nor what comes out. -/
theorem evaluateNoting_erased (mode : MatchMode) (c : Check) :
    Prod.fst <$> c.evaluateNoting mode = c.evaluate mode := by
  rw [evaluate, ← prerequisites, ← judgeNoting_erased]
  simp only [evaluateNoting, map_bind]
  congr
  funext answers
  split <;> simp

theorem mishap?_countPattern (text pattern : String) :
    CountedPattern.mishap? (countPattern text pattern) = Mishap.ofPattern? pattern := by
  unfold CountedPattern.mishap? countPattern Mishap.ofPattern?
  cases Pattern.compile pattern <;> rfl

theorem notes_judgeNoting (r : Requirement) :
    ((c.judgeNoting mode r).value a).2 = r.patternTexts.filterMap Mishap.ofPattern? := by
  cases r with
  | patterns file ps minCount =>
      simp only [judgeNoting, Access.value_bind, Access.value_pure, List.filterMap_map,
        Function.comp_def, mishap?_countPattern, Requirement.patternTexts]
  | _ => simp [judgeNoting, Requirement.patternTexts]

theorem asked_fileSet (files : FileSet) : (fileSet files).asked a = [] := by
  cases files <;> rfl

theorem listed_fileSet (files : FileSet) : (fileSet files).listed a = files.walk?.toList := by
  cases files <;> rfl

theorem listed_judge (a : Answers) (mode : MatchMode) (c : Check) (r : Requirement) :
    (c.judge mode r).listed a = r.walk?.toList := by
  cases r with
  | forbidden token files require allowEmpty =>
      simp only [judge, Access.listed_bind, listed_fileSet, Requirement.walk?]
      split
      next => simp
      next => split <;> simp
      next => simp
  | count files tokens unit =>
      simp only [judge, Access.listed_bind, listed_fileSet, Requirement.walk?]
      split <;> simp
  | _ => simp [judge, Requirement.walk?]

theorem notes_evaluateNoting (a : Answers) (mode : MatchMode) (c : Check) :
    let there := (errorsOf (c.prerequisites.map fun path => (path, a.read path))).isEmpty
    (c.evaluateNoting mode).listed a = (if there then c.requirement.walk?.toList else []) ∧
      ((c.evaluateNoting mode).value a).2 =
        if there then c.requirement.patternTexts.filterMap Mishap.ofPattern? else [] := by
  simp only [evaluateNoting, Access.listed_bind, Access.value_bind, Access.value_entries,
    Access.listed_entries]
  split
  next =>
    rw [← listed_judge a mode c, ← judgeNoting_erased]
    simp [notes_judgeNoting]
  next => simp

theorem prerequisites_of_walk {dir glob : String}
    (h : c.requirement.walk? = some (dir, glob)) : c.prerequisites = [] := by
  rcases Requirement.eq_of_walk h with ⟨token, require, allowEmpty, hreq⟩ | ⟨tokens, unit, hreq⟩
  · simp [prerequisites, reportsMissing, requiredFiles, hreq]
  · simp [prerequisites, reportsMissing, requiredFiles, hreq]

end Check

theorem Answers.Meets.listed {a : Answers} {mode : MatchMode} {r : Requirement}
    {dir glob : String} (h : a.Meets mode r) (hwalk : r.walk? = some (dir, glob)) :
    (∃ paths, a.list dir glob = .ok paths) ∨
      ∃ lacked, a.list dir glob = .error (.notFound lacked) := by
  rcases Requirement.eq_of_walk hwalk with ⟨token, require, allowEmpty, rfl⟩ | ⟨tokens, unit, rfl⟩
  · rcases h with ⟨paths, hpaths, -⟩ | ⟨hlacked, -⟩
    · exact Or.inl ⟨paths, hpaths⟩
    · exact Or.inr hlacked
  · rcases h with ⟨paths, hpaths, -⟩ | hlacked
    · exact Or.inl ⟨paths, hpaths⟩
    · exact Or.inr hlacked

/-! ## Taking globs down -/

namespace FileTree

variable (cwd : Location) (root : String) (t : FileTree)

def listingNoting (dir glob : String) : Except LoadError (List String) × List Mishap :=
  if t.isDirectory cwd (Path.join root dir) then
    match Glob.compile glob with
    | .error fault => (.error (globError dir glob fault), [.invalidGlob glob fault])
    | .ok compiled =>
        match t.walk cwd (Path.join root dir) with
        | .error fault => (.error (walkError root dir fault), [])
        | .ok found => (.ok (matching root compiled found), [])
  else (.error (.notFound dir), [])

theorem listingNoting_eq (dir glob : String) :
    t.listingNoting cwd root dir glob =
      (t.listingOf cwd root dir glob,
        if t.isDirectory cwd (Path.join root dir) then (Mishap.ofGlob? glob).toList else []) := by
  unfold listingNoting listingOf Mishap.ofGlob?
  split
  next =>
    cases Glob.compile glob with
    | error fault => rfl
    | ok compiled =>
        simp only
        cases t.walk cwd (Path.join root dir) <;> rfl
  next => rfl

/-- The result of a check on the tree, and what was taken down on the way. -/
def noted (mode : MatchMode) (c : Check) : CheckResult × List Mishap :=
  let a := t.answers cwd root
  let (result, patterns) := (c.evaluateNoting mode).value a
  let globs := ((c.evaluateNoting mode).listed a).flatMap fun w =>
    (t.listingNoting cwd root w.1 w.2).2
  (result, globs ++ patterns)

theorem noted_fst (mode : MatchMode) (c : Check) :
    (t.noted cwd root mode c).1 = c.verdict (t.answers cwd root) mode := by
  rw [Check.verdict, ← Check.evaluateNoting_erased, Access.value_map]
  rfl

/-- The file that is searched with patterns can be read; the directory that is walked is there. -/
def Searches : Requirement → Prop
  | .patterns file .. => ∃ text, t.answerTo cwd root file = .ok text
  | .forbidden _ (.walk dir _) .. => t.isDirectory cwd (Path.join root dir) = true
  | .count (.walk dir _) .. => t.isDirectory cwd (Path.join root dir) = true
  | _ => True

variable {cwd root t}

theorem searches_iff_of_walk {r : Requirement} {dir glob : String}
    (h : r.walk? = some (dir, glob)) :
    t.Searches cwd root r ↔ t.isDirectory cwd (Path.join root dir) = true := by
  rcases Requirement.eq_of_walk h with ⟨token, require, allowEmpty, rfl⟩ | ⟨tokens, unit, rfl⟩
  · exact Iff.rfl
  · exact Iff.rfl

theorem mem_noted_iff {mode : MatchMode} {c : Check} {m : Mishap} :
    m ∈ (t.noted cwd root mode c).2 ↔
      m ∈ c.requirement.mishaps ∧ t.Searches cwd root c.requirement := by
  obtain ⟨hlisted, hnotes⟩ := Check.notes_evaluateNoting (t.answers cwd root) mode c
  simp only [noted, hlisted, hnotes, listingNoting_eq]
  cases hwalk : c.requirement.walk? with
  | some w =>
      rw [Check.prerequisites_of_walk hwalk, Requirement.patternTexts_of_walk hwalk,
        Requirement.mem_mishaps_iff_of_walk hwalk, searches_iff_of_walk hwalk]
      simp [Check.errorsOf, and_comm]
  | none =>
      rw [Requirement.mishaps_of_no_walk hwalk]
      cases hreq : c.requirement with
      | patterns file ps minCount =>
          have hfile : c.prerequisites = [file] := by
            simp [Check.prerequisites, Check.reportsMissing, Check.requiredFiles, hreq]
          rw [hfile]
          cases hread : t.answerTo cwd root file with
          | ok text => simp [Requirement.patternTexts, Searches, answers, Check.errorsOf, hread]
          | error e => simp [Searches, answers, Check.errorsOf, hread]
      | _ => simp [Requirement.patternTexts]

/-! ## Mishaps fail a check -/

theorem listingOf_of_mishap {dir glob : String} {m : Mishap} (hglob : Mishap.ofGlob? glob = some m)
    (hdir : t.isDirectory cwd (Path.join root dir) = true) :
    ∃ reason, t.listingOf cwd root dir glob = .error (.unreadable dir reason) := by
  unfold Mishap.ofGlob? at hglob
  unfold listingOf
  rw [if_pos hdir]
  cases hcompile : Glob.compile glob with
  | ok compiled => simp [hcompile] at hglob
  | error fault => exact ⟨_, rfl⟩

theorem not_meets_of_mishap {r : Requirement} {m : Mishap} (hm : m ∈ r.mishaps)
    (hsearch : t.Searches cwd root r) (mode : MatchMode) :
    ¬ (t.answers cwd root).Meets mode r := by
  intro hmeets
  cases hwalk : r.walk? with
  | some w =>
      obtain ⟨dir, glob⟩ := w
      obtain ⟨reason, hlisting⟩ := listingOf_of_mishap
        ((Requirement.mem_mishaps_iff_of_walk hwalk).mp hm)
        ((searches_iff_of_walk hwalk).mp hsearch)
      rcases hmeets.listed hwalk with ⟨paths, hpaths⟩ | ⟨lacked, hlacked⟩
      · exact absurd (hlisting.symm.trans hpaths) (by simp)
      · exact absurd (hlisting.symm.trans hlacked) (by simp)
  | none =>
      rw [Requirement.mishaps_of_no_walk hwalk] at hm
      obtain ⟨pattern, hpattern, hfault⟩ := List.mem_filterMap.mp hm
      cases r with
      | patterns file ps minCount =>
          obtain ⟨text, -, hcounted⟩ := hmeets
          obtain ⟨compiled, hcompile, -⟩ := hcounted pattern hpattern
          simp [Mishap.ofPattern?, hcompile] at hfault
      | _ => contradiction

end FileTree

/-! ## Validation and runs -/

namespace Contract

/-- The contract with its match mode and the informational flags of its checks set anew. -/
def retuned (c : Contract) (mode : MatchMode) (flags : Nat → Bool) : Contract :=
  { c with
    matching := mode
    checks := c.checks.mapIdx fun i k => { k with informational := flags i } }

theorem getElem?_checks_retuned (c : Contract) (mode : MatchMode) (flags : Nat → Bool) (i : Nat) :
    (c.retuned mode flags).checks[i]? =
      (c.checks[i]?).map fun k => { k with informational := flags i } :=
  List.getElem?_mapIdx

theorem requirement_mem_of_mem_retuned {c : Contract} {mode : MatchMode} {flags : Nat → Bool}
    {k : Check} (h : k ∈ (c.retuned mode flags).checks) :
    ∃ k₀ ∈ c.checks, k.requirement = k₀.requirement := by
  obtain ⟨i, hi, rfl⟩ := List.mem_mapIdx.mp h
  exact ⟨_, List.getElem_mem hi, rfl⟩

theorem exists_mishap_of_validate_eq_error {c : Contract} {check : String} {m : Mishap}
    (h : c.validate = .error (m.reportedFor check)) :
    ∃ (i : Nat) (k : Check),
      c.checks[i]? = some k ∧ k.name = check ∧ m ∈ k.requirement.mishaps := by
  rcases exists_of_validate_eq_error h with ⟨before, k, after, hchecks, hfault⟩ | ⟨key, -, hfault⟩
  · rcases hfault with hempty | hduplicate | hsearch
    · cases m <;> contradiction
    · cases m <;> contradiction
    · obtain ⟨hname, hm⟩ := Check.mem_mishaps_of_fault?_eq_some hsearch
      exact ⟨before.length, k, by simp [hchecks], hname, hm⟩
  · cases m <;> contradiction

end Contract

namespace FileTree

def results (cwd : Location) (root : String) (t : FileTree) (c : Contract) : List CheckResult :=
  ((c.run ((disk cwd).project root) false).run t).1.results

theorem results_eq (cwd : Location) (root : String) (t : FileTree) (c : Contract) :
    t.results cwd root c = c.checks.map fun k => (t.noted cwd root c.matching k).1 := by
  rw [results, Contract.run, runChecks_eq (steady_project cwd root t), at_project]
  exact List.map_congr_left fun k _ => (noted_fst cwd root t c.matching k).symm

theorem noted_fails {cwd : Location} {root : String} {t : FileTree} {k : Check} {m : Mishap}
    (hm : m ∈ k.requirement.mishaps) (hsearch : t.Searches cwd root k.requirement)
    (mode : MatchMode) :
    (t.noted cwd root mode k).1.name = k.name ∧ (t.noted cwd root mode k).1.passed = false := by
  rw [noted_fst]
  constructor
  · exact ((Check.evaluate_backed mode k).value (t.answers cwd root)).name_eq
  · rw [← Bool.not_eq_true, Check.verdict_passed_iff_meets]
    exact not_meets_of_mishap hm hsearch mode

end FileTree

/-- When a contract is accepted, its run takes nothing down, whatever the tree, the match mode and
the informational flags.  When it is rejected for a pattern or glob, the check that has it fails in
an unvalidated run, and takes it down, as soon as its file or directory is there. -/
theorem validate_foresees_mishaps (c : Contract) :
    (c.validate = .ok () →
      ∀ (cwd : Location) (root : String) (t : FileTree) (mode : MatchMode) (flags : Nat → Bool),
        let tuned := c.retuned mode flags
        t.results cwd root tuned = tuned.checks.map (fun k => (t.noted cwd root mode k).1) ∧
          ∀ k ∈ tuned.checks, (t.noted cwd root mode k).2 = []) ∧
    ∀ (check : String) (m : Mishap), c.validate = .error (m.reportedFor check) →
      ∃ (i : Nat) (k : Check), c.checks[i]? = some k ∧ k.name = check ∧
        ∀ (cwd : Location) (root : String) (t : FileTree) (mode : MatchMode) (flags : Nat → Bool),
          t.Searches cwd root k.requirement →
            let tuned := c.retuned mode flags
            ∃ k' result, tuned.checks[i]? = some k' ∧ m ∈ (t.noted cwd root mode k').2 ∧
              (t.results cwd root tuned)[i]? = some result ∧
              result.name = check ∧ result.passed = false := by
  constructor
  · intro haccepted cwd root t mode flags tuned
    refine ⟨t.results_eq cwd root tuned, ?_⟩
    intro k hk
    obtain ⟨k₀, hk₀, hrequirement⟩ := Contract.requirement_mem_of_mem_retuned hk
    have hnone : k.requirement.mishaps = [] := by
      rw [hrequirement]
      exact Check.mishaps_of_fault?_eq_none (c.validate_eq_ok_iff.mp haccepted |>.faultless k₀ hk₀)
    refine List.eq_nil_iff_forall_not_mem.mpr fun m hm => ?_
    have hmem := (FileTree.mem_noted_iff.mp hm).1
    rw [hnone] at hmem
    exact List.not_mem_nil hmem
  · intro check m hrejected
    obtain ⟨i, k, hk, hname, hm⟩ := Contract.exists_mishap_of_validate_eq_error hrejected
    refine ⟨i, k, hk, hname, ?_⟩
    intro cwd root t mode flags hsearch tuned
    let k' : Check := { k with informational := flags i }
    have hk' : tuned.checks[i]? = some k' := by
      rw [Contract.getElem?_checks_retuned, hk, Option.map_some]
    obtain ⟨hname', hfailed⟩ := FileTree.noted_fails (k := k') hm hsearch mode
    refine ⟨k', (t.noted cwd root mode k').1, hk', ?_, ?_, hname'.trans hname, hfailed⟩
    · exact FileTree.mem_noted_iff.mpr ⟨hm, hsearch⟩
    · rw [FileTree.results_eq, List.getElem?_map, hk']
      rfl

theorem validate_foresees_mishaps_of_two_globs :
    let tree : FileTree := ⟨[(["p"], .directory), (["p", "a.h"], .file "open".toUTF8)]⟩
    let contract (glob : String) : Contract :=
      { Contract.empty with checks :=
        [⟨"api", none, false, .patterns "a.h" ["op[a-z]n"] 1⟩,
          ⟨"tidy", none, false, .forbidden "goto" (.walk "" glob) [] true⟩] }
    let flags (_ : Nat) : Bool := true
    let accepted := (contract "*.h").retuned .literal flags
    let rejected := (contract "[").retuned .literal flags
    (∀ k ∈ accepted.checks, (tree.noted [] "/p" .literal k).2 = []) ∧
      ∃ (i : Nat) (result : CheckResult), (tree.results [] "/p" rejected)[i]? = some result ∧
        result.name = "tidy" ∧ result.passed = false := by
  intro tree contract flags accepted rejected
  have haccepted : (contract "*.h").validate = .ok () := by
    have hnone : (contract "*.h").fault? = none := by decide +kernel
    rw [Contract.validate, hnone]
  have hrejected : (contract "[").validate =
      .error ((Mishap.invalidGlob "[" .unclosedClass).reportedFor "tidy") := by
    have hsome : (contract "[").fault? = some (.invalidGlob "tidy" "[" .unclosedClass) := by
      decide +kernel
    rw [Contract.validate, hsome]
    rfl
  refine ⟨((validate_foresees_mishaps _).1 haccepted [] "/p" tree .literal flags).2, ?_⟩
  obtain ⟨i, k, hk, hname, hfails⟩ := (validate_foresees_mishaps _).2 _ _ hrejected
  have hsearch : tree.Searches [] "/p" k.requirement := by
    have hmem := List.mem_of_getElem? hk
    rw [List.mem_cons, List.mem_singleton] at hmem
    rcases hmem with rfl | rfl
    · exact absurd hname (by decide)
    · change tree.isDirectory [] (Path.join "/p" "") = true
      rfl
  obtain ⟨k', result, -, -, hresult, hverdict⟩ := hfails [] "/p" tree .literal flags hsearch
  exact ⟨i, result, hresult, hverdict⟩

end SourceContract
