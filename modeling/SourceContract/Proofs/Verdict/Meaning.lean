import SourceContract.Proofs.Matching.Occurrence
import SourceContract.Proofs.Verdict.Decision
import SourceContract.Proofs.Verdict.Isolation

/-!
# What a check demands of the files

Every requirement has a meaning that says nothing about how it is decided: which
files have to be there, and what has to be true of their texts.  While the files do
not change, a check passes exactly when they are as its requirement demands.
-/

namespace SourceContract

open Matching

/-! ## Demands on files -/

namespace Answers

variable (a : Answers)

def Loads (path : String) (P : String → Prop) : Prop := ∃ text, a.read path = .ok text ∧ P text

def filesOf : FileSet → Except LoadError (List String)
  | .paths paths => .ok paths
  | .walk dir glob => a.list dir glob

/-- It is known which files the set consists of, and they satisfy `P`. -/
def Resolves (files : FileSet) (P : List String → Prop) : Prop :=
  ∃ paths, a.filesOf files = .ok paths ∧ P paths

def LacksDirectory (files : FileSet) : Prop := ∃ dir, a.filesOf files = .error (.notFound dir)

def Meets (mode : MatchMode) : Requirement → Prop
  | .present paths => ∀ path ∈ paths, a.Loads path fun text => text ≠ ""
  | .interface _ declaration implementation methods =>
      a.Loads declaration fun declared => a.Loads implementation fun implemented =>
        ∀ method ∈ methods, containsIdentifier mode declared method = true ∧
          hasCall mode implemented method = true
  | .fields file owner names =>
      a.Loads file fun text => names ≠ [] →
        (∀ o, owner = some o → o.toList <:+: text.toList) ∧
          ∀ name ∈ names, containsIdentifier mode text name = true
  | .paired file opening closing requireUsage =>
      a.Loads file fun text => count text opening = count text closing ∧
        (requireUsage = true → 0 < count text opening)
  | .threshold file tokens min => a.Loads file fun text => min < occurrences text tokens
  | .forbidden token files require allowEmpty =>
      a.Resolves files (fun paths => (paths = [] → allowEmpty = true) ∧
        ∀ path ∈ paths, a.Loads path fun text =>
          ¬ Occurs token text ∧ ∀ r ∈ require, Occurs r text) ∨
      a.LacksDirectory files ∧ allowEmpty = true
  | .tokens rules =>
      ∀ rule ∈ rules, a.Loads rule.file fun text =>
        rule.minCount ≤ occurrences text rule.anyOf
  | .patterns file patterns minCount =>
      a.Loads file fun text => ∀ pattern ∈ patterns, ∃ compiled,
        Pattern.compile pattern = .ok compiled ∧ minCount ≤ compiled.count text
  | .count files _ _ =>
      a.Resolves files (fun paths => ∀ path ∈ paths, a.Loads path fun _ => True) ∨
      a.LacksDirectory files

theorem loads_iff {path : String} {P : String → Prop} {Q : Prop}
    (h : ∀ text, a.read path = .ok text → (Q ↔ P text)) :
    a.Loads path (fun _ => True) ∧ Q ↔ a.Loads path P := by
  constructor
  · rintro ⟨⟨text, hread, -⟩, hQ⟩
    exact ⟨text, hread, (h text hread).mp hQ⟩
  · rintro ⟨text, hread, hP⟩
    exact ⟨⟨text, hread, trivial⟩, (h text hread).mpr hP⟩

end Answers

namespace Check

variable {a : Answers} {mode : MatchMode} {c : Check}

/-! ## The files that come first -/

/-- The files without which a check is not judged at all. -/
def prerequisites (c : Check) : List String :=
  if reportsMissing c.requirement then [] else c.requiredFiles

theorem prerequisites_eq (h : reportsMissing c.requirement = false) :
    c.prerequisites = c.requiredFiles := by
  rw [prerequisites, h]
  rfl

theorem mem_ruleFiles {rules : List TokenRule} {path : String} :
    path ∈ ruleFiles rules ↔ ∃ rule ∈ rules, rule.file = path := by
  have hfold (files : List String) :
      path ∈ rules.foldl (fun files r =>
          if files.contains r.file then files else files ++ [r.file]) files ↔
        path ∈ files ∨ ∃ rule ∈ rules, rule.file = path := by
    induction rules generalizing files with
    | nil => simp
    | cons rule rest ih =>
        rw [List.foldl_cons, ih]
        by_cases hknown : rule.file ∈ files
        · rw [if_pos (List.contains_iff_mem.mpr hknown)]
          grind
        · rw [if_neg (by simpa using hknown)]
          grind
  rw [ruleFiles, hfold]
  simp

theorem errorsOf_eq_nil_iff {paths : List String} :
    errorsOf (paths.map fun path => (path, a.read path)) = [] ↔
      ∀ path ∈ paths, a.Loads path fun _ => True := by
  simp only [errorsOf, List.filterMap_eq_nil_iff, List.forall_mem_map]
  refine ⟨fun h path hpath => ?_, fun h path hpath => ?_⟩
  · have herror := h path hpath
    cases hread : a.read path with
    | ok text => exact ⟨text, hread, trivial⟩
    | error e => simp [hread] at herror
  · obtain ⟨text, hread, -⟩ := h path hpath
    rw [hread]

/-- A check is judged when its prerequisites are there, and otherwise says what is missing. -/
theorem verdict_eq (a : Answers) (mode : MatchMode) (c : Check) :
    c.verdict a mode =
      let errors := errorsOf (c.prerequisites.map fun path => (path, a.read path))
      (if errors.isEmpty then (c.judge mode c.requirement).value a
        else c.missingFiles errors).withInformational (!c.isGating) := by
  simp only [verdict, evaluate, Access.value_bind, Access.value_entries]
  rw [← prerequisites]
  cases errorsOf (c.prerequisites.map fun path => (path, a.read path)) with
  | nil => simp
  | cons e rest => simp

theorem touched_eq (a : Answers) (mode : MatchMode) (c : Check) :
    c.touched a mode = c.prerequisites ++
      if (errorsOf (c.prerequisites.map fun path => (path, a.read path))).isEmpty then
        (c.judge mode c.requirement).asked a
      else [] := by
  simp only [touched, evaluate, Access.asked_bind, Access.asked_entries, Access.value_entries]
  rw [← prerequisites]
  congr 1
  split
  next => simp
  next => simp

theorem verdict_of_loads (mode : MatchMode)
    (h : ∀ path ∈ c.prerequisites, a.Loads path fun _ => True) :
    c.verdict a mode =
      ((c.judge mode c.requirement).value a).withInformational (!c.isGating) := by
  rw [verdict_eq, errorsOf_eq_nil_iff.mpr h]
  rfl

theorem verdict_passed_iff :
    (c.verdict a mode).passed = true ↔
      (∀ path ∈ c.prerequisites, a.Loads path fun _ => True) ∧
        ((c.judge mode c.requirement).value a).passed = true := by
  rw [← errorsOf_eq_nil_iff, verdict_eq]
  cases herrors : errorsOf (c.prerequisites.map fun path => (path, a.read path)) with
  | nil => simp [CheckResult.withInformational]
  | cons e rest =>
      have hfailed := (c.decided_missingFiles (List.cons_ne_nil e rest)).passed_eq
      simp [CheckResult.withInformational, hfailed]

/-! ## One file -/

theorem passed_of_file {file : String} {P : String → Prop} (hfile : c.prerequisites = [file])
    (hjudge : ∀ text, a.read file = .ok text →
      (((c.judge mode c.requirement).value a).passed = true ↔ P text)) :
    (c.verdict a mode).passed = true ↔ a.Loads file P := by
  rw [verdict_passed_iff, hfile, List.forall_mem_singleton]
  exact a.loads_iff hjudge

theorem passed_paired {file opening closing : String} {requireUsage : Bool}
    (h : c.requirement = .paired file opening closing requireUsage) :
    (c.verdict a mode).passed = true ↔
      a.Meets mode (.paired file opening closing requireUsage) := by
  refine passed_of_file (by simp [prerequisites, reportsMissing, requiredFiles, h]) ?_
  intro text hread
  simp only [h, judge, Access.value_bind, Access.value_text, Access.value_pure, hread,
    Access.textOf, (c.decided_paired ..).passed_eq]
  cases requireUsage <;> simp [balanced]

theorem passed_threshold {file : String} {tokens : List String} {min : Nat}
    (h : c.requirement = .threshold file tokens min) :
    (c.verdict a mode).passed = true ↔ a.Meets mode (.threshold file tokens min) := by
  refine passed_of_file (by simp [prerequisites, reportsMissing, requiredFiles, h]) ?_
  intro text hread
  simp only [h, judge, Access.value_bind, Access.value_text, Access.value_pure, hread,
    Access.textOf, (c.decided_threshold ..).passed_eq]
  simp [exceeds]

theorem ownerPresent_iff {text : String} {owner : Option String} :
    Tally.ownerPresent text owner = true ↔
      ∀ o, owner = some o → o.toList <:+: text.toList := by
  cases owner with
  | none => simp [Tally.ownerPresent]
  | some o => simp [Tally.ownerPresent, contains_iff_infix]

theorem passed_fields {file : String} {owner : Option String} {names : List String}
    (h : c.requirement = .fields file owner names) :
    (c.verdict a mode).passed = true ↔ a.Meets mode (.fields file owner names) := by
  refine passed_of_file (by simp [prerequisites, reportsMissing, requiredFiles, h]) ?_
  intro text hread
  simp only [h, judge, Access.value_bind, Access.value_text, Access.value_pure, hread,
    Access.textOf, Tally.ofFields, (c.decided_fields ..).passed_eq, List.all_eq_true,
    Bool.and_eq_true, ownerPresent_iff]
  constructor
  · intro hall hnames
    obtain ⟨first, rest, rfl⟩ := List.exists_cons_of_ne_nil hnames
    exact ⟨(hall first List.mem_cons_self).1, fun name hname => (hall name hname).2⟩
  · intro hall name hname
    obtain ⟨howner, hfound⟩ := hall (List.ne_nil_of_mem hname)
    exact ⟨howner, hfound name hname⟩

theorem isMet_countPattern {text pattern : String} {min : Nat} :
    CountedPattern.isMet min (countPattern text pattern) = true ↔
      ∃ compiled, Pattern.compile pattern = .ok compiled ∧ min ≤ compiled.count text := by
  unfold countPattern
  cases Pattern.compile pattern with
  | ok compiled => simp [CountedPattern.isMet, Except.map]
  | error fault => simp [CountedPattern.isMet, Except.map]

theorem passed_patterns {file : String} {patterns : List String} {minCount : Nat}
    (h : c.requirement = .patterns file patterns minCount) :
    (c.verdict a mode).passed = true ↔ a.Meets mode (.patterns file patterns minCount) := by
  refine passed_of_file (by simp [prerequisites, reportsMissing, requiredFiles, h]) ?_
  intro text hread
  simp only [h, judge, Access.value_bind, Access.value_text, Access.value_pure, hread,
    Access.textOf, (c.decided_patterns ..).passed_eq, List.all_map, List.all_eq_true,
    Function.comp, isMet_countPattern]

/-! ## Several files -/

theorem isPresent_read {path : String} :
    isPresent (a.read path) = true ↔ a.Loads path fun text => text ≠ "" := by
  unfold Answers.Loads
  cases a.read path with
  | ok text => simp [isPresent, present, Except.toOption]
  | error e => simp [isPresent, present, Except.toOption]

theorem passed_present {paths : List String} (h : c.requirement = .present paths) :
    (c.verdict a mode).passed = true ↔ a.Meets mode (.present paths) := by
  have hnone : c.prerequisites = [] := by simp [prerequisites, reportsMissing, h]
  rw [verdict_passed_iff, hnone]
  simp only [h, judge, Access.value_bind, Access.value_entries, Access.value_pure,
    (c.decided_present _).passed_eq, List.all_map, List.all_eq_true, Function.comp,
    isPresent_read]
  exact and_iff_right (List.forall_mem_nil _)

theorem passed_interface {owner declaration implementation : String} {methods : List String}
    (h : c.requirement = .interface owner declaration implementation methods) :
    (c.verdict a mode).passed = true ↔
      a.Meets mode (.interface owner declaration implementation methods) := by
  have hfiles : c.prerequisites = [declaration, implementation] := by
    simp [prerequisites, reportsMissing, requiredFiles, h]
  rw [verdict_passed_iff, hfiles, List.forall_mem_cons, List.forall_mem_singleton, and_assoc]
  refine a.loads_iff fun declared hdeclared => a.loads_iff fun implemented himplemented => ?_
  simp only [h, judge, Access.value_bind, Access.value_text, Access.value_pure, hdeclared,
    himplemented, Access.textOf, Tally.ofMethods, (c.decided_interface ..).passed_eq,
    List.all_eq_true, declaredAndCalled, Bool.and_eq_true]

theorem passed_tokens {rules : List TokenRule} (h : c.requirement = .tokens rules) :
    (c.verdict a mode).passed = true ↔ a.Meets mode (.tokens rules) := by
  have hfiles : c.prerequisites = ruleFiles rules := by
    simp [prerequisites, reportsMissing, requiredFiles, h]
  rw [verdict_passed_iff, hfiles]
  simp only [h, judge, Access.value_bind, Access.value_textsOf, Access.value_pure,
    (c.decided_tokens _).passed_eq, mem_ruleFiles, List.map_map, List.zipWith_map_right,
    List.zipWith_self, List.all_map, List.all_eq_true]
  constructor
  · rintro ⟨hthere, hmet⟩ rule hrule
    obtain ⟨text, hread, -⟩ := hthere rule.file ⟨rule, hrule, rfl⟩
    have hcount := hmet rule hrule
    simp only [Function.comp, CountedRule.isMet, hread, Access.textOf, decide_eq_true_eq] at hcount
    exact ⟨text, hread, hcount⟩
  · intro hall
    refine ⟨?_, ?_⟩
    · rintro path ⟨rule, hrule, rfl⟩
      obtain ⟨text, hread, -⟩ := hall rule hrule
      exact ⟨text, hread, trivial⟩
    · intro rule hrule
      obtain ⟨text, hread, hmet⟩ := hall rule hrule
      simp only [Function.comp, CountedRule.isMet, hread, Access.textOf, decide_eq_true_eq]
      exact hmet

/-! ## Sets of files -/

theorem value_fileSet (files : FileSet) : (fileSet files).value a = a.filesOf files := by
  cases files <;> rfl

theorem isClean_read {token path : String} {require : List String} :
    isClean token require (a.read path) = true ↔
      a.Loads path fun text => ¬ Occurs token text ∧ ∀ r ∈ require, Occurs r text := by
  unfold Answers.Loads
  cases a.read path with
  | error e => simp [isClean]
  | ok text => simp [isClean, count_eq_zero_iff]

theorem decideForbidden_passed_iff {token : String} {require paths : List String}
    {allowEmpty : Bool} :
    (c.decideForbidden token require allowEmpty
        (paths.map fun path => (path, a.read path))).passed = true ↔
      (paths = [] → allowEmpty = true) ∧
        ∀ path ∈ paths, a.Loads path fun text =>
          ¬ Occurs token text ∧ ∀ r ∈ require, Occurs r text := by
  rw [(c.decided_forbidden ..).passed_eq]
  cases paths with
  | nil => simp
  | cons path rest =>
      rw [if_neg (by simp), List.all_map, List.all_eq_true]
      simp [isClean_read]

theorem prerequisites_forbidden {token : String} {files : FileSet} {require : List String}
    {allowEmpty : Bool} (h : c.requirement = .forbidden token files require allowEmpty) :
    ∀ path ∈ c.prerequisites, ∃ paths, files = .paths paths ∧ path ∈ paths := by
  intro path hpath
  simp only [prerequisites, reportsMissing, requiredFiles, h] at hpath
  cases files with
  | paths paths => exact ⟨paths, rfl, hpath⟩
  | walk dir glob => exact absurd hpath List.not_mem_nil

theorem passed_forbidden {token : String} {files : FileSet} {require : List String}
    {allowEmpty : Bool} (h : c.requirement = .forbidden token files require allowEmpty) :
    (c.verdict a mode).passed = true ↔
      a.Meets mode (.forbidden token files require allowEmpty) := by
  have hnamed := prerequisites_forbidden h
  rw [verdict_passed_iff]
  simp only [h, judge, Access.value_bind, value_fileSet, Answers.Meets, Answers.Resolves,
    Answers.LacksDirectory]
  cases hfiles : a.filesOf files with
  | ok paths =>
      simp only [Access.value_bind, Access.value_entries, Access.value_pure,
        decideForbidden_passed_iff]
      constructor
      · rintro ⟨-, hgood⟩
        exact Or.inl ⟨paths, rfl, hgood⟩
      · rintro (⟨found, hfound, hgood⟩ | ⟨⟨dir, hdir⟩, -⟩)
        · cases hfound
          -- Files named one by one are asked for twice; that they are there is part of `hgood`.
          refine ⟨?_, hgood⟩
          intro path hpath
          obtain ⟨named, rfl, hmem⟩ := hnamed path hpath
          cases hfiles
          obtain ⟨text, hread, -⟩ := hgood.2 path hmem
          exact ⟨text, hread, trivial⟩
        · cases hdir
  | error e =>
      have hthere : ∀ path ∈ c.prerequisites, a.Loads path fun _ => True := by
        intro path hpath
        obtain ⟨paths, rfl, -⟩ := hnamed path hpath
        cases hfiles
      have hfailed := (c.decided_missingFiles (List.cons_ne_nil e [])).passed_eq
      cases e with
      | notFound dir =>
          cases allowEmpty with
          | true =>
              have hpassed := (c.decided_forbidden token require true []).passed_eq
              simpa [hpassed] using hthere
          | false => simp [hfailed]
      | unreadable path reason => simp [hfailed]

theorem passed_count {files : FileSet} {tokens : List String} {unit : CountUnit}
    (h : c.requirement = .count files tokens unit) :
    (c.verdict a mode).passed = true ↔ a.Meets mode (.count files tokens unit) := by
  have hnone : c.prerequisites = [] := by
    simp [prerequisites, reportsMissing, requiredFiles, h]
  rw [verdict_passed_iff, hnone, and_iff_right (List.forall_mem_nil _)]
  simp only [h, judge, Access.value_bind, value_fileSet, Answers.Meets, Answers.Resolves,
    Answers.LacksDirectory]
  cases a.filesOf files with
  | ok paths =>
      simp only [Access.value_bind, Access.value_entries, Access.value_pure,
        (c.decided_count ..).passed_eq, List.isEmpty_iff, errorsOf_eq_nil_iff]
      simp
  | error e =>
      have hfailed := (c.decided_missingFiles (List.cons_ne_nil e [])).passed_eq
      cases e with
      | notFound dir => simp [CheckResult.withValue, passing, CheckResult.pass]
      | unreadable path reason => simp [CheckResult.withValue, hfailed]

theorem verdict_passed_iff_meets (a : Answers) (mode : MatchMode) (c : Check) :
    (c.verdict a mode).passed = true ↔ a.Meets mode c.requirement := by
  cases h : c.requirement with
  | present paths => exact passed_present h
  | interface owner declaration implementation methods => exact passed_interface h
  | fields file owner names => exact passed_fields h
  | paired file opening closing requireUsage => exact passed_paired h
  | threshold file tokens min => exact passed_threshold h
  | forbidden token files require allowEmpty => exact passed_forbidden h
  | tokens rules => exact passed_tokens h
  | patterns file patterns minCount => exact passed_patterns h
  | count files tokens unit => exact passed_count h

end Check

theorem FileTree.alone_passed_iff (cwd : Location) (root : String) (t : FileTree)
    (mode : MatchMode) (c : Check) :
    (c.alone ((disk cwd).project root) t mode).passed = true ↔
      (t.answers cwd root).Meets mode c.requirement := by
  rw [Check.alone_eq (steady_project cwd root t), at_project]
  exact Check.verdict_passed_iff_meets (t.answers cwd root) mode c

/-- While the files do not change, a check by itself passes exactly when the files are as its
requirement demands. -/
theorem Check.passed_iff_meets {σ : Type} {s : Source (StateM σ)} {w : σ} (still : s.Steady w)
    (mode : MatchMode) (c : Check) :
    (c.alone s w mode).passed = true ↔ (s.at w).Meets mode c.requirement := by
  rw [alone_eq still]
  exact verdict_passed_iff_meets (s.at w) mode c

theorem Check.passed_iff_meets_of_one_file :
    let s : Source (StateM Unit) :=
      { read := fun path =>
          pure (if path = "a.h" then .ok "open close open" else .error (.notFound path))
        list := fun dir _ => pure (.error (.notFound dir)) }
    let often : Check := ⟨"often", none, false, .threshold "a.h" ["open"] 1⟩
    let pair : Check := ⟨"pair", none, false, .paired "a.h" "open" "close" false⟩
    s.Steady () ∧ (s.at ()).Meets .literal often.requirement ∧
      ¬ (s.at ()).Meets .literal pair.requirement := by
  intro s often pair
  have still : s.Steady () := ⟨fun _ => rfl, fun _ _ => rfl⟩
  have hoften : (often.alone s () .literal).passed = true := by decide +kernel
  have hpair : (pair.alone s () .literal).passed = false := by decide +kernel
  refine ⟨still, (passed_iff_meets still .literal often).mp hoften, ?_⟩
  intro h
  rw [(passed_iff_meets still .literal pair).mpr h] at hpair
  contradiction

end SourceContract
