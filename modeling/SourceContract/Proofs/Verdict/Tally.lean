import SourceContract.Proofs.Verdict.FileSet
import SourceContract.Proofs.Verdict.Growth

/-!
# What a tally tells

Five kinds of requirement list things that they ask for: files, methods, fields, rules and
patterns.  What has to be true of a file is not what has to be true of a rule, but the
tally is held to one law.  It requires what is listed, what it has found and what it misses
add up to that, and it misses just those things that are not so.  The check passes when
nothing is missed.
-/

namespace SourceContract

open Matching

/-! ## Demands -/

/-- One thing that a requirement asks for: how a tally names it, and what has to be so. -/
structure Demand where
  name : String
  holds : Prop

/-- The names of the demands that do not hold, in order and each as often as the demand is made. -/
inductive Misses : List Demand → List String → Prop where
  | nil : Misses [] []
  | met {d : Demand} {rest : List Demand} {names : List String} (h : d.holds)
      (hrest : Misses rest names) : Misses (d :: rest) names
  | unmet {d : Demand} {rest : List Demand} {names : List String} (h : ¬ d.holds)
      (hrest : Misses rest names) : Misses (d :: rest) (d.name :: names)

structure Matching.Tally.Counts (t : Tally) (demands : List Demand) : Prop where
  required_eq : t.required = demands.length
  total : t.found + t.missing.length = t.required
  misses : Misses demands t.missing
  complete_iff : t.isComplete = true ↔ ∀ d ∈ demands, d.holds

theorem Misses.unique {demands : List Demand} {names names' : List String}
    (h : Misses demands names) (h' : Misses demands names') : names = names' := by
  induction h generalizing names' with
  | nil =>
      cases h'
      rfl
  | met hmet _ ih =>
      cases h' with
      | met _ hrest => exact ih hrest
      | unmet hunmet _ => exact absurd hmet hunmet
  | unmet hunmet _ ih =>
      cases h' with
      | met hmet _ => exact absurd hmet hunmet
      | unmet _ hrest => rw [ih hrest]

theorem Misses.eq_names {demands : List Demand} {names : List String} (h : Misses demands names)
    (hnone : ∀ d ∈ demands, ¬ d.holds) : names = demands.map Demand.name := by
  induction h with
  | nil => rfl
  | met hmet _ _ => exact absurd hmet (hnone _ List.mem_cons_self)
  | unmet _ _ ih =>
      rw [List.map_cons, ih fun d hd => hnone d (List.mem_cons_of_mem _ hd)]

namespace Matching.Tally

variable {α : Type} {p : α → Bool} {holds : α → Prop}

theorem misses_ofItems (h : ∀ x, p x = true ↔ holds x) (label : α → String) (items : List α) :
    Misses (items.map fun x => ⟨label x, holds x⟩) (ofItems p label items).missing := by
  induction items with
  | nil => exact .nil
  | cons x rest ih =>
      simp only [ofItems, List.map_cons] at ih ⊢
      by_cases hx : p x = true
      · rw [List.filter_cons_of_neg (by simp [hx])]
        exact .met ((h x).mp hx) ih
      · rw [List.filter_cons_of_pos (by simp [hx]), List.map_cons]
        exact .unmet (mt (h x).mpr hx) ih

theorem counts_ofItems (h : ∀ x, p x = true ↔ holds x) (label : α → String) (items : List α) :
    (ofItems p label items).Counts (items.map fun x => ⟨label x, holds x⟩) where
  required_eq := by rw [List.length_map]; rfl
  total := found_add_missing p label items
  misses := misses_ofItems h label items
  complete_iff := by
    rw [isComplete_ofItems, List.all_eq_true, List.forall_mem_map]
    exact forall₂_congr fun x _ => h x

theorem Counts.eq_of_none {t : Tally} {demands : List Demand} (h : t.Counts demands)
    (hnone : ∀ d ∈ demands, ¬ d.holds) : t.found = 0 ∧ t.missing = demands.map Demand.name := by
  have hmissing := h.misses.eq_names hnone
  have htotal := h.total
  rw [h.required_eq, hmissing, List.length_map] at htotal
  exact ⟨by omega, hmissing⟩

end Matching.Tally

/-! ## What requirements ask for -/

namespace Demand

def ofMethod (mode : MatchMode) (declared implemented method : String) : Demand :=
  ⟨method, containsIdentifier mode declared method = true ∧ hasCall mode implemented method = true⟩

def ofField (mode : MatchMode) (declared : String) (owner : Option String) (field : String) :
    Demand :=
  ⟨field, (∀ o, owner = some o → o.toList <:+: declared.toList) ∧
    containsIdentifier mode declared field = true⟩

def ofRule (texts : String → String) (rule : TokenRule) : Demand :=
  ⟨rule.label, rule.minCount ≤ occurrences (texts rule.file) rule.anyOf⟩

def ofPattern (text : String) (minCount : Nat) (pattern : String) : Demand :=
  ⟨pattern, ∃ compiled, Pattern.compile pattern = .ok compiled ∧ minCount ≤ compiled.count text⟩

end Demand

/-- The things that a requirement asks for, if it lists any; `texts` is the text of a file, which is
empty for one that cannot be had. -/
def Requirement.demands (mode : MatchMode) (texts : String → String) :
    Requirement → Option (List Demand)
  | .present paths => some (paths.map fun path => ⟨path, texts path ≠ ""⟩)
  | .interface _ declaration implementation methods =>
      some (methods.map (.ofMethod mode (texts declaration) (texts implementation)))
  | .fields file owner names => some (names.map (.ofField mode (texts file) owner))
  | .tokens rules => some (rules.map (.ofRule texts))
  | .patterns file ps minCount => some (ps.map (.ofPattern (texts file) minCount))
  | .paired .. | .threshold .. | .forbidden .. | .count .. => none

theorem Matching.Tally.counts_ofMethods (mode : MatchMode) (declared implemented : String)
    (methods : List String) :
    (ofMethods mode declared implemented methods).Counts
      (methods.map (.ofMethod mode declared implemented)) :=
  counts_ofItems (fun method => by rw [declaredAndCalled, Bool.and_eq_true]) id methods

theorem Matching.Tally.counts_ofFields (mode : MatchMode) (declared : String)
    (owner : Option String) (names : List String) :
    (ofFields mode declared owner names).Counts (names.map (.ofField mode declared owner)) :=
  counts_ofItems (fun name => by rw [Bool.and_eq_true, Check.ownerPresent_iff]) id names

theorem Matching.Tally.Counts.eq_of_absent_owner {t : Tally} {mode : MatchMode}
    {declared o : String} {names : List String}
    (h : t.Counts (names.map (.ofField mode declared (some o))))
    (habsent : ¬ o.toList <:+: declared.toList) : t.found = 0 ∧ t.missing = names := by
  have hnone : ∀ d ∈ names.map (Demand.ofField mode declared (some o)), ¬ d.holds := by
    rw [List.forall_mem_map]
    intro name _ hholds
    exact habsent (hholds.1 o rfl)
  obtain ⟨hfound, hmissing⟩ := h.eq_of_none hnone
  rw [List.map_map] at hmissing
  exact ⟨hfound, hmissing.trans (List.map_id names)⟩

/-! ## Results -/

def CheckResult.Tallies (r : CheckResult) : Option (List Demand) → Prop
  | some demands =>
      ∃ t, r.tally = some t ∧ t.Counts demands ∧ (r.passed = true ↔ t.isComplete = true)
  | none => r.tally = none

theorem CheckResult.Tallies.ofItems {α : Type} {r : CheckResult} {p : α → Bool}
    {label : α → String} {items : List α} {demands : List Demand}
    (htally : r.tally = some (.ofItems p label items)) (hpassed : r.passed = items.all p)
    (hcounts : (Tally.ofItems p label items).Counts demands) : r.Tallies (some demands) :=
  ⟨_, htally, hcounts, by rw [hpassed, Tally.isComplete_ofItems]⟩

namespace Check

variable {a : Answers} {mode : MatchMode} {c : Check}

theorem decidePresent_tally (answers : List (String × Entry)) :
    (c.decidePresent answers).tally =
      some (Tally.ofItems (fun a => isPresent a.2) Prod.fst answers) := by
  simp only [decidePresent, CheckResult.withIssues_withTally]
  split <;> rfl

theorem decidePatterns_tally (file : String) (min : Nat) (patterns : List CountedPattern) :
    (c.decidePatterns file min patterns).tally =
      some (Tally.ofItems (CountedPattern.isMet min) Prod.fst patterns) := rfl

theorem missingFiles_tally (errors : List LoadError) : (c.missingFiles errors).tally = none := by
  rw [missingFiles, CheckResult.withIssues_eq]
  rfl

theorem decidePaired_tally (file opening closing : String) (begins ends : Nat)
    (requireUsage : Bool) :
    (c.decidePaired file opening closing begins ends requireUsage).tally = none := by
  unfold decidePaired
  dsimp only
  split
  next => rfl
  next => split <;> rfl

theorem decideThreshold_tally (file : String) (tokens : List String) (total min : Nat) :
    (c.decideThreshold file tokens total min).tally = none := by
  unfold decideThreshold
  dsimp only
  split <;> rfl

theorem decideForbidden_tally (token : String) (require : List String) (allowEmpty : Bool)
    (answers : List (String × Entry)) :
    (c.decideForbidden token require allowEmpty answers).tally = none := by
  unfold decideForbidden
  split
  next => split <;> rfl
  next => rfl

theorem decideCount_tally (tokens : List String) (unit : CountUnit)
    (answers : List (String × Entry)) : (c.decideCount tokens unit answers).tally = none := by
  simp only [decideCount, CheckResult.withIssues_eq]
  rfl

theorem isPresent_iff_textOf {e : Entry} : isPresent e = true ↔ Access.textOf e ≠ "" := by
  cases e with
  | ok text => simp [isPresent, present, Except.toOption, Access.textOf]
  | error e => simp [isPresent, present, Except.toOption, Access.textOf]

theorem judge_tallies (a : Answers) (mode : MatchMode) (c : Check) (r : Requirement) :
    ((c.judge mode r).value a).Tallies
      (r.demands mode fun path => Access.textOf (a.read path)) := by
  cases r with
  | present paths =>
      simp only [judge, Access.value_bind, Access.value_entries, Access.value_pure]
      refine .ofItems (decidePresent_tally _) (c.decided_present _).passed_eq ?_
      rw [Tally.ofItems_map]
      exact Tally.counts_ofItems (fun path => isPresent_iff_textOf) id paths
  | interface owner declaration implementation methods =>
      simp only [judge, Access.value_bind, Access.value_text, Access.value_pure]
      exact .ofItems (decideInterface_tally _ _) (c.decided_interface ..).passed_eq
        (Tally.counts_ofMethods mode _ _ methods)
  | fields file owner names =>
      simp only [judge, Access.value_bind, Access.value_text, Access.value_pure]
      exact .ofItems (decideFields_tally _ _ _) (c.decided_fields ..).passed_eq
        (Tally.counts_ofFields mode _ owner names)
  | tokens rules =>
      rw [value_judge_tokens]
      refine .ofItems (decideTokens_tally _) (c.decided_tokens _).passed_eq ?_
      rw [countedRules, Tally.ofItems_map]
      exact Tally.counts_ofItems (fun rule => decide_eq_true_iff) TokenRule.label rules
  | patterns file ps minCount =>
      simp only [judge, Access.value_bind, Access.value_text, Access.value_pure]
      refine .ofItems (decidePatterns_tally _ _ _) (c.decided_patterns ..).passed_eq ?_
      rw [Tally.ofItems_map]
      exact Tally.counts_ofItems (fun pattern => isMet_countPattern) id ps
  | paired file opening closing requireUsage =>
      simp only [judge, Access.value_bind, Access.value_pure]
      exact decidePaired_tally ..
  | threshold file ts min =>
      simp only [judge, Access.value_bind, Access.value_pure]
      exact decideThreshold_tally ..
  | forbidden token files require allowEmpty =>
      cases hfiles : a.filesOf files with
      | ok paths =>
          rw [value_judge_forbidden hfiles]
          exact decideForbidden_tally ..
      | error e =>
          simp only [judge, Access.value_bind, value_fileSet, hfiles]
          cases e with
          | unreadable path reason => exact missingFiles_tally _
          | notFound dir =>
              cases allowEmpty with
              | true => exact decideForbidden_tally ..
              | false => exact missingFiles_tally _
  | count files ts unit =>
      cases hfiles : a.filesOf files with
      | ok paths =>
          rw [value_judge_count hfiles]
          exact decideCount_tally ..
      | error e =>
          simp only [judge, Access.value_bind, value_fileSet, hfiles]
          cases e with
          | unreadable path reason => exact missingFiles_tally _
          | notFound dir => rfl

/-- The tally of a result says what the check found of what it asks for: it is there when the files
that come first are, and not otherwise; and fields without their owner are all missed. -/
structure Tallied (c : Check) (a : Answers) (mode : MatchMode) (r : CheckResult) : Prop where
  judged : (∀ path ∈ c.prerequisites, a.Loads path fun _ => True) →
    r.Tallies (c.requirement.demands mode fun path => Access.textOf (a.read path))
  unjudged : ¬ (∀ path ∈ c.prerequisites, a.Loads path fun _ => True) → r.tally = none
  ownerless : ∀ file o names t, c.requirement = .fields file (some o) names →
    ¬ o.toList <:+: (Access.textOf (a.read file)).toList → r.tally = some t →
      t.found = 0 ∧ t.missing = names

theorem verdict_tallied (a : Answers) (mode : MatchMode) (c : Check) :
    c.Tallied a mode (c.verdict a mode) := by
  have hjudged (h : ∀ path ∈ c.prerequisites, a.Loads path fun _ => True) :
      (c.verdict a mode).Tallies
        (c.requirement.demands mode fun path => Access.textOf (a.read path)) := by
    rw [verdict_of_loads mode h]
    exact judge_tallies a mode c c.requirement
  have hunjudged (h : ¬ ∀ path ∈ c.prerequisites, a.Loads path fun _ => True) :
      (c.verdict a mode).tally = none := by
    rw [← errorsOf_eq_nil_iff, ← List.isEmpty_iff] at h
    rw [verdict_eq]
    simp only [h]
    exact missingFiles_tally _
  refine ⟨hjudged, hunjudged, ?_⟩
  intro file o names t hfields habsent htally
  by_cases h : ∀ path ∈ c.prerequisites, a.Loads path fun _ => True
  · have htallies := hjudged h
    rw [hfields] at htallies
    obtain ⟨t', htally', hcounts, -⟩ := htallies
    obtain rfl := Option.some.inj (htally.symm.trans htally')
    exact hcounts.eq_of_absent_owner habsent
  · rw [hunjudged h] at htally
    contradiction

end Check

variable {σ : Type} {s : Source (StateM σ)} {w : σ}

/-- Every tally is held to one law.  On any texts, the tally of methods and the tally of fields
count what they are given; without their owner all fields are missed.  While the files do not
change, whatever the corpus remembers, the result of a check that lists what it asks for has a tally
of that, unless files are missing, and it passes exactly when the tally is complete; no other check
has a tally. -/
theorem tallies_count_demands (still : s.Steady w) (corpus : Corpus) (mode : MatchMode) :
    (∀ declared implemented methods,
        (Tally.ofMethods mode declared implemented methods).Counts
          (methods.map (.ofMethod mode declared implemented))) ∧
      (∀ declared owner names,
        (Tally.ofFields mode declared owner names).Counts
          (names.map (.ofField mode declared owner))) ∧
      (∀ declared o names, ¬ o.toList <:+: declared.toList →
        (Tally.ofFields mode declared (some o) names).found = 0 ∧
          (Tally.ofFields mode declared (some o) names).missing = names) ∧
      ∀ c : Check, c.Tallied (corpus.tells (s.at w)) mode (c.outcome s corpus w mode) := by
  refine ⟨Tally.counts_ofMethods mode, Tally.counts_ofFields mode, ?_, fun c => ?_⟩
  · intro declared o names
    exact (Tally.counts_ofFields mode declared (some o) names).eq_of_absent_owner
  · rw [Check.outcome_eq still]
    exact Check.verdict_tallied _ mode c

/-- Fields without their owner, one of them asked for twice; and rules, one of them given twice, of
which a file that was remembered has too little. -/
theorem tallies_count_demands_of_repeated_items :
    let s : Source (StateM Unit) :=
      { read := fun path =>
          pure (if path = "a.h" then .ok "int x_, y_;" else .error (.notFound path))
        list := fun dir _ => pure (.error (.notFound dir)) }
    let corpus := Corpus.empty.add "b.h" (.ok "lock lock")
    let point : Check := ⟨"point", none, false, .fields "a.h" (some "Point") ["x_", "y_", "x_"]⟩
    let two : TokenRule := ⟨"b.h", ["lock"], 2⟩
    let three : TokenRule := ⟨"b.h", ["lock"], 3⟩
    let locks : Check := ⟨"locks", none, false, .tokens [three, two, three]⟩
    s.Steady () ∧
      (∃ t, (point.outcome s corpus () .word).tally = some t ∧ t.found = 0 ∧
        t.missing = ["x_", "y_", "x_"]) ∧
      ∃ t, (locks.outcome s corpus () .word).tally = some t ∧ t.found + t.missing.length = 3 ∧
        t.missing = [three.label, three.label] := by
  intro s corpus point two three locks
  have still : s.Steady () := ⟨fun _ => rfl, fun _ _ => rfl⟩
  obtain ⟨-, -, -, htallied⟩ := tallies_count_demands still corpus .word
  have hread : (corpus.tells (s.at ())).read "a.h" = .ok "int x_, y_;" := by decide +kernel
  have hheld : (corpus.tells (s.at ())).read "b.h" = .ok "lock lock" := by decide +kernel
  have hpoint : ∀ path ∈ point.prerequisites,
      (corpus.tells (s.at ())).Loads path fun _ => True := by
    intro path hpath
    obtain rfl : path = "a.h" := List.mem_singleton.mp hpath
    exact ⟨_, hread, trivial⟩
  have hlocks : ∀ path ∈ locks.prerequisites,
      (corpus.tells (s.at ())).Loads path fun _ => True := by
    intro path hpath
    obtain rfl : path = "b.h" := List.mem_singleton.mp hpath
    exact ⟨_, hheld, trivial⟩
  refine ⟨still, ?_, ?_⟩
  · obtain ⟨t, htally, -⟩ := (htallied point).judged hpoint
    have habsent : ¬ "Point".toList <:+: "int x_, y_;".toList := by decide
    exact ⟨t, htally, (htallied point).ownerless _ _ _ t rfl (by rwa [hread]) htally⟩
  · obtain ⟨t, htally, hcounts, -⟩ := (htallied locks).judged hlocks
    have hcount (n : Nat) :
        n ≤ occurrences (Access.textOf ((corpus.tells (s.at ())).read "b.h")) ["lock"] ↔ n ≤ 2 := by
      have htwice : occurrences "lock lock" ["lock"] = 2 := by decide
      rw [hheld, Access.textOf, htwice]
    have hmisses := hcounts.misses.unique
      (.unmet (mt (hcount 3).mp (by decide)) (.met ((hcount 2).mpr (by decide))
        (.unmet (mt (hcount 3).mp (by decide)) .nil)))
    exact ⟨t, htally, hcounts.total.trans hcounts.required_eq, hmisses⟩

end SourceContract
