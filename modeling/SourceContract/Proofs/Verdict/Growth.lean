import SourceContract.Proofs.Matching.Part
import SourceContract.Proofs.Verdict.Mode

/-!
# Projects that gain text

Let one project have all the files of another, each with the text of that other as a
part of its own.  In literal mode a check that asks for something to be there passes on
the larger project if it passes on the smaller one, and its tally has found no less.  A
check that forbids a token goes the other way, as long as no file is missing.
-/

namespace SourceContract

open Matching (MatchMode Tally IsPart)

namespace Requirement

/-- The requirement asks for files and for what stands in them, and for nothing to be absent. -/
def asksForPresence : Requirement → Bool
  | .present .. | .interface .. | .fields .. | .threshold .. | .tokens .. => true
  | .paired .. | .forbidden .. | .patterns .. | .count .. => false

def listsItems : Requirement → Bool
  | .interface .. | .fields .. | .tokens .. => true
  | _ => false

end Requirement

/-! ## Answers -/

namespace Answers

variable {a b : Answers} {path : String}

/-- Every text of the one is part of the text that the other has for the same path. -/
def Grows (a b : Answers) : Prop :=
  ∀ path text, a.read path = .ok text → b.Loads path fun text' => IsPart text text'

theorem Grows.loads {P Q : String → Prop} (h : a.Grows b) (hloads : a.Loads path P)
    (himp : ∀ text text', IsPart text text' → P text → Q text') : b.Loads path Q := by
  obtain ⟨text, hread, hP⟩ := hloads
  obtain ⟨text', hread', hpart⟩ := h path text hread
  exact ⟨text', hread', himp text text' hpart hP⟩

/-- A file that cannot be had counts as empty, and nothing is part of everything. -/
theorem Grows.textOf (h : a.Grows b) (path : String) :
    IsPart (Access.textOf (a.read path)) (Access.textOf (b.read path)) := by
  cases hread : a.read path with
  | error e => exact List.nil_infix
  | ok text =>
      obtain ⟨text', hread', hpart⟩ := h path text hread
      rw [hread']
      exact hpart

theorem Meets.grows (h : a.Grows b) {r : Requirement} (hr : r.asksForPresence = true)
    (hmeets : a.Meets .literal r) : b.Meets .literal r := by
  cases r with
  | present paths => exact fun path hpath => h.loads (hmeets path hpath) fun _ _ => IsPart.ne_empty
  | interface owner declaration implementation methods =>
      refine h.loads hmeets fun declared declared' hpart hrest => ?_
      refine h.loads hrest fun implemented implemented' hpart' hall method hmethod => ?_
      obtain ⟨hdeclared, hcalled⟩ := hall method hmethod
      exact ⟨hpart.containsIdentifier hdeclared, hpart'.hasCall hcalled⟩
  | fields file owner names =>
      refine h.loads hmeets fun text text' hpart hall hnames => ?_
      obtain ⟨howner, hfound⟩ := hall hnames
      exact ⟨fun o ho => (howner o ho).trans hpart,
        fun name hname => hpart.containsIdentifier (hfound name hname)⟩
  | threshold file tokens min =>
      exact h.loads hmeets fun text text' hpart hmin =>
        Nat.lt_of_lt_of_le hmin (hpart.occurrences_le tokens)
  | tokens rules =>
      refine fun rule hrule => h.loads (hmeets rule hrule) fun text text' hpart hmin => ?_
      exact hmin.trans (hpart.occurrences_le rule.anyOf)
  | paired | forbidden | patterns | count => contradiction

theorem Meets.shrinks (h : a.Grows b) {mode : MatchMode} {token : String} {paths : List String}
    {allowEmpty : Bool} (hthere : ∀ path ∈ paths, a.Loads path fun _ => True)
    (hmeets : b.Meets mode (.forbidden token (.paths paths) [] allowEmpty)) :
    a.Meets mode (.forbidden token (.paths paths) [] allowEmpty) := by
  -- Named paths lack no directory, so the second way to meet the requirement is closed.
  rcases hmeets with ⟨_, ⟨⟩, hempty, hall⟩ | ⟨⟨_, ⟨⟩⟩, -⟩
  refine Or.inl ⟨paths, rfl, hempty, fun path hpath => ?_⟩
  obtain ⟨text, hread, -⟩ := hthere path hpath
  obtain ⟨text', hread', hpart⟩ := h path text hread
  obtain ⟨larger, hlarger, hfree, -⟩ := hall path hpath
  obtain rfl : text' = larger := Except.ok.inj (hread'.symm.trans hlarger)
  exact ⟨text, hread, fun hoccurs => hfree (hpart.occurs hoccurs), List.forall_mem_nil _⟩

end Answers

/-! ## Tallies -/

namespace Check

variable {a b : Answers} {c : Check}

theorem decideTokens_tally (rules : List CountedRule) :
    (c.decideTokens rules).tally =
      some (Tally.ofItems CountedRule.isMet (fun r => r.1.label) rules) := by
  unfold decideTokens
  dsimp only
  split <;> rfl

def countedRules (a : Answers) (rules : List TokenRule) : List CountedRule :=
  rules.map fun r => (r, Matching.occurrences (Access.textOf (a.read r.file)) r.anyOf)

theorem value_judge_tokens (mode : MatchMode) (rules : List TokenRule) :
    (c.judge mode (.tokens rules)).value a = c.decideTokens (countedRules a rules) := by
  simp only [judge, Access.value_bind, Access.value_textsOf, Access.value_pure, List.map_map,
    List.zipWith_map_right, List.zipWith_self]
  rfl

theorem countedRules_covers (h : a.Grows b) (rules : List TokenRule) :
    (Tally.ofItems CountedRule.isMet (fun r => r.1.label) (countedRules b rules)).Covers
      (Tally.ofItems CountedRule.isMet (fun r => r.1.label) (countedRules a rules)) := by
  rw [countedRules, countedRules, Tally.ofItems_map, Tally.ofItems_map]
  refine Tally.covers_ofItems (fun rule hmet => ?_) _ rules
  simp only [CountedRule.isMet, decide_eq_true_eq] at hmet ⊢
  exact hmet.trans ((h.textOf rule.file).occurrences_le rule.anyOf)

theorem prerequisites_of_listsItems (h : c.requirement.listsItems = true) :
    c.prerequisites = c.requiredFiles := by
  refine prerequisites_eq ?_
  cases hr : c.requirement <;> first | rfl | (rw [hr] at h; contradiction)

theorem tally_grows (h : a.Grows b) (hitems : c.requirement.listsItems = true)
    (hthere : ∀ path ∈ c.requiredFiles, a.Loads path fun _ => True) :
    ∃ t t', (c.verdict a .literal).tally = some t ∧ (c.verdict b .literal).tally = some t' ∧
      t'.Covers t := by
  -- With all files there, neither check is cut short, and each tally is that of its texts.
  rw [← prerequisites_of_listsItems hitems] at hthere
  have hthere' : ∀ path ∈ c.prerequisites, b.Loads path fun _ => True := fun path hpath =>
    h.loads (hthere path hpath) fun _ _ _ => id
  rw [verdict_tally_of_loads _ hthere, verdict_tally_of_loads _ hthere']
  cases hr : c.requirement with
  | interface owner declaration implementation methods =>
      simp only [judge, Access.value_bind, Access.value_text, Access.value_pure,
        decideInterface_tally]
      exact ⟨_, _, rfl, rfl,
        Tally.ofMethods_covers_part (h.textOf declaration) (h.textOf implementation) methods⟩
  | fields file owner names =>
      simp only [judge, Access.value_bind, Access.value_text, Access.value_pure,
        decideFields_tally]
      exact ⟨_, _, rfl, rfl, Tally.ofFields_covers_part (h.textOf file) owner names⟩
  | tokens rules =>
      simp only [value_judge_tokens, decideTokens_tally]
      exact ⟨_, _, rfl, rfl, countedRules_covers h rules⟩
  | present | paired | threshold | forbidden | patterns | count =>
      rw [hr] at hitems
      contradiction

end Check

/-! ## Two projects -/

variable {σ σ' : Type} {s : Source (StateM σ)} {w : σ} {s' : Source (StateM σ')} {w' : σ'}

/-- Adding text never breaks a check that asks for something to be there: in literal mode it passes
on the larger project if it passes on the smaller one.  If it lists items, and its files are there,
its tally has found no less and misses no more.  The other way round, a check that forbids a token
in files that are all there, and requires none, passes on the smaller project if it passes on the
larger one. -/
theorem added_text_keeps_presence (still : s.Steady w) (still' : s'.Steady w')
    (h : (s.at w).Grows (s'.at w')) (c : Check) :
    (c.requirement.asksForPresence = true → (c.alone s w .literal).passed = true →
        (c.alone s' w' .literal).passed = true) ∧
      (c.requirement.listsItems = true →
        (∀ path ∈ c.requiredFiles, (s.at w).Loads path fun _ => True) →
        ∃ t t', (c.alone s w .literal).tally = some t ∧ (c.alone s' w' .literal).tally = some t' ∧
          t'.Covers t) ∧
      ∀ token paths allowEmpty mode, c.requirement = .forbidden token (.paths paths) [] allowEmpty →
        (∀ path ∈ paths, (s.at w).Loads path fun _ => True) →
        (c.alone s' w' mode).passed = true → (c.alone s w mode).passed = true := by
  simp only [Check.alone_eq still, Check.alone_eq still', Check.verdict_passed_iff_meets]
  refine ⟨fun hr hmeets => hmeets.grows h hr, Check.tally_grows h, ?_⟩
  intro token paths allowEmpty mode hr hthere hmeets
  rw [hr] at hmeets ⊢
  exact hmeets.shrinks h hthere

theorem added_text_keeps_presence_in_front :
    let project (text : String) : Source (StateM Unit) :=
      { read := fun path => pure (if path = "a.h" then .ok text else .error (.notFound path))
        list := fun dir _ => pure (.error (.notFound dir)) }
    let small := project "aaaa"
    let large := project "a-baaaa"
    let often : Check := ⟨"often", none, false, .threshold "a.h" ["aa"] 1⟩
    let rules : Check := ⟨"rules", none, false, .tokens [⟨"a.h", ["aa"], 2⟩, ⟨"a.h", ["b"], 1⟩]⟩
    let free : Check := ⟨"free", none, false, .forbidden "c" (.paths ["a.h"]) [] false⟩
    (small.at ()).Grows (large.at ()) ∧ (often.alone large () .literal).passed = true ∧
      (∃ t t', (rules.alone small () .literal).tally = some t ∧
        (rules.alone large () .literal).tally = some t' ∧ t'.Covers t) ∧
      (free.alone small () .literal).passed = true := by
  intro project small large often rules free
  have still (text : String) : (project text).Steady () := ⟨fun _ => rfl, fun _ _ => rfl⟩
  have hread (text : String) : ((project text).at ()).read "a.h" = .ok text := rfl
  have h : (small.at ()).Grows (large.at ()) := by
    intro path text htext
    by_cases hpath : path = "a.h"
    · subst hpath
      cases (hread "aaaa").symm.trans htext
      exact ⟨_, hread "a-baaaa", "a-b".toList, [], by decide⟩
    · have hnone : (small.at ()).read path = .error (.notFound path) := by
        simp only [small, project, Source.at, if_neg hpath]
        rfl
      cases hnone.symm.trans htext
  have hthere : (small.at ()).Loads "a.h" fun _ => True := ⟨_, hread "aaaa", trivial⟩
  have hgrown := added_text_keeps_presence (still "aaaa") (still "a-baaaa") h
  refine ⟨h, (hgrown often).1 rfl (by decide +kernel), (hgrown rules).2.1 rfl ?_, ?_⟩
  · intro path hpath
    obtain rfl : path = "a.h" := by simpa [rules, Check.requiredFiles, Check.ruleFiles] using hpath
    exact hthere
  · have hall : ∀ path ∈ ["a.h"], (small.at ()).Loads path fun _ => True := by simpa using hthere
    exact (hgrown free).2.2 "c" ["a.h"] false .literal rfl hall (by decide +kernel)

end SourceContract
