import SourceContract.Proofs.Matching.Mode
import SourceContract.Proofs.Verdict.Gating

/-!
# The mode of a contract and its verdicts

The mode says how identifiers are found, so it matters to checks that name
identifiers only.  A contract in word mode is stricter than the same contract in
literal mode: no check passes in word mode that fails in literal mode.
-/

namespace SourceContract

open Matching (MatchMode Tally)

def Requirement.namesIdentifiers : Requirement → Bool
  | .interface .. => true
  | .fields .. => true
  | _ => false

/-! ## Demands -/

theorem Answers.Meets.literal {a : Answers} {r : Requirement} (h : a.Meets .word r) :
    a.Meets .literal r := by
  cases r with
  | interface owner declaration implementation methods =>
      obtain ⟨declared, hdeclared, implemented, himplemented, hall⟩ := h
      refine ⟨declared, hdeclared, implemented, himplemented, fun method hmethod => ?_⟩
      obtain ⟨hdeclaration, hcall⟩ := hall method hmethod
      exact ⟨Matching.containsIdentifier_literal hdeclaration, Matching.hasCall_literal hcall⟩
  | fields file owner names =>
      obtain ⟨text, hread, hall⟩ := h
      refine ⟨text, hread, fun hnames => ⟨(hall hnames).1, fun name hname => ?_⟩⟩
      exact Matching.containsIdentifier_literal ((hall hnames).2 name hname)
  | present | paired | threshold | forbidden | tokens | patterns | count => exact h

/-! ## Results -/

/-- A check was decided in both modes: it passes in literal mode if it does in word mode.  If it
names identifiers and its files are there, the tally in literal mode covers the one in word mode;
if it names none, the results are the same. -/
structure StricterInWordMode (a : Answers) (c : Check) (word literal : CheckResult) : Prop where
  passed : word.passed = true → literal.passed = true
  covers : c.requirement.namesIdentifiers = true →
    (∀ path ∈ c.requiredFiles, a.Loads path fun _ => True) →
    ∃ t t', word.tally = some t ∧ literal.tally = some t' ∧ t'.Covers t
  same : c.requirement.namesIdentifiers = false → word = literal

namespace Check

variable {a : Answers} {c : Check}

theorem decideInterface_tally (owner : String) (t : Tally) :
    (c.decideInterface owner t).tally = some t := by
  unfold decideInterface
  split <;> rfl

theorem decideFields_tally (file : String) (absentOwner : Option String) (t : Tally) :
    (c.decideFields file absentOwner t).tally = some t := by
  unfold decideFields
  split <;> rfl

theorem verdict_tally_of_loads (mode : MatchMode)
    (h : ∀ path ∈ c.prerequisites, a.Loads path fun _ => True) :
    (c.verdict a mode).tally = ((c.judge mode c.requirement).value a).tally := by
  rw [verdict_of_loads mode h]
  rfl

theorem prerequisites_of_namesIdentifiers (h : c.requirement.namesIdentifiers = true) :
    c.prerequisites = c.requiredFiles := by
  refine prerequisites_eq ?_
  cases hr : c.requirement <;> first | rfl | (rw [hr] at h; contradiction)

theorem tally_covers (hnames : c.requirement.namesIdentifiers = true)
    (h : ∀ path ∈ c.requiredFiles, a.Loads path fun _ => True) :
    ∃ t t', (c.verdict a .word).tally = some t ∧ (c.verdict a .literal).tally = some t' ∧
      t'.Covers t := by
  rw [← prerequisites_of_namesIdentifiers hnames] at h
  simp only [verdict_tally_of_loads _ h]
  cases hr : c.requirement with
  | interface owner declaration implementation methods =>
      simp only [judge, Access.value_bind, Access.value_pure, decideInterface_tally]
      exact ⟨_, _, rfl, rfl, Tally.ofMethods_covers _ _ methods⟩
  | fields file owner names =>
      simp only [judge, Access.value_bind, Access.value_pure, decideFields_tally]
      exact ⟨_, _, rfl, rfl, Tally.ofFields_covers _ owner names⟩
  | present | paired | threshold | forbidden | tokens | patterns | count =>
      rw [hr] at hnames
      contradiction

theorem verdict_eq_of_names_none (hnames : c.requirement.namesIdentifiers = false)
    (mode mode' : MatchMode) : c.verdict a mode = c.verdict a mode' := by
  have hjudge : c.judge mode c.requirement = c.judge mode' c.requirement := by
    cases hr : c.requirement <;> first | rfl | (rw [hr] at hnames; contradiction)
  rw [verdict_eq, verdict_eq, hjudge]

theorem verdict_stricterInWordMode (a : Answers) (c : Check) :
    StricterInWordMode a c (c.verdict a .word) (c.verdict a .literal) where
  passed h :=
    (verdict_passed_iff_meets a .literal c).mpr ((verdict_passed_iff_meets a .word c).mp h).literal
  covers := tally_covers
  same hnames := verdict_eq_of_names_none hnames .word .literal

end Check

variable {σ : Type} {s : Source (StateM σ)} {w : σ} {c : Contract} {word literal : RunReport}

/-- Word mode is stricter than literal mode.  An identifier or a call that is found in word mode is
found in literal mode.  While the files do not change, a run of a contract in word mode and one in
literal mode give results for each check that say the same thing: what passes in word mode passes in
literal mode, the tally of a check that names identifiers finds no less and misses no more, and the
results of all other checks are equal. -/
theorem word_mode_is_stricter (still : s.Steady w)
    (hword : Reports s c.name .word c.checks w word)
    (hliteral : Reports s c.name .literal c.checks w literal) :
    (∀ text ident, Matching.containsIdentifier .word text ident = true →
        Matching.containsIdentifier .literal text ident = true) ∧
      (∀ text ident, Matching.hasCall .word text ident = true →
        Matching.hasCall .literal text ident = true) ∧
      (∀ (i : Nat) k, c.checks[i]? = some k → ∃ r r', word.results[i]? = some r ∧
        literal.results[i]? = some r' ∧ StricterInWordMode (s.at w) k r r') ∧
      (word.allPassed = true → literal.allPassed = true) := by
  have hstricter := Check.verdict_stricterInWordMode (s.at w)
  refine ⟨fun _ _ => Matching.containsIdentifier_literal, fun _ _ => Matching.hasCall_literal,
    fun i k hk => ?_, ?_⟩
  · refine ⟨_, _, ?_, ?_, hstricter k⟩
    · rw [hword.eq_aggregate still, RunReport.aggregate, List.getElem?_map, hk]
      rfl
    · rw [hliteral.eq_aggregate still, RunReport.aggregate, List.getElem?_map, hk]
      rfl
  · rw [hword.allPassed_iff still, hliteral.allPassed_iff still]
    intro hall k hk hgating
    have hpassed := hall k hk hgating
    rw [Check.alone_eq still] at hpassed ⊢
    exact (hstricter k).passed hpassed

theorem word_mode_is_stricter_on_longer_name :
    let s : Source (StateM Unit) :=
      { read := fun path =>
          pure (if path = "a.h" then .ok "int openAll();" else .error (.notFound path))
        list := fun dir _ => pure (.error (.notFound dir)) }
    let calls : Check := ⟨"calls", none, false, .interface "Door" "a.h" "a.h" ["open", "int"]⟩
    let c : Contract := { Contract.empty with checks := [calls] }
    let report (mode : MatchMode) := ((runChecks s false c.name mode c.checks).run ()).1
    s.Steady () ∧ ((report .literal).results.map fun r => r.tally) = [some ⟨1, 2, ["int"]⟩] ∧
      ∃ r r', (report .word).results[0]? = some r ∧ (report .literal).results[0]? = some r' ∧
        StricterInWordMode (s.at ()) calls r r' := by
  intro s calls c report
  have still : s.Steady () := ⟨fun _ => rfl, fun _ _ => rfl⟩
  have hstricter := (word_mode_is_stricter still (c := c) .inSequence .inSequence).2.2.1
  exact ⟨still, by decide +kernel, hstricter 0 calls rfl⟩

end SourceContract
