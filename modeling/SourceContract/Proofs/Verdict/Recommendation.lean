import Mathlib.Tactic.Linarith
import SourceContract.Proofs.Binary64.Rounding
import SourceContract.Proofs.Verdict.Totals

/-!
# Recommendations are exact

The recommendation of a report rests on a comparison of two doubles, and the one of
them is a rounded quotient.  Whole percentages are doubles, and as long as there are
not too many results the quotient is further away from one than the next double is.
So the comparison of doubles is that of the fractions.
-/

namespace SourceContract

open Binary64

/-! ## Pass rates -/

theorem exists_holds_passRate {passed total : Nat} (hsome : 0 < total) (hle : passed ≤ total)
    (hbound : total ≤ 2 ^ 46) :
    ∃ u, Holds (passRate passed total) u ∧ IsNearest u (100 * passed * unit) total := by
  have hhundred : 100 * passed ≤ mantissaBound := by
    change 100 * passed ≤ 2 ^ 53
    omega
  have htotal : total ≤ mantissaBound := hbound.trans (by decide)
  have hproduct := (holds_ofNat (n := 100) (by decide)).mul
    (holds_ofNat (hle.trans htotal)) hhundred
  rw [passRate, if_neg (Nat.ne_of_gt hsome)]
  refine hproduct.div (holds_ofNat htotal) hsome ?_
  exact hhundred.trans (Nat.le_mul_of_pos_right _ hsome)

/-- A rate below a whole percentage is rounded to one below it. -/
theorem ofNat_le_passRate_iff {percent passed total : Nat} (hpos : 0 < percent)
    (hpercent : percent ≤ 100) (hsome : 0 < total) (hle : passed ≤ total)
    (hbound : total ≤ 2 ^ 46) :
    ofNat percent ≤ passRate passed total ↔ percent * total ≤ 100 * passed := by
  obtain ⟨u, hu, hnearest⟩ := exists_holds_passRate hsome hle hbound
  have hmantissa : percent ≤ mantissaBound := hpercent.trans (by decide)
  rw [(holds_ofNat hmantissa).le_iff hu]
  constructor
  · intro hreached
    by_contra hbelow
    obtain ⟨v, hv, hclose⟩ := exists_isDouble_below hpos (hpercent.trans (by decide))
    have hgap : 2 ^ 46 * (100 * passed) + total ≤ 2 ^ 46 * (percent * total) := by omega
    have hscaled := Nat.mul_le_mul_right unit hgap
    have hfits : 2 ^ 46 * (100 * passed * unit) ≤ 2 ^ 46 * (v * total) := by
      have hclose := congrArg (· * total) hclose
      linarith
    have huv : u ≤ v := hnearest.le hsome hv (Nat.le_of_mul_le_mul_left hfits (by decide))
    have hunit := unit_pos
    omega
  · intro hexact
    refine hnearest.ge hsome (isDouble_of_le hmantissa) ?_
    calc percent * unit * total = percent * total * unit := by ring
      _ ≤ 100 * passed * unit := Nat.mul_le_mul_right unit hexact

theorem passRate_reaches_iff {percent passed total : Nat} (hpos : 0 < percent)
    (hpercent : percent ≤ 100) (hle : passed ≤ total) (hbound : total ≤ 2 ^ 46) :
    ofNat percent ≤ passRate passed total ↔ 0 < total ∧ percent * total ≤ 100 * passed := by
  rcases Nat.eq_zero_or_pos total with rfl | hsome
  · have hmantissa : percent ≤ mantissaBound := hpercent.trans (by decide)
    have hunits := Nat.mul_pos hpos unit_pos
    rw [passRate, if_pos rfl, (holds_ofNat hmantissa).le_iff holds_zero]
    omega
  · rw [ofNat_le_passRate_iff hpos hpercent hsome hle hbound, and_iff_right hsome]

/-! ## Recommendations -/

namespace Recommendation

def ofFraction (passed total : Nat) : Recommendation :=
  if 0 < total ∧ passed = total then .compliant
  else if 0 < total ∧ 4 * total ≤ 5 * passed then .minorGaps
  else .significantGaps

variable {passed total : Nat}

theorem ofFraction_eq_compliant_iff :
    ofFraction passed total = .compliant ↔ 0 < total ∧ passed = total := by
  unfold ofFraction
  split_ifs <;> simp_all

theorem ofFraction_eq_minorGaps_iff (hle : passed ≤ total) :
    ofFraction passed total = .minorGaps ↔ passed < total ∧ 4 * total ≤ 5 * passed := by
  unfold ofFraction
  split_ifs <;> simp_all <;> omega

theorem ofFraction_eq_significantGaps_iff :
    ofFraction passed total = .significantGaps ↔ total = 0 ∨ 5 * passed < 4 * total := by
  unfold ofFraction
  split_ifs <;> simp_all <;> omega

theorem compliantFrom_le_passRate_iff (hle : passed ≤ total) (hbound : total ≤ 2 ^ 46) :
    compliantFrom ≤ passRate passed total ↔ 0 < total ∧ passed = total := by
  rw [compliantFrom, passRate_reaches_iff (by decide) (Nat.le_refl 100) hle hbound]
  omega

theorem minorGapsFrom_le_passRate_iff (hle : passed ≤ total) (hbound : total ≤ 2 ^ 46) :
    minorGapsFrom ≤ passRate passed total ↔ 0 < total ∧ 4 * total ≤ 5 * passed := by
  rw [minorGapsFrom, passRate_reaches_iff (by decide) (by decide) hle hbound]
  omega

theorem ofPassRate_passRate (hle : passed ≤ total) (hbound : total ≤ 2 ^ 46) :
    ofPassRate (passRate passed total) = ofFraction passed total :=
  if_congr (compliantFrom_le_passRate_iff hle hbound) rfl
    (if_congr (minorGapsFrom_le_passRate_iff hle hbound) rfl rfl)

end Recommendation

namespace RunReport

theorem passRate_aggregate (name : String) (results : List CheckResult) (corpus : CorpusStats)
    (cancelled : Bool) :
    let stats := (aggregate name results corpus cancelled).stats
    stats.passRate = SourceContract.passRate stats.passed stats.total := rfl

end RunReport

/-- The recommendation says exactly how many of the results that count have passed.  Of at most
`2 ^ 46` such results all have passed, and there is one, when it is the best; at least four of five
have, but not all, when it is the second; and otherwise it is the last, also when none counts,
although then nothing has failed.  Each cut point is reached by the rounded rate when it is reached
by the fraction. -/
theorem recommendation_is_exact (name : String) {results : List CheckResult} (corpus : CorpusStats)
    (cancelled : Bool) (hbound : (results.countP fun c => !c.informational) ≤ 2 ^ 46) :
    let r := RunReport.aggregate name results corpus cancelled
    let total := results.countP fun c => !c.informational
    let passed := results.countP fun c => c.passed && !c.informational
    (Recommendation.compliantFrom ≤ r.stats.passRate ↔ 0 < total ∧ passed = total) ∧
      (Recommendation.minorGapsFrom ≤ r.stats.passRate ↔ 0 < total ∧ 4 * total ≤ 5 * passed) ∧
      (r.recommendation = .compliant ↔ 0 < total ∧ passed = total) ∧
      (r.recommendation = .minorGaps ↔ passed < total ∧ 4 * total ≤ 5 * passed) ∧
      (r.recommendation = .significantGaps ↔ total = 0 ∨ 5 * passed < 4 * total) ∧
      (total = 0 → r.allPassed = !cancelled) := by
  intro r total passed
  have hle : passed ≤ total := List.countP_mono_left fun r _ h => by simp_all
  have hrate : r.stats.passRate = passRate passed total := by
    rw [RunReport.passRate_aggregate, RunReport.passed_aggregate, RunReport.total_aggregate]
  have hrecommended : r.recommendation = .ofFraction passed total := by
    rw [RunReport.recommendation_aggregate, hrate, Recommendation.ofPassRate_passRate hle hbound]
  rw [hrate, hrecommended]
  refine ⟨Recommendation.compliantFrom_le_passRate_iff hle hbound,
    Recommendation.minorGapsFrom_le_passRate_iff hle hbound,
    Recommendation.ofFraction_eq_compliant_iff,
    Recommendation.ofFraction_eq_minorGaps_iff hle,
    Recommendation.ofFraction_eq_significantGaps_iff, ?_⟩
  intro hnone
  have hgating : RunReport.gating results = [] := by
    rw [← List.length_eq_zero_iff, ← hnone]
    exact (List.countP_eq_length_filter ..).symm
  rw [Bool.eq_iff_iff, RunReport.allPassed_iff]
  simp [hgating]

/-- With one failure the rate is as close to a hundred as it gets. -/
theorem recommendation_is_exact_of_one_failure :
    let results := CheckResult.fail "f" "exists" "" :: List.replicate (2 ^ 46 - 1)
      (CheckResult.pass "p" "exists" "")
    (results.countP fun c => !c.informational) = 2 ^ 46 ∧
      (RunReport.aggregate "c" results ⟨0, 0⟩ false).recommendation = .minorGaps := by
  intro results
  have htotal : (results.countP fun c => !c.informational) = 2 ^ 46 := by
    rw [List.countP_cons_of_pos rfl, List.countP_replicate]
    rfl
  have hpassed : (results.countP fun c => c.passed && !c.informational) = 2 ^ 46 - 1 := by
    rw [List.countP_cons_of_neg Bool.false_ne_true, List.countP_replicate]
    rfl
  obtain ⟨-, -, -, hminor, -⟩ := recommendation_is_exact "c" ⟨0, 0⟩ false htotal.le
  refine ⟨htotal, hminor.mpr ?_⟩
  rw [htotal, hpassed]
  decide

end SourceContract
