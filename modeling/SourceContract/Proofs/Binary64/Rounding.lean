import Mathlib.Data.Nat.Dist
import Mathlib.Tactic.Ring
import SourceContract.Binary64.Basic

/-!
# Rounding to the nearest double

A quotient becomes the double that is nearest to it.  So rounding never carries a
quotient across a double: what lies at or below a double stays there, and so does what
lies at or above it.  Whole numbers up to the bound of mantissas are doubles, and
therefore sums that stay among them are exact.
-/

namespace SourceContract.Binary64

/-- The exponent is a variable here, so that no proof works the power out. -/
theorem exists_unit_eq : ∃ e, e = 1074 ∧ unit = 2 ^ e := by
  unfold unit
  generalize 1074 = e
  exact ⟨e, rfl, rfl⟩

theorem unit_pos : 0 < unit := by
  obtain ⟨e, -, hunit⟩ := exists_unit_eq
  rw [hunit]
  exact Nat.two_pow_pos e

/-! ## The nearest whole number -/

theorem roundHalfEven_cases (num den : Nat) :
    roundHalfEven num den = num / den ∧ 2 * (num % den) ≤ den ∨
      roundHalfEven num den = num / den + 1 ∧ den ≤ 2 * (num % den) := by
  unfold roundHalfEven
  dsimp only
  split
  next h => exact Or.inl ⟨rfl, Nat.le_of_lt h⟩
  next h =>
      split
      next h' => exact Or.inr ⟨rfl, Nat.le_of_lt h'⟩
      next h' =>
          -- A tie, so either neighbour is near enough.
          split
          next => exact Or.inl ⟨rfl, Nat.le_of_not_lt h'⟩
          next => exact Or.inr ⟨rfl, Nat.le_of_not_lt h⟩

theorem roundHalfEven_nearest {num den : Nat} (hden : 0 < den) (k : Nat) :
    Nat.dist (roundHalfEven num den * den) num ≤ Nat.dist (k * den) num := by
  have hsplit : num / den * den + num % den = num := Nat.div_add_mod' num den
  have hless := Nat.mod_lt num hden
  have hnext : (num / den + 1) * den = num / den * den + den := Nat.succ_mul ..
  -- Every multiple of the denominator lies outside the gap that the quotient falls into.
  have houtside : k * den ≤ num / den * den ∨ num / den * den + den ≤ k * den := by
    rcases Nat.lt_or_ge (num / den) k with h | h
    · exact Or.inr (hnext ▸ Nat.mul_le_mul_right den h)
    · exact Or.inl (Nat.mul_le_mul_right den h)
  unfold Nat.dist
  rcases roundHalfEven_cases num den with ⟨hround, hhalf⟩ | ⟨hround, hhalf⟩
  · rw [hround]
    omega
  · rw [hround, hnext]
    omega

/-! ## Numbers of units -/

def IsDouble (u : Nat) : Prop := ∃ m s, m ≤ mantissaBound ∧ u = m * Nat.pow 2 s

theorem isDouble_of_le {n : Nat} (h : n ≤ mantissaBound) : IsDouble (n * unit) := by
  obtain ⟨e, -, hunit⟩ := exists_unit_eq
  exact ⟨n, e, h, hunit ▸ rfl⟩

theorem exists_isDouble_below {n : Nat} (hpos : 0 < n) (h : n ≤ 2 ^ 7) :
    ∃ v, IsDouble v ∧ 2 ^ 46 * v + unit = 2 ^ 46 * (n * unit) := by
  obtain ⟨e, he, hunit⟩ := exists_unit_eq
  refine ⟨(2 ^ 46 * n - 1) * 2 ^ (e - 46), ⟨2 ^ 46 * n - 1, e - 46, ?_, rfl⟩, ?_⟩
  · change 2 ^ 46 * n - 1 ≤ 2 ^ 53
    omega
  · have hsplit : unit = 2 ^ 46 * 2 ^ (e - 46) := by
      have hle : 46 ≤ e := by
        rw [he]
        decide
      rw [hunit, ← pow_add, Nat.add_sub_cancel' hle]
    rw [hsplit]
    generalize 2 ^ (e - 46) = fine
    have hone : 2 ^ 46 * n - 1 + 1 = 2 ^ 46 * n := Nat.sub_add_cancel (by omega)
    calc 2 ^ 46 * ((2 ^ 46 * n - 1) * fine) + 2 ^ 46 * fine
        = 2 ^ 46 * ((2 ^ 46 * n - 1 + 1) * fine) := by ring
      _ = 2 ^ 46 * (n * (2 ^ 46 * fine)) := by rw [hone]; ring

/-- No double is nearer to `num / den` than the one of `u` units. -/
def IsNearest (u num den : Nat) : Prop :=
  ∀ v, IsDouble v → Nat.dist (u * den) num ≤ Nat.dist (v * den) num

section IsNearest

variable {u v num den : Nat}

theorem IsNearest.le (h : IsNearest u num den) (hden : 0 < den) (hv : IsDouble v)
    (hle : num ≤ v * den) : u ≤ v := by
  by_contra hlt
  have hfar : v * den < u * den := Nat.mul_lt_mul_of_pos_right (Nat.lt_of_not_le hlt) hden
  have hnear := h v hv
  unfold Nat.dist at hnear
  omega

theorem IsNearest.ge (h : IsNearest u num den) (hden : 0 < den) (hv : IsDouble v)
    (hle : v * den ≤ num) : v ≤ u := by
  by_contra hlt
  have hfar : u * den < v * den := Nat.mul_lt_mul_of_pos_right (Nat.lt_of_not_le hlt) hden
  have hnear := h v hv
  unfold Nat.dist at hnear
  omega

theorem IsNearest.eq (h : IsNearest u num den) (hden : 0 < den) (hv : IsDouble v)
    (heq : v * den = num) : u = v :=
  Nat.le_antisymm (h.le hden hv heq.ge) (h.ge hden hv heq.le)

theorem IsNearest.of_mul {k : Nat} (hk : 0 < k) (h : IsNearest u (num * k) (den * k)) :
    IsNearest u num den := by
  intro v hv
  have hscaled := h v hv
  rw [← Nat.mul_assoc, ← Nat.mul_assoc, Nat.dist_mul_right, Nat.dist_mul_right] at hscaled
  exact Nat.le_of_mul_le_mul_right hscaled hk

end IsNearest

/-! ## Rounded quotients -/

/-- How far doubles of the size of the quotient are apart. -/
def spacing (num den : Nat) : Nat := Nat.pow 2 (scaleOf (num / den))

def nearestUnits (num den : Nat) : Nat :=
  roundHalfEven num (den * spacing num den) * spacing num den

theorem IsDouble.multiple_or_below {v : Nat} (hv : IsDouble v) (num den : Nat) :
    (∃ k, v = k * spacing num den) ∨
      v ≤ 2 ^ 52 * spacing num den ∧ 2 ^ 52 * spacing num den * den ≤ num := by
  obtain ⟨m, s, hm, rfl⟩ := hv
  unfold spacing
  simp only [Nat.pow_eq]
  generalize hscale : scaleOf (num / den) = scale
  rcases Nat.lt_or_ge s scale with hlt | hge
  · refine Or.inr ⟨?_, ?_⟩
    · calc m * 2 ^ s ≤ 2 ^ 53 * 2 ^ s := Nat.mul_le_mul_right _ hm
        _ = 2 ^ 52 * 2 ^ (s + 1) := by ring
        _ ≤ 2 ^ 52 * 2 ^ scale :=
            Nat.mul_le_mul_left _ (Nat.pow_le_pow_right Nat.two_pos hlt)
    · have hlog : (num / den).log2 = 52 + scale := by
        unfold scaleOf at hscale
        omega
      have hsome : num / den ≠ 0 := by
        intro hzero
        rw [hzero, Nat.log2_zero] at hlog
        omega
      calc 2 ^ 52 * 2 ^ scale * den = 2 ^ (num / den).log2 * den := by rw [hlog, pow_add]
        _ ≤ num / den * den := Nat.mul_le_mul_right _ (Nat.log2_self_le hsome)
        _ ≤ num := Nat.div_mul_le_self num den
  · refine Or.inl ⟨m * 2 ^ (s - scale), ?_⟩
    rw [Nat.mul_assoc, ← pow_add, Nat.sub_add_cancel hge]

theorem isNearest_nearestUnits {num den : Nat} (hden : 0 < den) :
    IsNearest (nearestUnits num den) num den := by
  intro v hv
  have hgrid (k : Nat) :
      Nat.dist (nearestUnits num den * den) num ≤ Nat.dist (k * spacing num den * den) num := by
    have hstep : 0 < den * spacing num den := Nat.mul_pos hden (Nat.two_pow_pos _)
    rw [nearestUnits, Nat.mul_assoc, Nat.mul_assoc, Nat.mul_comm _ den]
    exact roundHalfEven_nearest hstep k
  rcases hv.multiple_or_below num den with ⟨k, rfl⟩ | ⟨hlow, hbelow⟩
  · exact hgrid k
  · -- The smallest mantissa at this distance is nearer than anything below it.
    refine Nat.le_trans (hgrid (2 ^ 52)) ?_
    have hfar := Nat.mul_le_mul_right den hlow
    unfold Nat.dist
    omega

/-! ## Doubles and their units -/

def Holds (b : Binary64) (u : Nat) : Prop :=
  ∃ m s, b = .finite false m s ∧ m * Nat.pow 2 s = u

theorem Holds.le_iff {a b : Binary64} {u v : Nat} (ha : Holds a u) (hb : Holds b v) :
    a ≤ b ↔ u ≤ v := by
  obtain ⟨m, s, rfl, rfl⟩ := ha
  obtain ⟨m', s', rfl, rfl⟩ := hb
  change decide (units false m s ≤ units false m' s') = true ↔ _
  rw [decide_eq_true_iff, units, units, if_neg Bool.false_ne_true, if_neg Bool.false_ne_true]
  exact_mod_cast Iff.rfl

theorem holds_zero : Holds zero 0 := ⟨0, 0, rfl, rfl⟩

theorem scaleOf_lt_maxScale {num den : Nat} (h : num ≤ mantissaBound * den) :
    scaleOf (num * unit / den) < maxScale := by
  obtain ⟨e, he, hunit⟩ := exists_unit_eq
  have hquotient : num * unit / den < 2 ^ (54 + e) := by
    apply Nat.lt_of_le_of_lt (m := 2 ^ (53 + e))
    · apply Nat.div_le_of_le_mul
      calc num * unit ≤ 2 ^ 53 * den * unit := Nat.mul_le_mul_right _ h
        _ = den * 2 ^ (53 + e) := by
            rw [hunit]
            ring
    · exact Nat.pow_lt_pow_right Nat.one_lt_two (by omega)
  have hlog : (num * unit / den).log2 < 54 + e ∨ num * unit / den = 0 := by
    by_cases hzero : num * unit / den = 0
    · exact Or.inr hzero
    · exact Or.inl ((Nat.log2_lt hzero).mpr hquotient)
  unfold scaleOf maxScale
  rcases hlog with hlog | hzero
  · omega
  · rw [hzero, Nat.log2_zero]
    omega

/-- A quotient that is not too large becomes the nearest double. -/
theorem exists_holds_ofQuotient {num den : Nat} (hden : 0 < den) (h : num ≤ mantissaBound * den) :
    ∃ u, Holds (ofQuotient false num den) u ∧ IsNearest u (num * unit) den := by
  refine ⟨nearestUnits (num * unit) den, ?_, isNearest_nearestUnits hden⟩
  have hscale := scaleOf_lt_maxScale h
  unfold ofQuotient nearestUnits spacing
  dsimp only
  generalize scaleOf (num * unit / den) = scale at hscale ⊢
  generalize roundHalfEven (num * unit) (den * Nat.pow 2 scale) = mantissa
  by_cases hcarried : mantissa = mantissaBound
  · simp only [if_pos hcarried]
    rw [if_neg (by omega), hcarried]
    refine ⟨mantissaBound / 2, scale + 1, rfl, ?_⟩
    calc mantissaBound / 2 * 2 ^ (scale + 1) = 2 ^ 52 * (2 ^ scale * 2) := by rw [pow_succ]; rfl
      _ = 2 ^ 53 * 2 ^ scale := by ring
  · simp only [if_neg hcarried]
    rw [if_neg (by omega)]
    exact ⟨mantissa, scale, rfl, rfl⟩

theorem holds_ofNat {n : Nat} (h : n ≤ mantissaBound) : Holds (ofNat n) (n * unit) := by
  obtain ⟨u, hu, hnearest⟩ := exists_holds_ofQuotient Nat.one_pos (h.trans_eq (Nat.mul_one _).symm)
  rw [hnearest.eq Nat.one_pos (isDouble_of_le h) (Nat.mul_one _)] at hu
  exact hu

section Arithmetic

theorem mul_finite (m s m' s' : Nat) :
    finite false m s * finite false m' s' =
      ofQuotient false (m * Nat.pow 2 s * (m' * Nat.pow 2 s')) (unit * unit) := by
  change Binary64.mul _ _ = _
  simp only [Binary64.mul, bne_self_eq_false]

theorem div_finite (m s m' s' : Nat) :
    finite false m s / finite false m' s' =
      if m' = 0 then (if m = 0 then nan else infinite false)
      else ofQuotient false (m * Nat.pow 2 s) (m' * Nat.pow 2 s') := (rfl)

variable {a b : Binary64} {x y : Nat}

theorem Holds.mul (ha : Holds a (x * unit)) (hb : Holds b (y * unit))
    (h : x * y ≤ mantissaBound) : Holds (a * b) (x * y * unit) := by
  obtain ⟨m, s, rfl, hm⟩ := ha
  obtain ⟨m', s', rfl, hm'⟩ := hb
  rw [mul_finite, hm, hm']
  have hpos := Nat.mul_pos unit_pos unit_pos
  have hprod : x * unit * (y * unit) = x * y * (unit * unit) := by ring
  have hle := Nat.mul_le_mul_right (unit * unit) h
  obtain ⟨u, hu, hnearest⟩ := exists_holds_ofQuotient hpos (hprod.trans_le hle)
  have hexact : x * y * unit * (unit * unit) = x * unit * (y * unit) * unit := by ring
  rw [hnearest.eq hpos (isDouble_of_le h) hexact] at hu
  exact hu

theorem Holds.div (ha : Holds a (x * unit)) (hb : Holds b (y * unit)) (hy : 0 < y)
    (h : x ≤ mantissaBound * y) : ∃ u, Holds (a / b) u ∧ IsNearest u (x * unit) y := by
  obtain ⟨m, s, rfl, hm⟩ := ha
  obtain ⟨m', s', rfl, hm'⟩ := hb
  have hpos := Nat.mul_pos hy unit_pos
  have hsome : m' ≠ 0 := by
    rintro rfl
    rw [Nat.zero_mul] at hm'
    exact Nat.ne_of_lt hpos hm'
  have hle : x * unit ≤ mantissaBound * (y * unit) :=
    (Nat.mul_le_mul_right unit h).trans_eq (Nat.mul_assoc ..)
  obtain ⟨u, hu, hnearest⟩ := exists_holds_ofQuotient hpos hle
  refine ⟨u, ?_, hnearest.of_mul unit_pos⟩
  rw [div_finite, if_neg hsome, hm, hm']
  exact hu

end Arithmetic

end SourceContract.Binary64
