import SourceContract.Contract.Validate

/-!
# What validation says

A contract is accepted exactly when its checks have names that differ and are not
blank, nothing is wrong with any of them, and every key interface refers to one of
them.  A fault that is reported is the fault of a check, or of a key interface.
-/

namespace SourceContract

/-! ## Checks -/

theorem Check.fault?_eq_none_iff {c : Check} :
    c.fault? = none ↔
      c.requirement.emptyPart? = none ∧ c.requirement.searchFault? c.name = none := by
  unfold fault?
  cases c.requirement.emptyPart? with
  | none => simp
  | some part => simp

theorem checksFault?_eq_none_iff {seen : List String} {checks : List Check} :
    checksFault? seen checks = none ↔
      (∀ c ∈ checks, isBlank c.name = false ∧ c.name ∉ seen ∧ c.fault? = none) ∧
        (checks.map Check.name).Nodup := by
  induction checks generalizing seen with
  | nil => simp [checksFault?]
  | cons c rest ih =>
      rw [checksFault?, List.map_cons, List.nodup_cons, List.forall_mem_cons]
      by_cases hblank : isBlank c.name = true
      · simp [hblank]
      rw [if_neg hblank]
      by_cases hseen : c.name ∈ seen
      · simp [hseen]
      rw [if_neg (by simpa using hseen), Option.or_eq_none_iff, ih]
      simp only [List.mem_map, List.mem_cons, not_or]
      grind

theorem exists_of_checksFault?_eq_some {seen : List String} {checks : List Check}
    {fault : ContractFault} (h : checksFault? seen checks = some fault) :
    ∃ before c after, checks = before ++ c :: after ∧
      (fault = .emptyName ∨ fault = .duplicateName c.name ∨ c.fault? = some fault) := by
  induction checks generalizing seen with
  | nil => contradiction
  | cons c rest ih =>
      rw [checksFault?] at h
      split at h
      next => exact ⟨[], c, rest, rfl, Or.inl (Option.some.inj h).symm⟩
      next =>
        split at h
        next => exact ⟨[], c, rest, rfl, Or.inr (Or.inl (Option.some.inj h).symm)⟩
        next =>
          rcases Option.or_eq_some_iff.mp h with hfirst | ⟨-, hrest⟩
          · exact ⟨[], c, rest, rfl, Or.inr (Or.inr hfirst)⟩
          · obtain ⟨before, c', after, rfl, hfault⟩ := ih hrest
            exact ⟨c :: before, c', after, rfl, hfault⟩

/-! ## Contracts -/

namespace Contract

structure Valid (c : Contract) : Prop where
  named : ∀ k ∈ c.checks, isBlank k.name = false
  distinct : (c.checks.map Check.name).Nodup
  faultless : ∀ k ∈ c.checks, k.fault? = none
  known : ∀ key ∈ c.report.keyInterfaces, ∃ k ∈ c.checks, k.name = key.check

theorem validate_eq_ok_iff (c : Contract) : c.validate = .ok () ↔ c.Valid := by
  have hvalidate : c.validate = .ok () ↔ c.fault? = none := by
    unfold validate
    cases c.fault? <;> simp
  have hkeys : c.report.keyInterfaces.findSome? (keyFault? c.checks) = none ↔
      ∀ key ∈ c.report.keyInterfaces, ∃ k ∈ c.checks, k.name = key.check := by
    simp [keyFault?]
  rw [hvalidate, fault?, Option.or_eq_none_iff, checksFault?_eq_none_iff, hkeys]
  constructor
  · rintro ⟨⟨hchecks, hdistinct⟩, hknown⟩
    exact ⟨fun k hk => (hchecks k hk).1, hdistinct, fun k hk => (hchecks k hk).2.2, hknown⟩
  · rintro ⟨hnamed, hdistinct, hfaultless, hknown⟩
    exact ⟨⟨fun k hk => ⟨hnamed k hk, List.not_mem_nil, hfaultless k hk⟩, hdistinct⟩, hknown⟩

theorem Valid.filter_name {c : Contract} (valid : c.Valid) {k : Check} (hk : k ∈ c.checks) :
    (c.checks.filter fun other => other.name == k.name) = [k] := by
  have hdistinct := valid.distinct
  generalize c.checks = checks at hk hdistinct
  induction checks with
  | nil => contradiction
  | cons first rest ih =>
      rw [List.map_cons, List.nodup_cons] at hdistinct
      rcases List.mem_cons.mp hk with rfl | hrest
      · have hnone : (rest.filter fun other => other.name == k.name) = [] := by
          simp only [List.filter_eq_nil_iff, beq_iff_eq]
          exact fun other hother heq => hdistinct.1 (heq ▸ List.mem_map_of_mem hother)
        rw [List.filter_cons_of_pos (by simp), hnone]
      · have hne : ¬ first.name = k.name := fun heq =>
          hdistinct.1 (heq ▸ List.mem_map_of_mem hrest)
        rw [List.filter_cons_of_neg (by simpa using hne), ih hrest hdistinct.2]

theorem Valid.check?_name {c : Contract} (valid : c.Valid) {k : Check} (hk : k ∈ c.checks) :
    c.check? k.name = some k := by
  rw [check?, ← List.head?_filter, valid.filter_name hk, List.head?_cons]

theorem exists_of_validate_eq_error {c : Contract} {fault : ContractFault}
    (h : c.validate = .error fault) :
    (∃ before k after, c.checks = before ++ k :: after ∧
        (fault = .emptyName ∨ fault = .duplicateName k.name ∨ k.fault? = some fault)) ∨
      ∃ key ∈ c.report.keyInterfaces, fault = .unknownCheck key.label key.check := by
  have hfault : c.fault? = some fault := by
    unfold validate at h
    cases hfault : c.fault? with
    | none => simp [hfault] at h
    | some found => simpa [hfault] using h
  rcases Option.or_eq_some_iff.mp hfault with hchecks | ⟨-, hkeys⟩
  · exact Or.inl (exists_of_checksFault?_eq_some hchecks)
  · obtain ⟨key, hkey, hunknown⟩ := List.exists_of_findSome?_eq_some hkeys
    unfold keyFault? at hunknown
    split at hunknown
    next => contradiction
    next => exact Or.inr ⟨key, hkey, (Option.some.inj hunknown).symm⟩

end Contract

end SourceContract
