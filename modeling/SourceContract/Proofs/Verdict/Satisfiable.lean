import SourceContract.Proofs.Contract.Validate
import SourceContract.Proofs.Matching.Specimen
import SourceContract.Proofs.Verdict.Growth

/-!
# Checks that no text can satisfy

A check that asks for names and tokens should be one that some texts satisfy.  Validation
sees to it that there is something to be found, but does not ask what: the empty name and
the empty token are nowhere to be found.  They are all that can stand in the way.  Without
them there are texts in which everything is found often enough, in either mode.
-/

namespace SourceContract

open Matching

/-! ## Empty names and tokens -/

def OnlyEmpty (tokens : List String) : Prop := tokens ≠ [] ∧ ∀ token ∈ tokens, token = ""

theorem exists_ne_empty {tokens : List String} (hsome : tokens ≠ []) (h : ¬ OnlyEmpty tokens) :
    ∃ token ∈ tokens, token ≠ "" := by
  by_contra hnone
  push Not at hnone
  exact h ⟨hsome, hnone⟩

/-- Something has to be found, and all that would do is empty. -/
def Requirement.RequiresEmpty : Requirement → Prop
  | .interface _ _ _ methods => "" ∈ methods
  | .fields _ _ names => "" ∈ names
  | .threshold _ ts _ => OnlyEmpty ts
  | .tokens rules => ∃ rule ∈ rules, 0 < rule.minCount ∧ OnlyEmpty rule.anyOf
  | _ => False

def Requirement.specimen : Requirement → String
  | .interface _ _ _ methods => String.join (methods.map Matching.specimen)
  | .fields _ owner names => String.join (owner.toList ++ names.map Matching.specimen)
  | .threshold _ ts min => String.join (ts.map fun token => repeated token (min + 1))
  | .tokens rules =>
      String.join (rules.flatMap fun rule => rule.anyOf.map fun token =>
        repeated token rule.minCount)
  | _ => "."

namespace Check

variable {a : Answers} {mode : MatchMode} {c : Check}

/-! ## Texts that satisfy -/

theorem le_occurrences_of_part {token text : String} {tokens : List String} {n : Nat}
    (htoken : token ∈ tokens) (hne : token ≠ "") (hpart : IsPart (repeated token n) text) :
    n ≤ occurrences text tokens :=
  calc
    n ≤ count (repeated token n) token := le_count_repeated hne n
    _ ≤ count text token := hpart.count_le token
    _ ≤ occurrences text tokens := count_le_occurrences htoken text

theorem anyOf_ne_nil {rules : List TokenRule} {rule : TokenRule}
    (hpart : (Requirement.tokens rules).emptyPart? = none) (hrule : rule ∈ rules) :
    rule.anyOf ≠ [] := by
  intro hnone
  have hany : (rules.any fun r => r.anyOf.isEmpty) = true :=
    List.any_eq_true.mpr ⟨rule, hrule, List.isEmpty_iff.mpr hnone⟩
  simp [Requirement.emptyPart?, hany, List.ne_nil_of_mem hrule] at hpart

/-- Validation leaves no list without anything in it, so what is not empty there can be found. -/
theorem meets_of_specimen (hkind : c.requirement.asksForPresence = true)
    (hpart : c.requirement.emptyPart? = none) (hfull : ¬ c.requirement.RequiresEmpty)
    (h : ∀ path ∈ c.requiredFiles, a.read path = .ok c.requirement.specimen) :
    a.Meets mode c.requirement := by
  unfold requiredFiles at h
  cases hr : c.requirement with
  | present paths =>
      rw [hr] at h
      exact fun path hpath => ⟨_, h path hpath, show "." ≠ "" by decide⟩
  | interface owner declaration implementation methods =>
      rw [hr] at h hfull
      refine ⟨_, h declaration (by simp), _, h implementation (by simp), fun method hmethod => ?_⟩
      have hne : method ≠ "" := ne_of_mem_of_not_mem hmethod hfull
      have hstands := isPart_join (List.mem_map_of_mem (f := Matching.specimen) hmethod)
      exact ⟨containsIdentifier_of_specimen hne hstands mode, hasCall_of_specimen hne hstands mode⟩
  | fields file owner names =>
      rw [hr] at h hfull
      refine ⟨_, h file (by simp), fun _ => ⟨fun o ho => ?_, fun name hname => ?_⟩⟩
      · exact isPart_join (List.mem_append_left _ (by simp [ho]))
      · have hne : name ≠ "" := ne_of_mem_of_not_mem hname hfull
        have hlisted := List.mem_map_of_mem (f := Matching.specimen) hname
        have hstands := isPart_join (List.mem_append_right owner.toList hlisted)
        exact containsIdentifier_of_specimen hne hstands mode
  | threshold file tokens min =>
      rw [hr] at h hfull hpart
      have hsome : tokens ≠ [] := by
        rintro rfl
        contradiction
      obtain ⟨token, htoken, hne⟩ := exists_ne_empty hsome hfull
      have hstands := isPart_join (List.mem_map_of_mem (f := fun t => repeated t (min + 1)) htoken)
      exact ⟨_, h file (by simp), le_occurrences_of_part htoken hne hstands⟩
  | tokens rules =>
      rw [hr] at h hfull hpart
      intro rule hrule
      refine ⟨_, h rule.file (mem_ruleFiles.mpr ⟨rule, hrule, rfl⟩), ?_⟩
      rcases Nat.eq_zero_or_pos rule.minCount with hzero | hpos
      · rw [hzero]
        exact Nat.zero_le _
      · obtain ⟨token, htoken, hne⟩ := exists_ne_empty (anyOf_ne_nil hpart hrule)
          fun honly => hfull ⟨rule, hrule, hpos, honly⟩
        refine le_occurrences_of_part htoken hne (isPart_join ?_)
        exact List.mem_flatMap.mpr ⟨rule, hrule, List.mem_map_of_mem htoken⟩
  | paired | forbidden | patterns | count =>
      rw [hr] at hkind
      contradiction

/-! ## Texts that do not -/

theorem containsIdentifier_empty (mode : MatchMode) (text : String) :
    containsIdentifier mode text "" = false := rfl

theorem not_meets_of_requiresEmpty {r : Requirement} (h : r.RequiresEmpty) : ¬ a.Meets mode r := by
  cases r with
  | interface owner declaration implementation methods =>
      rintro ⟨declared, -, implemented, -, hall⟩
      have hfound := (hall "" h).1
      rw [containsIdentifier_empty] at hfound
      contradiction
  | fields file owner names =>
      rintro ⟨text, -, hall⟩
      have hfound := (hall (List.ne_nil_of_mem h)).2 "" h
      rw [containsIdentifier_empty] at hfound
      contradiction
  | threshold file tokens min =>
      rintro ⟨text, -, hmin⟩
      rw [occurrences_eq_zero_of_empty h.2] at hmin
      exact absurd hmin (Nat.not_lt_zero min)
  | tokens rules =>
      obtain ⟨rule, hrule, hpos, honly⟩ := h
      intro hall
      obtain ⟨text, -, hmin⟩ := hall rule hrule
      rw [occurrences_eq_zero_of_empty honly.2] at hmin
      omega
  | present | paired | forbidden | patterns | count => contradiction

/-! ## Satisfiable checks -/

/-- There are texts with which the check passes: on every project that stays as it is and has them
in the files that the check names. -/
def Satisfiable (mode : MatchMode) (c : Check) : Prop :=
  ∃ texts : String → String, ∀ {σ : Type} (s : Source (StateM σ)) (w : σ), s.Steady w →
    (∀ path ∈ c.requiredFiles, (s.at w).read path = .ok (texts path)) →
      (c.alone s w mode).passed = true

theorem not_passed_of_requiresEmpty {σ : Type} {s : Source (StateM σ)} {w : σ} (still : s.Steady w)
    (h : c.requirement.RequiresEmpty) (mode : MatchMode) : (c.alone s w mode).passed = false := by
  rw [alone_eq still, ← Bool.not_eq_true, verdict_passed_iff_meets]
  exact not_meets_of_requiresEmpty h

theorem satisfiable_of_full (hkind : c.requirement.asksForPresence = true)
    (hpart : c.requirement.emptyPart? = none) (hfull : ¬ c.requirement.RequiresEmpty)
    (mode : MatchMode) : c.Satisfiable mode := by
  refine ⟨fun _ => c.requirement.specimen, fun s w still hread => ?_⟩
  rw [alone_eq still, verdict_passed_iff_meets]
  exact meets_of_specimen hkind hpart hfull hread

def filledWith (texts : String → String) : Source (StateM Unit) where
  read path := pure (.ok (texts path))
  list dir _ := pure (.error (.notFound dir))

theorem Satisfiable.not_requiresEmpty (h : c.Satisfiable mode) : ¬ c.requirement.RequiresEmpty := by
  obtain ⟨texts, hall⟩ := h
  have still : (filledWith texts).Steady () := ⟨fun _ => rfl, fun _ _ => rfl⟩
  intro hempty
  have hpassed := hall (filledWith texts) () still fun _ _ => rfl
  rw [not_passed_of_requiresEmpty still hempty mode] at hpassed
  contradiction

end Check

/-- Of the checks that ask for names and tokens, validation admits those that no text can satisfy
only where an empty one has to be found.  A check of an accepted contract that asks for something to
be there is satisfied by some texts in its files, unless all that would do is an empty name or an
empty token; and then it fails on every project. -/
theorem satisfiable_unless_empty_is_required {contract : Contract}
    (accepted : contract.validate = .ok ()) {c : Check} (hc : c ∈ contract.checks)
    (hkind : c.requirement.asksForPresence = true) (mode : MatchMode) :
    (c.Satisfiable mode ↔ ¬ c.requirement.RequiresEmpty) ∧
      (c.requirement.RequiresEmpty → ∀ {σ : Type} (s : Source (StateM σ)) (w : σ), s.Steady w →
        (c.alone s w mode).passed = false) := by
  have hfault := (contract.validate_eq_ok_iff.mp accepted).faultless c hc
  have hpart := (Check.fault?_eq_none_iff.mp hfault).1
  exact ⟨⟨Check.Satisfiable.not_requiresEmpty, fun hfull =>
      Check.satisfiable_of_full hkind hpart hfull mode⟩,
    fun hempty _ _ _ still => Check.not_passed_of_requiresEmpty still hempty mode⟩

/-- Names that contain each other, one without a side that asks for a boundary, and a rule whose
second alternative never counts. -/
theorem satisfiable_unless_empty_is_required_of_lists :
    let io : Check := ⟨"io", none, false, .interface "Io" "a.h" "a.h" ["open", "~open", "reopen"]⟩
    let rules : Check := ⟨"rules", none, false, .tokens [⟨"a.h", ["aa", ""], 3⟩, ⟨"a.h", [""], 0⟩]⟩
    io.Satisfiable .word ∧ io.Satisfiable .literal ∧ rules.Satisfiable .literal := by
  intro io rules
  let contract : Contract := { Contract.empty with checks := [io, rules] }
  have accepted : contract.validate = .ok () := by
    have hnone : contract.fault? = none := by decide +kernel
    rw [Contract.validate, hnone]
  have hio : ¬ io.requirement.RequiresEmpty := by
    change "" ∉ ["open", "~open", "reopen"]
    decide
  have hrules : ¬ rules.requirement.RequiresEmpty := by
    simp [rules, Requirement.RequiresEmpty, OnlyEmpty]
  have hsatisfiable (c : Check) (hc : c ∈ contract.checks)
      (hkind : c.requirement.asksForPresence = true) (mode : MatchMode) :=
    (satisfiable_unless_empty_is_required accepted hc hkind mode).1
  refine ⟨(hsatisfiable io (by simp [contract]) rfl .word).mpr hio, ?_, ?_⟩
  · exact (hsatisfiable io (by simp [contract]) rfl .literal).mpr hio
  · exact (hsatisfiable rules (by simp [contract]) rfl .literal).mpr hrules

/-- A contract is accepted although its only check counts an empty token, which no text holds. -/
theorem empty_token_is_accepted :
    let calls : Check := ⟨"calls", none, false, .threshold "a.h" [""] 0⟩
    let contract : Contract := { Contract.empty with checks := [calls] }
    contract.validate = .ok () ∧ ∀ mode, ¬ calls.Satisfiable mode := by
  intro calls contract
  have hnone : contract.fault? = none := by decide +kernel
  refine ⟨by rw [Contract.validate, hnone], fun mode hsatisfiable => ?_⟩
  exact hsatisfiable.not_requiresEmpty ⟨by simp, by simp⟩

end SourceContract
