import SourceContract.Proofs.Value.Reading
import SourceContract.Report.Markdown
import SourceContract.Verdict.Value

/-!
# Reports survive as values

A report that is written as a value is recovered from it, also from one whose maps are
in another order.  What was left out of a result because it says nothing is recovered
as what says nothing.
-/

namespace SourceContract

open Value

/-! ## Fields that may be left out -/

section LeftOut

variable {α : Type} {name : String} {written : List (String × Value)}

@[simp] theorem mem_fieldIf {present : Bool} {v : Value} {e : String × Value} :
    e ∈ fieldIf present name v ↔ present = true ∧ e = (name, v) := by
  cases present <;> simp [fieldIf]

@[simp] theorem mem_optionalField {write : α → Value} {o : Option α} {e : String × Value} :
    e ∈ optionalField name write o ↔ ∃ a, o = some a ∧ e = (name, write a) := by
  cases o <;> simp [optionalField]

theorem names_fieldIf (present : Bool) (name : String) (v : Value) :
    ((fieldIf present name v).map Prod.fst).Sublist [name] := by
  cases present <;> simp [fieldIf]

theorem names_optionalField (name : String) (write : α → Value) (o : Option α) :
    ((optionalField name write o).map Prod.fst).Sublist [name] := by
  cases o <;> simp [optionalField]

variable {read : Value → Except Mismatch α} {default a : α}

theorem Shape.recovers_fieldIf (present : Bool) {v : Value}
    (hin : present = true → (name, v) ∈ written)
    (hout : present = false → name ∉ written.map Prod.fst) (hread : Value.Recovers read v a)
    (hdefault : present = false → a = default) :
    (Shape.withDefault name read default).Recovers written a := by
  cases present with
  | true => exact Shape.recovers_withDefault (hin rfl) hread default
  | false =>
      rw [hdefault rfl]
      exact Shape.recovers_leftOut (hout rfl) default

theorem Shape.recovers_optionalField {write : α → Value} {o : Option α}
    (hin : ∀ a, o = some a → (name, write a) ∈ written)
    (hout : o = none → name ∉ written.map Prod.fst) (hnull : ∀ a, write a ≠ .null)
    (hread : ∀ a, Value.Recovers read (write a) a) :
    (Shape.withDefault name (asOption read) none).Recovers written o := by
  cases o with
  | none => exact Shape.recovers_leftOut (hout rfl) none
  | some a =>
      exact Shape.recovers_withDefault (hin a rfl) (recovers_option hnull hread (some a)) none

end LeftOut

/-! ## Tallies and issues -/

theorem Matching.Tally.recovers (t : Matching.Tally) :
    Recovers Matching.Tally.ofValue t.toValue t := by
  refine Shape.Recovers.record (.seq (.seq (.map _ ?_) ?_) ?_) ?_ _ _
  · exact Shape.recovers_required (by simp) (recovers_nat t.found)
  · exact Shape.recovers_required (by simp) (recovers_nat t.required)
  · exact Shape.recovers_fieldIf (!t.missing.isEmpty) (by simp) (by simp)
      (recovers_texts t.missing) (by simp)
  · have hnames := (names_fieldIf (!t.missing.isEmpty) "missing" (texts t.missing)).append_left
      ["found", "required"]
    exact hnames.nodup (by decide)

theorem IssueKind.recovers (k : IssueKind) : Recovers IssueKind.ofValue (.str k.name) k :=
  recovers_variant (by cases k <;> decide)

theorem Recommendation.recovers (r : Recommendation) :
    Recovers Recommendation.ofValue (.str r.name) r :=
  recovers_variant (by cases r <;> decide)

theorem Issue.recovers (i : Issue) : Recovers Issue.ofValue i.toValue i := by
  refine Shape.Recovers.record (.seq (.seq (.seq (.map _ ?_) ?_) ?_) ?_) (by simp) _ _
  · exact Shape.recovers_required (by simp) (recovers_text i.check)
  · exact Shape.recovers_required (by simp) i.kind.recovers
  · exact Shape.recovers_required (by simp) (recovers_text i.message)
  · exact Shape.recovers_required (by simp) (recovers_nat i.count)

/-! ## Results -/

theorem CheckResult.recovers (r : CheckResult) : Recovers CheckResult.ofValue r.toValue r := by
  have hvalue (n : Nat) : nat n ≠ .null := nofun
  have htally (t : Matching.Tally) : t.toValue ≠ .null := nofun
  have hissues : Recovers (asList Issue.ofValue) (.seq (r.issues.map Issue.toValue)) r.issues :=
    recovers_list fun i _ => i.recovers
  refine Shape.Recovers.record
    (.seq (.seq (.seq (.seq (.seq (.seq (.seq (.map _ ?_) ?_) ?_) ?_) ?_) ?_) ?_) ?_) ?_ _ _
  · exact Shape.recovers_required (by simp) (recovers_text r.name)
  · exact Shape.recovers_required (by simp) (recovers_text r.kind)
  · exact Shape.recovers_required (by simp) (recovers_bool r.passed)
  · exact Shape.recovers_required (by simp) (recovers_text r.message)
  · exact Shape.recovers_fieldIf r.informational (by simp) (by simp)
      (recovers_bool r.informational) id
  · exact Shape.recovers_optionalField (by simp +contextual) (by simp +contextual) hvalue
      recovers_nat
  · exact Shape.recovers_optionalField (by simp +contextual) (by simp +contextual) htally
      Matching.Tally.recovers
  · exact Shape.recovers_fieldIf (!r.issues.isEmpty) (by simp) (by simp) hissues
      (by simp)
  · -- Whatever is left out, the names are some of these.
    have hnames := (((names_fieldIf r.informational "informational" (.bool r.informational)).append
      (names_optionalField "value" nat r.value)).append
      (names_optionalField "tally" Matching.Tally.toValue r.tally)).append
      (names_fieldIf (!r.issues.isEmpty) "issues" (.seq (r.issues.map Issue.toValue)))
    have hall := hnames.append_left ["name", "kind", "passed", "message"]
    simp only [List.append_assoc] at hall
    simp only [List.map_append, List.append_assoc]
    exact hall.nodup (by decide)

/-! ## Reports -/

theorem RunStats.recovers (s : RunStats) : Recovers RunStats.ofValue s.toValue s := by
  refine Shape.Recovers.record
    (.seq (.seq (.seq (.seq (.seq (.seq (.seq (.map _ ?_) ?_) ?_) ?_) ?_) ?_) ?_) ?_) (by simp) _ _
  · exact Shape.recovers_required (by simp) (recovers_nat s.total)
  · exact Shape.recovers_required (by simp) (recovers_nat s.passed)
  · exact Shape.recovers_required (by simp) (recovers_nat s.failed)
  · exact Shape.recovers_required (by simp) (recovers_float s.passRate)
  · exact Shape.recovers_required (by simp) (recovers_nat s.issueCount)
  · exact Shape.recovers_required (by simp) (recovers_nat s.filesInspected)
  · exact Shape.recovers_required (by simp) (recovers_nat s.filesMissing)
  · exact Shape.recovers_withDefault (by simp) (recovers_nat s.informational) 0

theorem RunReport.recovers (r : RunReport) : Recovers RunReport.ofValue r.toValue r := by
  refine Shape.Recovers.record
    (.seq (.seq (.seq (.seq (.seq (.map _ ?_) ?_) ?_) ?_) ?_) ?_) (by simp) _ _
  · exact Shape.recovers_required (by simp) (recovers_text r.contract)
  · exact Shape.recovers_required (by simp) (recovers_list fun result _ => result.recovers)
  · exact Shape.recovers_required (by simp) (recovers_list fun i _ => i.recovers)
  · exact Shape.recovers_required (by simp) r.stats.recovers
  · exact Shape.recovers_required (by simp) r.recommendation.recovers
  · exact Shape.recovers_withDefault (by simp) (recovers_bool r.cancelled) false

/-- The report of a run is read back from its value, so whatever is shown of it stays the same. -/
theorem report_survives_as_value (contract : String) (results : List CheckResult)
    (corpus : CorpusStats) (cancelled : Bool) {v : Value}
    (h : (RunReport.aggregate contract results corpus cancelled).toValue.Alike v) :
    ∃ decoded, RunReport.ofValue v = .ok decoded ∧
      decoded = .aggregate contract results corpus cancelled ∧
      (∀ c root generatedAt, Markdown.render decoded c root generatedAt
        = Markdown.render (.aggregate contract results corpus cancelled) c root generatedAt) ∧
      (∀ c, measurementRows decoded c
        = measurementRows (.aggregate contract results corpus cancelled) c) ∧
      decoded.allPassed = (RunReport.aggregate contract results corpus cancelled).allPassed := by
  have hread := RunReport.recovers (.aggregate contract results corpus cancelled) v h
  exact ⟨_, hread, rfl, fun _ _ _ => rfl, fun _ => rfl, rfl⟩

theorem report_survives_as_value_in_reverse :
    let results : List CheckResult :=
      [⟨"api", "interface", false, "", false, none, some ⟨1, 2, ["open"]⟩,
        [⟨"api", .partialMatch, "open", 1⟩]⟩,
       ⟨"todos", "count", true, "", true, some 3, none, []⟩]
    let r := RunReport.aggregate "demo" results ⟨2, 0⟩ false
    let reversed := record [("cancelled", .bool r.cancelled),
      ("recommendation", .str r.recommendation.name), ("stats", r.stats.toValue),
      ("issues", .seq (r.issues.map Issue.toValue)),
      ("results", .seq (r.results.map CheckResult.toValue)), ("contract", .str r.contract)]
    r.toValue.Alike reversed ∧ ∃ decoded, RunReport.ofValue reversed = .ok decoded ∧
      decoded = r ∧
      (∀ c root generatedAt, Markdown.render decoded c root generatedAt
        = Markdown.render r c root generatedAt) ∧
      (∀ c, measurementRows decoded c = measurementRows r c) ∧
      decoded.allPassed = r.allPassed := by
  intro results r reversed
  have halike : r.toValue.Alike reversed := alike_of_perm (List.reverse_perm _).symm
  exact ⟨halike, report_survives_as_value "demo" results ⟨2, 0⟩ false halike⟩

end SourceContract
