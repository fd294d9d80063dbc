import Mathlib.Data.List.Nodup
import SourceContract.Contract.Value
import SourceContract.Proofs.Value.Reading

/-!
# Contracts survive as values

A contract that is written as a value is recovered from it, also from one whose maps are
in another order.  The fields of a check and those of its requirement stand in one map:
they are told apart because no name belongs to both.
-/

namespace SourceContract

open Value

/-! ## Choices and file sets -/

theorem Matching.MatchMode.recovers (mode : Matching.MatchMode) :
    Recovers (asVariant false Matching.MatchMode.names) (.str (nameOf Matching.MatchMode.names mode))
      mode :=
  recovers_variant (by cases mode <;> decide)

theorem CountUnit.recovers (unit : CountUnit) :
    Recovers Requirement.asCountUnit (.str (nameOf CountUnit.names unit)) unit :=
  recovers_variant (by cases unit <;> decide)

theorem TokenRule.recovers (buffered : Bool) (rule : TokenRule) :
    Recovers (Requirement.asTokenRule buffered) rule.toValue rule := by
  refine Shape.Recovers.record (.seq (.seq (.map _ ?_) ?_) ?_) (by simp) _ _
  · exact Shape.recovers_required (by simp) (recovers_text rule.file)
  · exact Shape.recovers_required (by simp) (recovers_texts rule.anyOf)
  · exact Shape.recovers_withDefault (by simp) (recovers_nat rule.minCount) _

theorem FileSet.recovers (files : FileSet) :
    Recovers Requirement.asFileSet files.toValue files := by
  intro v hv
  cases files with
  | paths ps => rw [Requirement.asFileSet, recovers_texts ps v hv]
  | walk dir glob =>
      have hwalk : Recovers (asRecord true "FileSet" Requirement.walkShape)
          (record [("dir", .str dir), ("glob", .str glob)]) (.walk dir glob) := by
        refine Shape.Recovers.record (.seq (.map _ ?_) ?_) (by simp) _ _
        · exact Shape.recovers_required (by simp) (recovers_text dir)
        · exact Shape.recovers_withDefault (by simp) (recovers_text glob) _
      have hread := hwalk v hv
      obtain ⟨named, rfl, -⟩ := hv.of_record
      -- A map is not a list of paths, so it is read as a walk.
      have hpaths : asTexts (record named) = .error (.invalidType .map "a sequence") := rfl
      rw [Requirement.asFileSet, hpaths]
      simp only [hread]

/-! ## Requirements -/

theorem checkShape_names :
    dialect.checkShape.names = ["name", "description", "informational"] := rfl

namespace Requirement

theorem recovers_shape (r : Requirement) :
    ∃ shape, variantOf shapes (.name r.kind) = .ok shape ∧ shape.Recovers r.entries r := by
  cases r with
  | present paths =>
      refine ⟨_, rfl, .map _ ?_⟩
      exact Shape.recovers_required (by simp [entries]) (recovers_texts paths)
  | interface owner declaration implementation methods =>
      refine ⟨_, rfl, .seq (.seq (.seq (.map _ ?_) ?_) ?_) ?_⟩
      · exact Shape.recovers_required (by simp [entries]) (recovers_text owner)
      · exact Shape.recovers_required (by simp [entries]) (recovers_text declaration)
      · exact Shape.recovers_required (by simp [entries]) (recovers_text implementation)
      · exact Shape.recovers_required (by simp [entries]) (recovers_texts methods)
  | fields file owner names =>
      refine ⟨_, rfl, .seq (.seq (.map _ ?_) ?_) ?_⟩
      · exact Shape.recovers_required (by simp [entries]) (recovers_text file)
      · exact Shape.recovers_withDefault (by simp [entries]) (recovers_optionalText owner) _
      · exact Shape.recovers_required (by simp [entries]) (recovers_texts names)
  | paired file opening closing requireUsage =>
      refine ⟨_, rfl, .seq (.seq (.seq (.map _ ?_) ?_) ?_) ?_⟩
      · exact Shape.recovers_required (by simp [entries]) (recovers_text file)
      · exact Shape.recovers_required (by simp [entries]) (recovers_text opening)
      · exact Shape.recovers_required (by simp [entries]) (recovers_text closing)
      · exact Shape.recovers_withDefault (by simp [entries]) (recovers_bool requireUsage) _
  | threshold file ts min =>
      refine ⟨_, rfl, .seq (.seq (.map _ ?_) ?_) ?_⟩
      · exact Shape.recovers_required (by simp [entries]) (recovers_text file)
      · exact Shape.recovers_required (by simp [entries]) (recovers_texts ts)
      · exact Shape.recovers_withDefault (by simp [entries]) (recovers_nat min) _
  | forbidden token files require allowEmpty =>
      refine ⟨_, rfl, .seq (.seq (.seq (.map _ ?_) ?_) ?_) ?_⟩
      · exact Shape.recovers_required (by simp [entries]) (recovers_text token)
      · exact Shape.recovers_required (by simp [entries]) files.recovers
      · exact Shape.recovers_withDefault (by simp [entries]) (recovers_texts require) _
      · exact Shape.recovers_withDefault (by simp [entries]) (recovers_bool allowEmpty) _
  | tokens rules =>
      refine ⟨_, rfl, .map _ ?_⟩
      exact Shape.recovers_required (by simp [entries])
        (recovers_list fun rule _ => rule.recovers true)
  | patterns file ps minCount =>
      refine ⟨_, rfl, .seq (.seq (.map _ ?_) ?_) ?_⟩
      · exact Shape.recovers_required (by simp [entries]) (recovers_text file)
      · exact Shape.recovers_required (by simp [entries]) (recovers_texts ps)
      · exact Shape.recovers_withDefault (by simp [entries]) (recovers_nat minCount) _
  | count files ts unit =>
      refine ⟨_, rfl, .seq (.seq (.map _ ?_) ?_) ?_⟩
      · exact Shape.recovers_required (by simp [entries]) files.recovers
      · exact Shape.recovers_required (by simp [entries]) (recovers_texts ts)
      · exact Shape.recovers_withDefault (by simp [entries]) unit.recovers _

theorem nodup_names (r : Requirement) : (r.entries.map Prod.fst).Nodup := by
  cases r <;> simp [entries]

theorem names_disjoint (r : Requirement) :
    ("kind" :: dialect.checkShape.names).Disjoint (r.entries.map Prod.fst) := by
  cases r <;> simp [entries, checkShape_names]

theorem kindEntry_named {named : List (String × Value)} {v : Value}
    (hnodup : (named.map Prod.fst).Nodup) (h : ("kind", v) ∈ named) :
    kindEntry (named.map fun e => (.name e.1, e.2)) = .ok v := by
  obtain ⟨front, back, rfl⟩ := List.append_of_mem h
  rw [List.map_append, List.map_cons, List.nodup_middle, List.nodup_cons] at hnodup
  have hnone (part : List (String × Value))
      (hpart : ∀ e ∈ part, e ∈ front ++ back) :
      (part.map fun e => ((.name e.1 : Key), e.2)).filter (fun e => e.1 == .name "kind") = [] := by
    refine List.filter_eq_nil_iff.mpr fun e he hkind => ?_
    obtain ⟨e, hin, rfl⟩ := List.mem_map.mp he
    have hname : e.1 = "kind" := by simpa using hkind
    have hmem := List.mem_map_of_mem (f := Prod.fst) (hpart e hin)
    rw [hname, List.map_append] at hmem
    exact hnodup.1 hmem
  have hfront := hnone front fun e he => List.mem_append_left _ he
  have hback := hnone back fun e he => List.mem_append_right _ he
  rw [kindEntry, List.map_append, List.map_cons, List.filter_append, hfront,
    List.filter_cons_of_pos (by simp), hback]
  rfl

/-- The requirement is recovered from its fields and the kind, in whatever order they stand. -/
theorem ofEntries_named {named : List (String × Value)} (r : Requirement)
    (hnodup : (named.map Prod.fst).Nodup)
    (hnames : ∀ name ∈ named.map Prod.fst, name = "kind" ∨ name ∈ r.entries.map Prod.fst)
    (hkind : ("kind", .str r.kind) ∈ named)
    (halike : ∀ e ∈ r.entries, ∃ v, (e.1, v) ∈ named ∧ Alike e.2 v) :
    ofEntries (named.map fun e => (.name e.1, e.2)) = .ok r := by
  obtain ⟨shape, hshape, hrecovers⟩ := r.recovers_shape
  let rest := named.filter fun e => e.1 != "kind"
  have hrest : (named.map fun e => ((.name e.1 : Key), e.2)).filter (fun e => e.1 != .name "kind")
      = rest.map fun e => (.name e.1, e.2) := by
    rw [List.filter_map]
    congr 1
    refine List.filter_congr fun e _ => ?_
    rw [Function.comp_apply, Bool.eq_iff_iff]
    simp
  have hkeyed : recordEntries shape (rest.map fun e => (.name e.1, e.2)) = Shape.keyed rest := by
    rw [recordEntries, List.map_map]
    rfl
  have hnodup' : (rest.map Prod.fst).Nodup := hnodup.sublist (List.filter_sublist.map Prod.fst)
  have hfinds : Finds (fun name => rest.lookup name) r.entries := by
    refine finds_lookup hnodup' (fun name hname => ?_) fun e he => ?_
    · obtain ⟨e, he, rfl⟩ := List.mem_map.mp hname
      obtain ⟨hin, hne⟩ := List.mem_filter.mp he
      exact (hnames e.1 (List.mem_map_of_mem hin)).resolve_left (by simpa using hne)
    · obtain ⟨v, hv, hlike⟩ := halike e he
      have hne : e.1 ≠ "kind" := fun hkind =>
        r.names_disjoint (by simp [hkind]) (List.mem_map_of_mem he)
      exact ⟨v, List.mem_filter.mpr ⟨hv, by simpa using hne⟩, hlike⟩
  rw [ofEntries, kindEntry_named hnodup hkind]
  change (do
    let shape ← variantOf shapes (.name r.kind)
    shape.ofEntries (fun _ => .ok ()) (recordEntries shape _) : Except Mismatch Requirement) = _
  rw [hshape, hrest]
  change shape.ofEntries _ (recordEntries shape _) = _
  rw [hkeyed]
  exact hrecovers.ofEntries (fun _ => rfl) hnodup' hfinds

end Requirement

/-! ## Checks -/

theorem fieldOf?_eq_none_iff {σ ε α : Type} {s : Shape σ ε α} {name : String} :
    s.fieldOf? (some name) = none ↔ name ∉ s.names := by
  simp [Shape.fieldOf?, Shape.names]

theorem requirementEntries_keyed (named : List (String × Value)) :
    dialect.requirementEntries (Shape.keyed named)
      = .ok ((named.filter fun e => e.1 ∉ dialect.checkShape.names).map
          fun e => (.name e.1, e.2)) := by
  have hnamed : (Shape.keyed named).mapM (fun e => do return (← e.1, e.2))
      = (.ok (named.map fun e => (some e.1, e.2)) : Except Mismatch _) := by
    rw [Shape.keyed, List.mapM_map]
    exact List.mapM_pure
  have hrest : (named.map fun e => (some e.1, e.2)).filter
        (fun e => (dialect.checkShape.fieldOf? e.1).isNone)
      = (named.filter fun e => e.1 ∉ dialect.checkShape.names).map fun e => (some e.1, e.2) := by
    rw [List.filter_map]
    congr 1
    refine List.filter_congr fun e _ => ?_
    rw [Function.comp_apply, Bool.eq_iff_iff, Option.isNone_iff_eq_none, fieldOf?_eq_none_iff,
      decide_eq_true_iff]
  rw [Dialect.requirementEntries, hnamed]
  change List.mapM _ (List.filter _ _) = _
  rw [hrest, List.mapM_map]
  exact List.mapM_pure

theorem Check.recovers (c : Check) : Recovers Check.ofValue c.toValue c := by
  intro v hv
  obtain ⟨named, rfl, hperm, halike⟩ := hv.of_record
  have hdisjoint := c.requirement.names_disjoint
  rw [checkShape_names] at hdisjoint
  have hnodup : (named.map Prod.fst).Nodup := by
    rw [hperm.nodup_iff, List.map_append, List.nodup_append']
    refine ⟨by simp, c.requirement.nodup_names, fun name hname hin => hdisjoint ?_ hin⟩
    simp only [List.map_cons, List.map_nil, List.mem_cons] at hname ⊢
    tauto
  have hfinds := finds_lookup hnodup (fun name => hperm.mem_iff.mp) halike
  have hcheck : dialect.checkShape.ofEntries (fun s => (dialect.value s).map fun _ => ())
      (Shape.keyed named) = .ok (Check.mk c.name c.description c.informational) := by
    refine Shape.Recovers.ofEntries (.seq (.seq (.map _ ?_) ?_) ?_) (fun _ => rfl) hnodup hfinds
    · exact Shape.recovers_required (by simp) (recovers_text c.name)
    · exact Shape.recovers_withDefault (by simp) (recovers_optionalText c.description) _
    · exact Shape.recovers_withDefault (by simp) (recovers_bool c.informational) _
  have hrequirement : Requirement.ofEntries
      ((named.filter fun e => e.1 ∉ dialect.checkShape.names).map fun e => (.name e.1, e.2))
      = .ok c.requirement := by
    rw [checkShape_names]
    refine c.requirement.ofEntries_named (hnodup.sublist (List.filter_sublist.map Prod.fst)) ?_ ?_ ?_
    · intro name hname
      obtain ⟨e, he, rfl⟩ := List.mem_map.mp hname
      obtain ⟨hin, hnot⟩ := List.mem_filter.mp he
      have hwritten := hperm.mem_iff.mp (List.mem_map_of_mem hin)
      simp at hwritten hnot ⊢
      tauto
    · obtain ⟨v, hin, hlike⟩ := halike ("kind", .str c.kind) (by simp)
      cases hlike
      exact List.mem_filter.mpr ⟨hin, by simp⟩
    · intro e he
      obtain ⟨v, hin, hlike⟩ := halike e (List.mem_append_right _ he)
      refine ⟨v, List.mem_filter.mpr ⟨hin, ?_⟩, hlike⟩
      have hown := fun hname => hdisjoint (List.mem_cons_of_mem _ hname) (List.mem_map_of_mem he)
      simpa using hown
  have hkeyed : (named.map fun e => ((.name e.1 : Key), e.2)).map (fun e => (fieldName [] e.1, e.2))
      = Shape.keyed named := by
    rw [List.map_map]
    rfl
  change dialect.checkOfEntries
    ((named.map fun e => ((.name e.1 : Key), e.2)).map fun e => (fieldName [] e.1, e.2)) = _
  rw [hkeyed, Dialect.checkOfEntries, hcheck, requirementEntries_keyed]
  simp only [bind, Except.bind, hrequirement]

/-! ## Contracts -/

theorem KeyInterface.recovers (k : KeyInterface) :
    Recovers dialect.keyInterface k.toValue k := by
  refine Shape.Recovers.record (.seq (.map _ ?_) ?_) (by simp) _ _
  · exact Shape.recovers_required (by simp) (recovers_text k.label)
  · exact Shape.recovers_required (by simp) (recovers_text k.check)

theorem ReportSettings.recovers (r : ReportSettings) :
    Recovers dialect.report r.toValue r := by
  refine Shape.Recovers.record (.seq (.seq (.map _ ?_) ?_) ?_) (by simp) _ _
  · exact Shape.recovers_withDefault (by simp) (recovers_optionalText r.path) _
  · exact Shape.recovers_withDefault (by simp) (recovers_optionalText r.title) _
  · exact Shape.recovers_withDefault (by simp) (recovers_list fun k _ => k.recovers) _

theorem contract_survives_as_value (c : Contract) {v : Value} (h : c.toValue.Alike v) :
    Contract.ofValue v = .ok c := by
  suffices hread : Recovers Contract.ofValue c.toValue c from hread v h
  refine Shape.Recovers.record
    (.seq (.seq (.seq (.seq (.seq (.map _ ?_) ?_) ?_) ?_) ?_) ?_) (by simp) _ _
  · exact Shape.recovers_withDefault (by simp) (recovers_text c.version) _
  · exact Shape.recovers_withDefault (by simp) (recovers_text c.name) _
  · exact Shape.recovers_withDefault (by simp) (recovers_optionalText c.description) _
  · exact Shape.recovers_withDefault (by simp) c.matching.recovers _
  · exact Shape.recovers_withDefault (by simp) c.report.recovers _
  · exact Shape.recovers_withDefault (by simp) (recovers_list fun check _ => check.recovers) _

theorem contract_survives_as_value_in_reverse :
    let c : Contract := ⟨"1", "demo", none, .word, ⟨none, some "T", [⟨"API", "api"⟩]⟩,
      [⟨"no-tabs", some "tabs", true, .forbidden "\t" (.walk "src" "*.rs") ["//"] true⟩]⟩
    let reversed := record [("checks", .seq (c.checks.map Check.toValue)),
      ("report", c.report.toValue), ("identifier_matching", .str "word"), ("description", .null),
      ("name", .str "demo"), ("version", .str "1")]
    c.toValue.Alike reversed ∧ Contract.ofValue reversed = .ok c := by
  intro c reversed
  have halike : c.toValue.Alike reversed := alike_of_perm (List.reverse_perm _).symm
  exact ⟨halike, contract_survives_as_value c halike⟩

end SourceContract
