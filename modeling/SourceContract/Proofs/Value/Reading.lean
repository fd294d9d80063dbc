import Mathlib.Data.List.Perm.Basic
import SourceContract.Value.Read

/-!
# Reading what was written

A map means the same in whatever order its entries stand.  A reader recovers what was
written when it takes every such value for it; records are recovered field by field,
and a field that was left out is recovered as its default.
-/

namespace SourceContract

namespace Value

variable {α : Type}

/-! ## Values in another order -/

/-- The same value, but for the order in which maps list their entries. -/
inductive Alike : Value → Value → Prop where
  | refl (v : Value) : Alike v v
  | seq {items others : List Value} (h : List.Forall₂ Alike items others) :
      Alike (.seq items) (.seq others)
  | map {entries shuffled others : List (Key × Value)} (hshuffled : entries.Perm shuffled)
      (hkeys : others.map Prod.fst = shuffled.map Prod.fst)
      (hvalues : List.Forall₂ Alike (shuffled.map Prod.snd) (others.map Prod.snd)) :
      Alike (.map entries) (.map others)

theorem alike_of_perm {entries shuffled : List (Key × Value)} (h : entries.Perm shuffled) :
    Alike (.map entries) (.map shuffled) :=
  .map h rfl (List.forall₂_same.mpr fun v _ => .refl v)

theorem Alike.of_seq {items : List Value} {v : Value} (h : Alike (.seq items) v) :
    ∃ others, v = .seq others ∧ List.Forall₂ Alike items others := by
  cases h with
  | refl => exact ⟨items, rfl, List.forall₂_same.mpr fun v _ => .refl v⟩
  | seq h => exact ⟨_, rfl, h⟩

theorem Alike.null_iff {v v' : Value} (h : Alike v v') : v = .null ↔ v' = .null := by
  cases h <;> simp

theorem exists_map_of_perm {β : Type} {f : α → β} {xs : List α} {ys : List β}
    (h : (xs.map f).Perm ys) : ∃ zs, xs.Perm zs ∧ zs.map f = ys := by
  have hxs : List.Forall₂ (fun y x => y = f x) (xs.map f) xs := by
    rw [List.forall₂_map_left_iff]
    exact List.forall₂_same.mpr fun _ _ => rfl
  obtain ⟨zs, hzs, hperm⟩ := List.perm_comp_forall₂ h.symm hxs
  refine ⟨zs, hperm.symm, ?_⟩
  rw [← List.forall₂_map_right_iff, List.forall₂_eq_eq_eq] at hzs
  exact hzs.symm

theorem Alike.of_record {written : List (String × Value)} {v : Value}
    (h : Alike (record written) v) :
    ∃ named, v = record named ∧ (named.map Prod.fst).Perm (written.map Prod.fst) ∧
      ∀ e ∈ written, ∃ v, (e.1, v) ∈ named ∧ Alike e.2 v := by
  cases h with
  | refl => exact ⟨written, rfl, .refl _, fun e he => ⟨e.2, he, .refl e.2⟩⟩
  | @map _ _ others hshuffled hkeys hvalues =>
      obtain ⟨ordered, hordered, rfl⟩ := exists_map_of_perm hshuffled
      rw [List.map_map] at hkeys hvalues
      suffices hnamed : ∃ named : List (String × Value),
          others = named.map (fun e => (.name e.1, e.2)) ∧
          named.map Prod.fst = ordered.map Prod.fst ∧
          ∀ e ∈ ordered, ∃ v, (e.1, v) ∈ named ∧ Alike e.2 v by
        obtain ⟨named, rfl, hnames, halike⟩ := hnamed
        refine ⟨named, rfl, ?_, fun e he => halike e (hordered.mem_iff.mp he)⟩
        rw [hnames]
        exact (hordered.map Prod.fst).symm
      clear hshuffled hordered
      induction ordered generalizing others with
      | nil =>
          obtain rfl := List.map_eq_nil_iff.mp hkeys
          exact ⟨[], rfl, rfl, List.forall_mem_nil _⟩
      | cons e rest ih =>
          obtain ⟨⟨key, v⟩, others, rfl, rfl, hrest⟩ := List.map_eq_cons_iff.mp hkeys
          obtain ⟨halike, hvalues⟩ := List.forall₂_cons.mp hvalues
          obtain ⟨named, rfl, hnames, hall⟩ := ih hrest hvalues
          refine ⟨(e.1, v) :: named, rfl, by simp [hnames], fun e' he' => ?_⟩
          rcases List.mem_cons.mp he' with rfl | he'
          · exact ⟨v, List.mem_cons_self, halike⟩
          · obtain ⟨v', hv', halike'⟩ := hall e' he'
            exact ⟨v', List.mem_cons_of_mem _ hv', halike'⟩

/-! ## Readers -/

/-- The reader takes every value alike to what was written for `a`. -/
def Recovers (read : Value → Except Mismatch α) (v : Value) (a : α) : Prop :=
  ∀ v', Alike v v' → read v' = .ok a

theorem recovers_text (s : String) : Recovers asText (.str s) s := by
  rintro _ ⟨⟩
  rfl

theorem recovers_bool (b : Bool) : Recovers asBool (.bool b) b := by
  rintro _ ⟨⟩
  rfl

theorem recovers_nat (n : Nat) : Recovers asNat (nat n) n := by
  rintro _ ⟨⟩
  rfl

theorem recovers_float (x : Binary64) : Recovers asFloat (.float x) x := by
  rintro _ ⟨⟩
  rfl

theorem recovers_variant {buffered : Bool} {known : List (String × α)} {name : String} {a : α}
    (h : known.find? (fun k => k.1 == name) = some (name, a)) :
    Recovers (asVariant buffered known) (.str name) a := by
  rintro _ ⟨⟩
  rw [asVariant, variantOf, h]

theorem recovers_option {read : Value → Except Mismatch α} {write : α → Value}
    (hnull : ∀ a, write a ≠ .null) (h : ∀ a, Recovers read (write a) a) :
    (o : Option α) → Recovers (asOption read) ((o.map write).getD .null) o
  | none => by
      rintro _ ⟨⟩
      rfl
  | some a => by
      intro v hv
      have hsome : v ≠ .null := fun hnone => hnull a (hv.null_iff.mpr hnone)
      rw [asOption, h a v hv]
      · rfl
      · exact hsome

theorem recovers_optionalText (o : Option String) :
    Recovers (asOption asText) (optionalText o) o := by
  have h := recovers_option (fun _ => by simp) recovers_text o
  cases o <;> exact h

theorem recovers_list {read : Value → Except Mismatch α} {write : α → Value} {as : List α}
    (h : ∀ a ∈ as, Recovers read (write a) a) :
    Recovers (asList read) (.seq (as.map write)) as := by
  intro v hv
  obtain ⟨others, rfl, hothers⟩ := hv.of_seq
  clear hv
  rw [asList]
  induction as generalizing others with
  | nil =>
      cases hothers
      rfl
  | cons a rest ih =>
      obtain ⟨v, others, halike, hrest, rfl⟩ := List.forall₂_cons_left_iff.mp hothers
      rw [List.mapM_cons, h a List.mem_cons_self v halike,
        ih (fun a ha => h a (List.mem_cons_of_mem _ ha)) others hrest]
      rfl

theorem recovers_texts (ss : List String) : Recovers asTexts (texts ss) ss :=
  recovers_list fun s _ => recovers_text s

/-! ## Fields -/

/-- Every written field is found, with a value alike, and no other field is. -/
structure Finds (look : String → Option Value) (written : List (String × Value)) : Prop where
  alike : ∀ e ∈ written, ∃ v, look e.1 = some v ∧ Alike e.2 v
  only : ∀ name, look name ≠ none → name ∈ written.map Prod.fst

theorem lookup_eq_of_mem {named : List (String × Value)} (hnodup : (named.map Prod.fst).Nodup)
    {e : String × Value} (he : e ∈ named) : named.lookup e.1 = some e.2 := by
  obtain ⟨front, back, rfl⟩ := List.append_of_mem he
  refine List.lookup_eq_some_iff.mpr ⟨front, back, rfl, fun other hother => ?_⟩
  rw [List.map_append, List.nodup_append] at hnodup
  have hne := hnodup.2.2 other.1 (List.mem_map_of_mem hother) e.1 (by simp)
  simpa using hne.symm

theorem finds_lookup {named written : List (String × Value)}
    (hnodup : (named.map Prod.fst).Nodup)
    (hnames : ∀ name, name ∈ named.map Prod.fst → name ∈ written.map Prod.fst)
    (halike : ∀ e ∈ written, ∃ v, (e.1, v) ∈ named ∧ Alike e.2 v) :
    Finds (fun name => named.lookup name) written where
  alike e he := by
    obtain ⟨v, hv, hlike⟩ := halike e he
    exact ⟨v, lookup_eq_of_mem hnodup hv, hlike⟩
  only name hname := by
    obtain ⟨v, hv⟩ := Option.ne_none_iff_exists'.mp hname
    obtain ⟨front, back, rfl, -⟩ := List.lookup_eq_some_iff.mp hv
    exact hnames name (by simp)

end Value

namespace Shape

open Value

variable {α β : Type} {written named : List (String × Value)}

def Recovers (s : Shape Value Mismatch α) (written : List (String × Value)) (a : α) : Prop :=
  ∀ look, Finds look written → s.build look = .ok a ∧
    ∀ f ∈ s.fields, ∀ v, look f.name = some v → f.check v = .ok ()

theorem Recovers.map {s : Shape Value Mismatch α} {a : α} (f : α → β) (h : s.Recovers written a) :
    (f <$> s).Recovers written (f a) := by
  intro look hlook
  obtain ⟨hbuild, hchecks⟩ := h look hlook
  refine ⟨?_, hchecks⟩
  change (s.build look).map f = _
  rw [hbuild]
  rfl

theorem Recovers.seq {f : Shape Value Mismatch (α → β)} {s : Shape Value Mismatch α} {g : α → β}
    {a : α} (hf : f.Recovers written g) (hs : s.Recovers written a) :
    (f <*> s).Recovers written (g a) := by
  intro look hlook
  obtain ⟨hbuild, hchecks⟩ := hf look hlook
  obtain ⟨hbuild', hchecks'⟩ := hs look hlook
  constructor
  · change (do
      let g ← f.build look
      let a ← s.build look
      return g a : Except Mismatch β) = _
    rw [hbuild, hbuild']
    rfl
  · intro field hfield
    rcases List.mem_append.mp hfield with h | h
    · exact hchecks field h
    · exact hchecks' field h

section Field

variable {name : String} {read : Value → Except Mismatch α} {v : Value} {a : α}

theorem recovers_required (h : (name, v) ∈ written) (hread : Value.Recovers read v a) :
    (required name read).Recovers written a := by
  intro look hlook
  obtain ⟨v', hv', halike⟩ := hlook.alike _ h
  refine ⟨by simp only [required, hv', hread v' halike], ?_⟩
  rintro f hf v'' hv''
  obtain rfl := List.mem_singleton.mp hf
  obtain rfl := Option.some.inj (hv'.symm.trans hv'')
  simp only [hread v' halike]
  rfl

theorem recovers_withDefault (h : (name, v) ∈ written) (hread : Value.Recovers read v a)
    (default : α) : (withDefault name read default).Recovers written a := by
  intro look hlook
  obtain ⟨v', hv', halike⟩ := hlook.alike _ h
  refine ⟨by simp only [withDefault, hv', hread v' halike], ?_⟩
  rintro f hf v'' hv''
  obtain rfl := List.mem_singleton.mp hf
  obtain rfl := Option.some.inj (hv'.symm.trans hv'')
  simp only [hread v' halike]
  rfl

theorem recovers_leftOut (h : name ∉ written.map Prod.fst) (a : α) :
    (withDefault name read a).Recovers written a := by
  intro look hlook
  have hnone : look name = none := by
    by_contra hsome
    exact h (hlook.only name hsome)
  refine ⟨by simp only [withDefault, hnone], ?_⟩
  rintro f hf v hv
  obtain rfl := List.mem_singleton.mp hf
  rw [hnone] at hv
  contradiction

end Field

/-! ## Records -/

def keyed (named : List (String × Value)) : List (Except Mismatch (Option String) × Value) :=
  named.map fun e => (.ok (some e.1), e.2)

theorem sourceOf?_keyed (named : List (String × Value)) (name : String) :
    sourceOf? (keyed named) name = named.lookup name := by
  induction named with
  | nil => rfl
  | cons e rest ih =>
      rw [List.lookup_cons, ← ih]
      by_cases h : e.1 = name
      · simp [keyed, sourceOf?, h]
      · simp [keyed, sourceOf?, h, beq_false_of_ne (Ne.symm h)]

theorem checkEntries_keyed {s : Shape Value Mismatch α} {other : Value → Except Mismatch Unit}
    (hother : ∀ v, other v = .ok ()) (hnodup : (named.map Prod.fst).Nodup)
    (hchecks : ∀ f ∈ s.fields, ∀ v, (f.name, v) ∈ named → f.check v = .ok ()) {seen : List String}
    (hseen : ∀ name ∈ named.map Prod.fst, name ∉ seen) :
    s.checkEntries other seen (keyed named) = .ok () := by
  induction named generalizing seen with
  | nil => rfl
  | cons e rest ih =>
      obtain ⟨hnew, hnodup⟩ := List.nodup_cons.mp hnodup
      have hchecks' : ∀ f ∈ s.fields, ∀ v, (f.name, v) ∈ rest → f.check v = .ok () :=
        fun f hf v hv => hchecks f hf v (List.mem_cons_of_mem _ hv)
      have hseen' : ∀ name ∈ rest.map Prod.fst, name ∉ seen := fun name hname =>
        hseen name (List.mem_cons_of_mem _ hname)
      rw [keyed, List.map_cons, ← keyed, checkEntries]
      simp only [bind, Except.bind]
      cases hfield : s.fieldOf? (some e.1) with
      | none =>
          simp only [hother]
          exact ih hnodup hchecks' hseen'
      | some field =>
          have hname : field.name = e.1 := by simpa using List.find?_some hfield
          have hfresh : field.name ∉ seen := hname ▸ hseen e.1 List.mem_cons_self
          have hcheck : field.check e.2 = .ok () :=
            hchecks field (List.mem_of_find?_eq_some hfield) e.2 (by simp [hname])
          simp only [List.contains_iff_mem, hfresh, if_false, hcheck]
          refine ih hnodup hchecks' fun name hmem hin => ?_
          rcases List.mem_cons.mp hin with rfl | hin
          · exact hnew (hname ▸ hmem)
          · exact hseen' name hmem hin

theorem Recovers.ofEntries {s : Shape Value Mismatch α} {a : α} (h : s.Recovers written a)
    {other : Value → Except Mismatch Unit} (hother : ∀ v, other v = .ok ())
    (hnodup : (named.map Prod.fst).Nodup) (hfinds : Finds (fun name => named.lookup name) written) :
    s.ofEntries other (keyed named) = .ok a := by
  obtain ⟨hbuild, hchecks⟩ := h _ hfinds
  have hentries : s.checkEntries other [] (keyed named) = .ok () := by
    refine checkEntries_keyed hother hnodup (fun f hf v hv => ?_) (by simp)
    exact hchecks f hf v (lookup_eq_of_mem hnodup hv)
  rw [Shape.ofEntries, hentries, funext (sourceOf?_keyed named)]
  exact hbuild

theorem Recovers.record {s : Shape Value Mismatch α} {a : α} (h : s.Recovers written a)
    (hnodup : (written.map Prod.fst).Nodup) (buffered : Bool) (type : String) :
    Value.Recovers (asRecord buffered type s) (.record written) a := by
  intro v hv
  obtain ⟨named, rfl, hnames, halike⟩ := hv.of_record
  have hkeyed : recordEntries s (named.map fun e => (.name e.1, e.2)) = keyed named := by
    rw [recordEntries, List.map_map]
    rfl
  have hnodup' := hnames.nodup_iff.mpr hnodup
  have hfinds := finds_lookup hnodup' (fun name => hnames.mem_iff.mp) halike
  change s.ofEntries _ (recordEntries s (named.map fun e => (.name e.1, e.2))) = _
  rw [hkeyed]
  exact h.ofEntries (fun _ => rfl) hnodup' hfinds

end Shape

end SourceContract
