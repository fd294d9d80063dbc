import SourceContract.Proofs.Corpus.Snapshot

/-!
# Answers that are known beforehand

What a corpus holds is never asked again, so the answers that it holds can be put into
a program before it is run.  Programs that are the same with these answers in them do
the same on the corpus, whatever they would do elsewhere.
-/

namespace SourceContract

variable {σ α β : Type}

/-- What the corpus holds for a path is what `known` has for it. -/
def Corpus.HeldBy (c : Corpus) (known : String → Option Entry) : Prop :=
  ∀ path e, c.find? path = some e → known path = some e

namespace Corpus.HeldBy

variable {c : Corpus} {known : String → Option Entry}

theorem refl (c : Corpus) : c.HeldBy c.find? := fun _ _ h => h

theorem of_add {path : String} {e : Entry} (hnew : c.find? path = none)
    (h : (c.add path e).HeldBy known) : c.HeldBy known ∧ known path = some e := by
  constructor
  · intro q entry hq
    have hne : q ≠ path := by
      rintro rfl
      rw [hnew] at hq
      contradiction
    apply h
    rw [find?_add, if_neg hne]
    exact hq
  · apply h
    rw [find?_add, if_pos rfl]

theorem to_add {path : String} (hnew : c.find? path = none) (e : Entry) :
    c.HeldBy (c.add path e).find? :=
  (of_add hnew (refl (c.add path e))).1

end Corpus.HeldBy

namespace Access

variable {known : String → Option Entry} {s : Source (StateM σ)}

/-! ## Runs in sequence -/

theorem run_seq (p : Access α) (f : α → Access β) (c : Corpus) (w : σ) :
    ((p >>= f).run s c).run w =
      let ran := (p.run s c).run w
      ((f ran.1.1).run s ran.1.2).run ran.2 := by
  induction p generalizing c w with
  | done a => rfl
  | load path next ih =>
      change ((load path fun e => next e >>= f).run s c).run w = _
      cases hfind : c.find? path with
      | some e =>
          simp only [run, hfind]
          exact ih e c w
      | none =>
          simp only [run, hfind, run_bind]
          exact ih _ _ _
  | list dir glob next ih =>
      change ((list dir glob fun found => next found >>= f).run s c).run w = _
      simp only [run, run_bind]
      exact ih _ _ _

theorem run_reaches (p : Access α) (c : Corpus) (w : σ) :
    let ran := (p.run s c).run w
    c.HeldBy ran.1.2.find? ∧ p.Reaches ran.1.2.find? ran.1.1 := by
  induction p generalizing c w with
  | done r => exact ⟨.refl c, .done r⟩
  | load path next ih =>
      cases hfind : c.find? path with
      | some e =>
          obtain ⟨hheld, hrest⟩ := ih e c w
          simp only [run, hfind]
          exact ⟨hheld, .load (hheld path e hfind) hrest⟩
      | none =>
          simp only [run, hfind, run_bind]
          obtain ⟨hheld, hrest⟩ := ih ((s.read path).run w).1
            (c.add path ((s.read path).run w).1) ((s.read path).run w).2
          obtain ⟨hold, hpath⟩ := Corpus.HeldBy.of_add hfind hheld
          exact ⟨hold, .load hpath hrest⟩
  | list dir glob next ih =>
      simp only [run, run_bind]
      obtain ⟨hheld, hrest⟩ := ih ((s.list dir glob).run w).1 c ((s.list dir glob).run w).2
      exact ⟨hheld, .list _ hrest⟩

/-! ## Putting answers in -/

/-- The program with the known answers put in.  It still asks for the other paths. -/
def given (known : String → Option Entry) : Access α → Access α
  | done a => done a
  | load path next =>
      match known path with
      | some e => (next e).given known
      | none => load path fun e => (next e).given known
  | list dir glob next => list dir glob fun found => (next found).given known

@[simp] theorem given_pure (a : α) : (pure a : Access α).given known = pure a := rfl

theorem given_bind (p : Access α) (f : α → Access β) :
    (p >>= f).given known = p.given known >>= fun a => (f a).given known := by
  induction p with
  | done a => rfl
  | load path next ih =>
      change (load path fun e => next e >>= f).given known = _
      cases hknown : known path with
      | some e =>
          simp only [given, hknown]
          exact ih e
      | none =>
          simp only [given, hknown, ih]
          rfl
  | list dir glob next ih =>
      change (list dir glob fun found => next found >>= f).given known = _
      simp only [given, ih]
      rfl

theorem given_text {path t : String} (h : known path = some (.ok t)) :
    (text path).given known = pure t := by
  simp only [text, entry, given_bind, given, h]
  rfl

theorem run_given (p : Access α) (c : Corpus) (h : ∀ path e, known path = some e →
    c.find? path = some e) (w : σ) :
    ((p.given known).run s c).run w = (p.run s c).run w := by
  induction p generalizing c w with
  | done a => rfl
  | load path next ih =>
      cases hknown : known path with
      | some e =>
          simp only [given, run, hknown, h path e hknown]
          exact ih e c h w
      | none =>
          simp only [given, hknown]
          cases hfind : c.find? path with
          | some e =>
              simp only [run, hfind]
              exact ih e c h w
          | none =>
              simp only [run, hfind, run_bind]
              -- The corpus has learnt a path, and still holds all that is known.
              apply ih
              intro q entry hq
              exact Corpus.HeldBy.to_add hfind _ q entry (h q entry hq)
  | list dir glob next ih =>
      simp only [given, run, run_bind]
      exact ih _ c h _

theorem reaches_given_iff (p : Access α) (r : α) :
    (p.given known).Reaches known r ↔ p.Reaches known r := by
  induction p with
  | done a => exact Iff.rfl
  | load path next ih =>
      cases hknown : known path with
      | some e =>
          simp only [given, hknown, ih]
          constructor
          · exact .load hknown
          · rintro (_ | ⟨hpath, hrest⟩)
            obtain rfl := Option.some.inj (hknown.symm.trans hpath)
            exact hrest
      | none =>
          simp only [given, hknown]
          constructor
          · rintro (_ | ⟨hpath, -⟩)
            rw [hknown] at hpath
            contradiction
          · rintro (_ | ⟨hpath, -⟩)
            rw [hknown] at hpath
            contradiction
  | list dir glob next ih =>
      constructor
      · rintro (_ | _ | ⟨found, hrest⟩)
        exact .list found ((ih found).mp hrest)
      · rintro (_ | _ | ⟨found, hrest⟩)
        exact .list found ((ih found).mpr hrest)

/-! ## Results that can be reached -/

theorem reaches_pure_iff {a r : α} : (pure a : Access α).Reaches known r ↔ r = a := by
  constructor
  · rintro ⟨⟩
    rfl
  · rintro rfl
    exact .done r

theorem reaches_bind_iff {p : Access α} {f : α → Access β} {r : β} :
    (p >>= f).Reaches known r ↔ ∃ a, p.Reaches known a ∧ (f a).Reaches known r := by
  induction p with
  | done a =>
      constructor
      · exact fun h => ⟨a, .done a, h⟩
      · rintro ⟨_, ⟨⟩, h⟩
        exact h
  | load path next ih =>
      constructor
      · rintro (_ | ⟨hpath, hrest⟩)
        obtain ⟨a, ha, hr⟩ := (ih _).mp hrest
        exact ⟨a, .load hpath ha, hr⟩
      · rintro ⟨a, _ | ⟨hpath, ha⟩, hr⟩
        exact .load hpath ((ih _).mpr ⟨a, ha, hr⟩)
  | list dir glob next ih =>
      constructor
      · rintro (_ | _ | ⟨found, hrest⟩)
        obtain ⟨a, ha, hr⟩ := (ih _).mp hrest
        exact ⟨a, .list found ha, hr⟩
      · rintro ⟨a, _ | _ | ⟨found, ha⟩, hr⟩
        exact .list found ((ih _).mpr ⟨a, ha, hr⟩)

theorem reaches_entries {paths : List String} {answers : List (String × Entry)}
    (h : (entries paths).Reaches known answers) :
    answers.map Prod.fst = paths ∧ ∀ a ∈ answers, known a.1 = some a.2 := by
  induction paths generalizing answers with
  | nil =>
      obtain rfl := reaches_pure_iff.mp h
      exact ⟨rfl, List.forall_mem_nil _⟩
  | cons path rest ih =>
      obtain ⟨e, he, h⟩ := reaches_bind_iff.mp h
      obtain ⟨others, hothers, h⟩ := reaches_bind_iff.mp h
      obtain rfl := reaches_pure_iff.mp h
      obtain ⟨hpaths, hsame⟩ := ih hothers
      refine ⟨by rw [List.map_cons, hpaths], ?_⟩
      exact List.forall_mem_cons.mpr ⟨Session.reaches_entry he, hsame⟩

end Access

end SourceContract
