import Mathlib.Data.List.Forall2
import SourceContract.Proofs.Corpus.Cache

/-!
# Answers that say the same

Two sets of answers may differ in why a file cannot be had, and one may find no
directory where the other finds one without files.  A program that treats such answers
alike gives results that are alike, and it asks for the same paths.
-/

namespace SourceContract

/-! ## Answers -/

def SameText (e e' : Entry) : Prop := e.toOption = e'.toOption

inductive SameFiles : Except LoadError (List String) → Except LoadError (List String) → Prop
  | refl (found : Except LoadError (List String)) : SameFiles found found
  | made (dir : String) : SameFiles (.error (.notFound dir)) (.ok [])

theorem SameFiles.eq_ok {found found' : Except LoadError (List String)} {paths : List String}
    (h : SameFiles found found') (hfound : found = .ok paths) : found' = .ok paths := by
  cases h with
  | refl => exact hfound
  | made => contradiction

namespace SameText

variable {e e' : Entry}

theorem textOf_eq (h : SameText e e') : Access.textOf e = Access.textOf e' := by
  unfold SameText at h
  cases e <;> cases e' <;> simp_all [Except.toOption, Access.textOf]

theorem isText_eq (h : SameText e e') : Corpus.isText e = Corpus.isText e' := by
  unfold SameText at h
  cases e <;> cases e' <;> simp_all [Except.toOption, Corpus.isText]

end SameText

/-! ## Programs -/

namespace Access

variable {α β γ δ : Type} {a b : Answers}

/-- The programs ask the same, and whatever they are told that says the same, they go on likewise
and end with related results. -/
inductive Likewise (R : α → β → Prop) : Access α → Access β → Prop
  | done {r : α} {r' : β} (h : R r r') : Likewise R (.done r) (.done r')
  | load {path : String} {next : Entry → Access α} {next' : Entry → Access β}
      (h : ∀ e e', SameText e e' → Likewise R (next e) (next' e')) :
      Likewise R (.load path next) (.load path next')
  | list {dir glob : String} {next : Except LoadError (List String) → Access α}
      {next' : Except LoadError (List String) → Access β}
      (h : ∀ found found', SameFiles found found' → Likewise R (next found) (next' found')) :
      Likewise R (.list dir glob next) (.list dir glob next')

namespace Likewise

variable {R : α → β → Prop} {S : γ → δ → Prop} {p : Access α} {p' : Access β}

theorem pure {r : α} {r' : β} (h : R r r') : Likewise R (Pure.pure r) (Pure.pure r') := .done h

theorem bind {f : α → Access γ} {g : β → Access δ} (h : Likewise R p p')
    (hnext : ∀ r r', R r r' → Likewise S (f r) (g r')) : Likewise S (p >>= f) (p' >>= g) := by
  induction h with
  | done h => exact hnext _ _ h
  | load _ ih => exact .load ih
  | list _ ih => exact .list ih

theorem bind_eq {p p' : Access α} {f : α → Access γ} {g : α → Access δ} (h : Likewise Eq p p')
    (hnext : ∀ r, Likewise S (f r) (g r)) : Likewise S (p >>= f) (p' >>= g) := by
  refine h.bind ?_
  rintro r _ rfl
  exact hnext r

theorem value (h : Likewise R p p')
    (hread : ∀ path ∈ p.asked a, SameText (a.read path) (b.read path))
    (hlist : ∀ w ∈ p.listed a, SameFiles (a.list w.1 w.2) (b.list w.1 w.2)) :
    R (p.value a) (p'.value b) ∧ p.asked a = p'.asked b := by
  induction h with
  | done h => exact ⟨h, rfl⟩
  | @load path next next' _ ih =>
      have hfirst := hread path List.mem_cons_self
      obtain ⟨hvalue, hasked⟩ := ih _ _ hfirst
        (fun path hpath => hread path (List.mem_cons_of_mem _ hpath)) hlist
      exact ⟨hvalue, congrArg (path :: ·) hasked⟩
  | @list dir glob next next' _ ih =>
      have hfirst := hlist (dir, glob) List.mem_cons_self
      exact ih _ _ hfirst hread fun w hw => hlist w (List.mem_cons_of_mem _ hw)

theorem entry (path : String) : Likewise SameText (entry path) (entry path) :=
  .load fun _ _ h => .done h

theorem files (dir glob : String) : Likewise SameFiles (files dir glob) (files dir glob) :=
  .list fun _ _ h => .done h

theorem text (path : String) : Likewise Eq (text path) (text path) := by
  refine (entry path).bind fun e e' h => ?_
  have htext := h.textOf_eq
  cases e <;> cases e' <;> exact .done htext

theorem textsOf (paths : List String) : Likewise Eq (textsOf paths) (textsOf paths) := by
  induction paths with
  | nil => exact .done rfl
  | cons path rest ih => exact (text path).bind_eq fun t => ih.bind_eq fun ts => .done rfl

end Likewise

end Access

abbrev SameTexts : List (String × Entry) → List (String × Entry) → Prop :=
  List.Forall₂ fun answer answer' => answer.1 = answer'.1 ∧ SameText answer.2 answer'.2

theorem Access.Likewise.entries (paths : List String) :
    Likewise SameTexts (entries paths) (entries paths) := by
  induction paths with
  | nil => exact .done .nil
  | cons path rest ih =>
      refine (entry path).bind fun e e' h => ih.bind fun answers answers' hrest => ?_
      exact .done (.cons ⟨rfl, h⟩ hrest)

theorem SameTexts.map_eq {α : Type} {answers answers' : List (String × Entry)}
    (h : SameTexts answers answers') {f : String → Entry → α}
    (hf : ∀ path e e', SameText e e' → f path e = f path e') :
    (answers.map fun answer => f answer.1 answer.2) =
      answers'.map fun answer => f answer.1 answer.2 := by
  induction h with
  | nil => rfl
  | @cons answer answer' _ _ hfirst _ ih =>
      rw [List.map_cons, List.map_cons, ih, ← hfirst.1, hf _ _ _ hfirst.2]

end SourceContract
