import SourceContract.Corpus.Basic

/-!
# What a program asks and what it gives

When every question has one fixed answer, a program has one result and asks for fixed
lists of paths and of directories.  They are read off the program without any corpus.  A second
view needs no fixed answers at all: a property that the result has whatever the
program is told.
-/

namespace SourceContract

/-- One answer to each question, as a project gives them while its files do not change. -/
structure Answers where
  read : String → Entry
  list : String → String → Except LoadError (List String)

namespace Access

variable {α β : Type} {a : Answers}

instance : LawfulMonad Access :=
  LawfulMonad.mk' Access bind_done (fun _ _ => rfl) bind_assoc

/-! ## Fixed answers -/

def value (a : Answers) : Access α → α
  | done r => r
  | load path next => (next (a.read path)).value a
  | list dir glob next => (next (a.list dir glob)).value a

def asked (a : Answers) : Access α → List String
  | done _ => []
  | load path next => path :: (next (a.read path)).asked a
  | list dir glob next => (next (a.list dir glob)).asked a

def listed (a : Answers) : Access α → List (String × String)
  | done _ => []
  | load path next => (next (a.read path)).listed a
  | list dir glob next => (dir, glob) :: (next (a.list dir glob)).listed a

@[simp] theorem value_pure (r : α) : (pure r : Access α).value a = r := rfl

@[simp] theorem asked_pure (r : α) : (pure r : Access α).asked a = [] := rfl

@[simp] theorem listed_pure (r : α) : (pure r : Access α).listed a = [] := rfl

@[simp] theorem value_bind (p : Access α) (f : α → Access β) :
    (p >>= f).value a = (f (p.value a)).value a := by
  induction p with
  | done r => rfl
  | load path next ih => exact ih (a.read path)
  | list dir glob next ih => exact ih (a.list dir glob)

@[simp] theorem asked_bind (p : Access α) (f : α → Access β) :
    (p >>= f).asked a = p.asked a ++ (f (p.value a)).asked a := by
  induction p with
  | done r => rfl
  | load path next ih => exact congrArg (path :: ·) (ih (a.read path))
  | list dir glob next ih => exact ih (a.list dir glob)

@[simp] theorem listed_bind (p : Access α) (f : α → Access β) :
    (p >>= f).listed a = p.listed a ++ (f (p.value a)).listed a := by
  induction p with
  | done r => rfl
  | load path next ih => exact ih (a.read path)
  | list dir glob next ih => exact congrArg ((dir, glob) :: ·) (ih (a.list dir glob))

@[simp] theorem value_map (f : α → β) (p : Access α) : (f <$> p).value a = f (p.value a) := by
  rw [map_eq_pure_bind, value_bind, value_pure]

@[simp] theorem asked_map (f : α → β) (p : Access α) : (f <$> p).asked a = p.asked a := by
  rw [map_eq_pure_bind, asked_bind, asked_pure, List.append_nil]

@[simp] theorem listed_map (f : α → β) (p : Access α) : (f <$> p).listed a = p.listed a := by
  rw [map_eq_pure_bind, listed_bind, listed_pure, List.append_nil]

/-! ## The questions that checks are made of -/

@[simp] theorem value_entry (path : String) : (entry path).value a = a.read path := rfl

def textOf : Entry → String
  | .ok text => text
  | .error _ => ""

@[simp] theorem value_text (path : String) : (text path).value a = textOf (a.read path) := by
  simp only [text, value_bind, value_entry]
  cases a.read path <;> rfl

@[simp] theorem value_entries (paths : List String) :
    (entries paths).value a = paths.map fun path => (path, a.read path) := by
  induction paths with
  | nil => rfl
  | cons path rest ih => simp [entries, ih]

@[simp] theorem value_textsOf (paths : List String) :
    (textsOf paths).value a = paths.map fun path => textOf (a.read path) := by
  induction paths with
  | nil => rfl
  | cons path rest ih => simp [textsOf, ih]

@[simp] theorem asked_entry (path : String) : (entry path).asked a = [path] := rfl

@[simp] theorem asked_text (path : String) : (text path).asked a = [path] := by
  simp only [text, asked_bind, asked_entry]
  cases (entry path).value a <;> rfl

@[simp] theorem asked_entries (paths : List String) : (entries paths).asked a = paths := by
  induction paths with
  | nil => rfl
  | cons path rest ih => simp [entries, ih]

@[simp] theorem asked_textsOf (paths : List String) : (textsOf paths).asked a = paths := by
  induction paths with
  | nil => rfl
  | cons path rest ih => simp [textsOf, ih]

@[simp] theorem listed_text (path : String) : (text path).listed a = [] := by
  simp only [text, listed_bind]
  cases (entry path).value a <;> rfl

@[simp] theorem listed_entries (paths : List String) : (entries paths).listed a = [] := by
  induction paths with
  | nil => rfl
  | cons path rest ih =>
      simp only [entries, listed_bind, listed_pure, ih, List.append_nil]
      rfl

@[simp] theorem listed_textsOf (paths : List String) : (textsOf paths).listed a = [] := by
  induction paths with
  | nil => rfl
  | cons path rest ih =>
      simp only [textsOf, listed_bind, listed_text, listed_pure, ih, List.append_nil]

/-! ## Any answers -/

/-- Whatever a program is told, its result satisfies `P`. -/
def Always (P : α → Prop) : Access α → Prop
  | done r => P r
  | load _ next => ∀ e, (next e).Always P
  | list _ _ next => ∀ found, (next found).Always P

namespace Always

variable {P Q : α → Prop} {p : Access α}

theorem of_forall (h : ∀ r, P r) (p : Access α) : p.Always P := by
  induction p with
  | done r => exact h r
  | load path next ih => exact ih
  | list dir glob next ih => exact ih

@[simp] theorem pure_iff {r : α} : (pure r : Access α).Always P ↔ P r := Iff.rfl

theorem value (h : p.Always P) (a : Answers) : P (p.value a) := by
  induction p with
  | done r => exact h
  | load path next ih => exact ih (a.read path) (h _)
  | list dir glob next ih => exact ih (a.list dir glob) (h _)

theorem mono (h : p.Always P) (himp : ∀ r, P r → Q r) : p.Always Q := by
  induction p with
  | done r => exact himp r h
  | load path next ih => exact fun e => ih e (h e)
  | list dir glob next ih => exact fun found => ih found (h found)

theorem bind {R : β → Prop} {f : α → Access β} (h : p.Always fun r => (f r).Always R) :
    (p >>= f).Always R := by
  induction p with
  | done r => exact h
  | load path next ih => exact fun e => ih e (h e)
  | list dir glob next ih => exact fun found => ih found (h found)

/-- What holds of a result whatever the program is told holds on every corpus, also when the files
change between two questions. -/
theorem run {σ : Type} (h : p.Always P) (s : Source (StateM σ)) (corpus : Corpus) (w : σ) :
    P ((p.run s corpus).run w).1.1 := by
  induction p generalizing corpus w with
  | done r => exact h
  | load path next ih =>
      unfold Access.run
      cases corpus.find? path with
      | some e => exact ih e (h e) corpus w
      | none => exact ih _ (h _) _ _
  | list dir glob next ih => exact ih _ (h _) _ _

end Always

end Access

end SourceContract
