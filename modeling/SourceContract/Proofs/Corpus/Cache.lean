import SourceContract.Proofs.Corpus.Access

/-!
# A corpus is a snapshot

While the files do not change, a corpus holds nothing but what the files answer, and
running a program on it gives the result that the answers alone give.  What the run
leaves behind depends only on the paths that were asked for, and so do the counters.
-/

namespace SourceContract

variable {σ α β : Type}

-- Not a definitional rewrite: the kernel would compare the two sides by running `x`.
theorem run_bind (x : StateM σ α) (f : α → StateM σ β) (w : σ) :
    (x >>= f).run w = (f (x.run w).1).run (x.run w).2 := (rfl)

/-! ## Sources that stay the same -/

def Source.at (s : Source (StateM σ)) (w : σ) : Answers where
  read path := ((s.read path).run w).1
  list dir glob := ((s.list dir glob).run w).1

/-- Asking the source in the state `w` leaves the state as it is. -/
structure Source.Steady (s : Source (StateM σ)) (w : σ) : Prop where
  read : ∀ path, ((s.read path).run w).2 = w
  list : ∀ dir glob, ((s.list dir glob).run w).2 = w

namespace Source.Steady

variable {s : Source (StateM σ)} {w : σ}

theorem run_read (still : s.Steady w) (path : String) :
    (s.read path).run w = ((s.at w).read path, w) :=
  Prod.ext rfl (still.read path)

theorem run_list (still : s.Steady w) (dir glob : String) :
    (s.list dir glob).run w = ((s.at w).list dir glob, w) :=
  Prod.ext rfl (still.list dir glob)

end Source.Steady

/-! ## What a corpus knows -/

namespace Corpus

variable {a : Answers} {c c' : Corpus}

def paths (c : Corpus) : List String := c.answers.map Prod.fst

@[simp] theorem paths_empty : empty.paths = [] := rfl

@[simp] theorem paths_add (path : String) (e : Entry) :
    (c.add path e).paths = path :: c.paths := rfl

/-- The corpus holds the answers of `a`, each once. -/
structure Agrees (c : Corpus) (a : Answers) : Prop where
  same : ∀ e ∈ c.answers, e.2 = a.read e.1
  once : c.paths.Nodup

theorem empty_agrees (a : Answers) : empty.Agrees a where
  same := by simp [empty]
  once := by simp

theorem find?_eq_none_iff {path : String} : c.find? path = none ↔ path ∉ c.paths := by
  simp only [find?, paths, List.lookup_eq_none_iff, List.mem_map]
  constructor
  · rintro h ⟨e, he, rfl⟩
    simpa using h e he
  · intro h e he
    simpa using fun heq => h ⟨e, he, heq.symm⟩

theorem mem_answers_of_find? {path : String} {e : Entry} (h : c.find? path = some e) :
    (path, e) ∈ c.answers := by
  obtain ⟨before, after, hsplit, -⟩ := List.lookup_eq_some_iff.mp h
  simp [hsplit]

namespace Agrees

theorem find?_eq (h : c.Agrees a) {path : String} {e : Entry} (he : c.find? path = some e) :
    e = a.read path :=
  h.same (path, e) (mem_answers_of_find? he)

theorem add (h : c.Agrees a) {path : String} (new : path ∉ c.paths) :
    (c.add path (a.read path)).Agrees a where
  same := by
    intro e he
    rcases List.mem_cons.mp he with rfl | he
    · rfl
    · exact h.same e he
  once := List.nodup_cons.mpr ⟨new, h.once⟩

theorem answers_eq (h : c.Agrees a) : c.answers = c.paths.map fun path => (path, a.read path) := by
  rw [paths, List.map_map]
  conv => lhs; rw [← List.map_id c.answers]
  exact List.map_congr_left fun e he => Prod.ext rfl (h.same e he)

theorem stats_eq_of_isText {b : Answers} (h : c.Agrees a) (h' : c'.Agrees b)
    (known : ∀ path, path ∈ c.paths ↔ path ∈ c'.paths)
    (hsame : ∀ path ∈ c.paths, isText (a.read path) = isText (b.read path)) :
    c.stats = c'.stats := by
  have hpaths : c.paths.Perm c'.paths :=
    (List.perm_ext_iff_of_nodup h.once h'.once).mpr known
  have hkinds : (c.answers.map fun e => isText e.2).Perm (c'.answers.map fun e => isText e.2) := by
    rw [h.answers_eq, h'.answers_eq, List.map_map, List.map_map]
    exact (List.map_congr_left hsame).symm ▸ hpaths.map _
  have hcount (test : Bool → Bool) :
      (c.answers.filter fun e => test (isText e.2)).length =
        (c'.answers.filter fun e => test (isText e.2)).length := by
    have hboth := (hkinds.filter test).length_eq
    rwa [List.filter_map, List.filter_map, List.length_map, List.length_map] at hboth
  have htexts := hcount id
  have herrors := hcount not
  simp only [id] at htexts
  simp only [stats, htexts, herrors]

theorem stats_eq (h : c.Agrees a) (h' : c'.Agrees a)
    (known : ∀ path, path ∈ c.paths ↔ path ∈ c'.paths) : c.stats = c'.stats :=
  h.stats_eq_of_isText h' known fun _ _ => rfl

end Agrees

/-! ## Learning answers -/

def learn (a : Answers) (c : Corpus) (path : String) : Corpus :=
  if path ∈ c.paths then c else c.add path (a.read path)

def learnAll (a : Answers) (c : Corpus) (paths : List String) : Corpus :=
  paths.foldl (learn a) c

theorem learnAll_append (ps qs : List String) :
    c.learnAll a (ps ++ qs) = (c.learnAll a ps).learnAll a qs :=
  List.foldl_append

theorem Agrees.learn (h : c.Agrees a) (path : String) : (c.learn a path).Agrees a := by
  unfold Corpus.learn
  split
  next => exact h
  next new => exact h.add new

theorem Agrees.learnAll (h : c.Agrees a) (ps : List String) : (c.learnAll a ps).Agrees a := by
  induction ps generalizing c with
  | nil => exact h
  | cons path rest ih => exact ih (h.learn path)

theorem mem_paths_learn {path q : String} :
    q ∈ (c.learn a path).paths ↔ q ∈ c.paths ∨ q = path := by
  unfold learn
  split
  next known =>
      constructor
      · exact Or.inl
      · rintro (h | rfl)
        · exact h
        · exact known
  next => simp [or_comm]

theorem mem_paths_learnAll {ps : List String} {q : String} :
    q ∈ (c.learnAll a ps).paths ↔ q ∈ c.paths ∨ q ∈ ps := by
  induction ps generalizing c with
  | nil => simp [learnAll]
  | cons path rest ih =>
      change q ∈ ((c.learn a path).learnAll a rest).paths ↔ _
      rw [ih, mem_paths_learn, List.mem_cons, or_assoc]

end Corpus

/-! ## Running a program -/

/-- While the files do not change, a corpus that agrees with them can be left out: the result is
the one that the answers give, and the corpus learns the paths that were asked for. -/
theorem Access.run_eq {s : Source (StateM σ)} {w : σ} (still : s.Steady w) (p : Access α)
    {c : Corpus} (h : c.Agrees (s.at w)) :
    (p.run s c).run w =
      ((p.value (s.at w), c.learnAll (s.at w) (p.asked (s.at w))), w) := by
  induction p generalizing c with
  | done r => rfl
  | load path next ih =>
      change _ = ((_, (c.learn (s.at w) path).learnAll (s.at w) _), w)
      cases hfind : c.find? path with
      | some e =>
          have known : path ∈ c.paths :=
            List.mem_map_of_mem (Corpus.mem_answers_of_find? hfind)
          obtain rfl := h.find?_eq hfind
          simp only [run, hfind, Corpus.learn, if_pos known]
          exact ih _ h
      | none =>
          have new : path ∉ c.paths := Corpus.find?_eq_none_iff.mp hfind
          simp only [run, hfind, Corpus.learn, if_neg new, run_bind, still.run_read]
          exact ih _ (h.add new)
  | list dir glob next ih =>
      simp only [run, run_bind, still.run_list]
      exact ih _ h

end SourceContract
