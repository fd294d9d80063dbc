import Mathlib.Data.List.Dedup
import SourceContract.Proofs.Corpus.Cache
import SourceContract.Verdict.Evaluate

/-!
# The first outcome stays

However the files change, the first outcome of asking for a path is the outcome for
as long as the corpus is in use.  A session is such a use: the corpus, the disk as it
is now, and a log of every access to a path with the outcome that was seen.  The log
is kept for the statements only; what an operation gives is what running it on the
corpus gives.
-/

namespace SourceContract

open Matching (MatchMode)

variable {σ α : Type}

theorem Corpus.find?_add (c : Corpus) (path q : String) (e : Entry) :
    (c.add path e).find? q = if q = path then some e else c.find? q := by
  rw [find?, add, List.lookup_cons]
  by_cases hq : q = path
  · simp [hq]
  · simp [hq, beq_false_of_ne hq, find?]

/-! ## What a program is told -/

namespace Access

/-- The outcomes that a program is told when it is run, in the order in which it asks. -/
def told (s : Source (StateM σ)) : Access α → Corpus → σ → List (String × Entry)
  | done _, _, _ => []
  | load path next, c, w =>
      match c.find? path with
      | some e => (path, e) :: (next e).told s c w
      | none =>
          let (e, w) := (s.read path).run w
          (path, e) :: (next e).told s (c.add path e) w
  | list dir glob next, c, w =>
      let (found, w) := (s.list dir glob).run w
      (next found).told s c w

/-- The program can come to a result when the outcome for each path is the one in `known`, whatever
the directories hold. -/
inductive Reaches (known : String → Option Entry) : Access α → α → Prop where
  | done (r : α) : Reaches known (done r) r
  | load {path : String} {next : Entry → Access α} {e : Entry} {r : α} (h : known path = some e)
      (rest : Reaches known (next e) r) : Reaches known (load path next) r
  | list {dir glob : String} {next : Except LoadError (List String) → Access α} {r : α}
      (found : Except LoadError (List String)) (rest : Reaches known (next found) r) :
      Reaches known (list dir glob next) r

end Access

/-! ## Sessions -/

structure Session (σ : Type) where
  corpus : Corpus
  disk : σ
  /-- Accesses to paths, the earliest first. -/
  seen : List (String × Entry)

inductive Operation (σ : Type) where
  | load (path : String)
  /-- Whether there is a file that is not empty. -/
  | present (path : String)
  | discover (dir glob : String)
  | evaluate (mode : MatchMode) (c : Check)
  | stats
  | change (f : σ → σ)

inductive Answer where
  | entry (e : Entry)
  | flag (b : Bool)
  | paths (found : Except LoadError (List String))
  | result (r : CheckResult)
  | stats (n : CorpusStats)
  | changed

namespace Session

def start (w : σ) : Session σ := ⟨.empty, w, []⟩

variable (s : Source (StateM σ))

def ask (x : Session σ) (p : Access α) : α × Session σ :=
  let ((r, corpus), disk) := (p.run s x.corpus).run x.disk
  (r, ⟨corpus, disk, x.seen ++ p.told s x.corpus x.disk⟩)

def perform (x : Session σ) : Operation σ → Answer × Session σ
  | .load path => (x.ask s (Access.entry path)).map .entry id
  | .present path => (x.ask s (Access.entry path)).map (fun e => .flag (Check.isPresent e)) id
  | .discover dir glob => (x.ask s (Access.files dir glob)).map .paths id
  | .evaluate mode c => (x.ask s (c.evaluate mode)).map .result id
  | .stats => (.stats x.corpus.stats, x)
  | .change f => (.changed, { x with disk := f x.disk })

def after (x : Session σ) (history : List (Operation σ)) : Session σ :=
  history.foldl (fun x op => (x.perform s op).2) x

/-! ## First outcomes -/

def first? (x : Session σ) (path : String) : Option Entry := x.seen.lookup path

def paths (x : Session σ) : List String := (x.seen.map Prod.fst).dedup

def succeeded (x : Session σ) : Nat := x.paths.countP fun path => (x.first? path).any Corpus.isText

def failed (x : Session σ) : Nat :=
  x.paths.countP fun path => (x.first? path).any fun e => !Corpus.isText e

/-- The corpus holds the first outcome of each path, and each access saw the first outcome. -/
structure Faithful (x : Session σ) : Prop where
  kept : ∀ path, x.corpus.find? path = x.first? path
  once : x.corpus.paths.Nodup
  same : ∀ access ∈ x.seen, x.first? access.1 = some access.2

structure Extends (x y : Session σ) : Prop where
  seen : x.seen <+: y.seen
  answers : x.corpus.answers <:+ y.corpus.answers

theorem start_faithful (w : σ) : (start w).Faithful where
  kept _ := rfl
  once := List.nodup_nil
  same := List.forall_mem_nil _

namespace Extends

variable {x y z : Session σ}

theorem refl (x : Session σ) : x.Extends x := ⟨List.prefix_rfl, List.suffix_rfl⟩

theorem trans (h : x.Extends y) (h' : y.Extends z) : x.Extends z :=
  ⟨h.seen.trans h'.seen, h.answers.trans h'.answers⟩

theorem first? (h : x.Extends y) {path : String} {e : Entry} (he : x.first? path = some e) :
    y.first? path = some e := by
  obtain ⟨more, hmore⟩ := h.seen
  rw [Session.first?] at he ⊢
  rw [← hmore, List.lookup_append, he]
  rfl

theorem stats_le (h : x.Extends y) :
    x.corpus.stats.filesInspected ≤ y.corpus.stats.filesInspected ∧
      x.corpus.stats.filesMissing ≤ y.corpus.stats.filesMissing :=
  ⟨(h.answers.sublist.filter _).length_le, (h.answers.sublist.filter _).length_le⟩

end Extends

/-! ## One access -/

def visit (x : Session σ) (path : String) : Entry × Session σ :=
  match x.corpus.find? path with
  | some e => (e, { x with seen := x.seen ++ [(path, e)] })
  | none =>
      let (e, disk) := (s.read path).run x.disk
      (e, ⟨x.corpus.add path e, disk, x.seen ++ [(path, e)]⟩)

variable {s} {x : Session σ}

theorem ask_done (r : α) : x.ask s (.done r) = (r, x) := by
  simp only [ask, Access.told, List.append_nil]
  rfl

theorem ask_load (path : String) (next : Entry → Access α) :
    x.ask s (.load path next) = (x.visit s path).2.ask s (next (x.visit s path).1) := by
  cases hfind : x.corpus.find? path with
  | some e =>
      simp only [ask, visit, Access.run, Access.told, hfind, List.append_assoc]
      rfl
  | none =>
      simp only [ask, visit, Access.run, Access.told, hfind, run_bind]
      obtain ⟨e, disk⟩ := (s.read path).run x.disk
      simp only [List.append_assoc]
      rfl

theorem ask_list (dir glob : String) (next : Except LoadError (List String) → Access α) :
    x.ask s (.list dir glob next) =
      ask s { x with disk := ((s.list dir glob).run x.disk).2 }
        (next ((s.list dir glob).run x.disk).1) := by
  simp only [ask, Access.run, Access.told, run_bind]
  obtain ⟨found, disk⟩ := (s.list dir glob).run x.disk
  rfl

theorem lookup_concat (seen : List (String × Entry)) (path q : String) (e : Entry) :
    (seen ++ [(path, e)]).lookup q = (seen.lookup q).or (if q = path then some e else none) := by
  rw [List.lookup_append, List.lookup_cons, List.lookup_nil]
  by_cases hq : q = path
  · simp [hq]
  · simp [hq, beq_false_of_ne hq]

theorem same_concat {seen : List (String × Entry)}
    (h : ∀ access ∈ seen, seen.lookup access.1 = some access.2) (path : String) (e : Entry)
    (he : (seen.lookup path).or (some e) = some e) :
    ∀ access ∈ seen ++ [(path, e)], (seen ++ [(path, e)]).lookup access.1 = some access.2 := by
  intro access haccess
  rw [lookup_concat]
  rcases List.mem_append.mp haccess with hold | hnew
  · rw [h access hold, Option.some_or]
  · rw [List.mem_singleton.mp hnew, if_pos rfl]
    exact he

theorem Faithful.visit (h : x.Faithful) (path : String) :
    (x.visit s path).2.Faithful ∧ x.Extends (x.visit s path).2 ∧
      (x.visit s path).2.first? path = some (x.visit s path).1 := by
  cases hfind : x.corpus.find? path with
  | some e =>
      have hfirst : x.seen.lookup path = some e := (h.kept path).symm.trans hfind
      have hsame := same_concat h.same path e (by rw [hfirst, Option.some_or])
      simp only [Session.visit, hfind]
      refine ⟨⟨fun q => ?_, h.once, hsame⟩, ⟨List.prefix_append _ _, List.suffix_rfl⟩, ?_⟩
      · rw [h.kept q, first?, first?, lookup_concat]
        by_cases hq : q = path
        · rw [hq, hfirst, Option.some_or]
        · rw [if_neg hq, Option.or_none]
      · exact hsame (path, e) (List.mem_append_right _ List.mem_cons_self)
  | none =>
      have hfirst : x.seen.lookup path = none := (h.kept path).symm.trans hfind
      simp only [Session.visit, hfind]
      obtain ⟨e, disk⟩ := (s.read path).run x.disk
      have hsame := same_concat h.same path e (by rw [hfirst, Option.none_or])
      have honce : (x.corpus.add path e).paths.Nodup :=
        List.nodup_cons.mpr ⟨Corpus.find?_eq_none_iff.mp hfind, h.once⟩
      refine ⟨⟨fun q => ?_, honce, hsame⟩, ⟨List.prefix_append _ _, List.suffix_cons _ _⟩, ?_⟩
      · rw [Corpus.find?_add, h.kept q, first?, first?, lookup_concat]
        by_cases hq : q = path
        · rw [hq, hfirst, if_pos rfl, Option.none_or]
        · rw [if_neg hq, if_neg hq, Option.or_none]
      · exact hsame (path, e) (List.mem_append_right _ List.mem_cons_self)

/-! ## Operations -/

theorem Faithful.ask (h : x.Faithful) (p : Access α) :
    (x.ask s p).2.Faithful ∧ x.Extends (x.ask s p).2 ∧
      p.Reaches (x.ask s p).2.first? (x.ask s p).1 := by
  -- On the program, for every session that it may be in when it goes on.
  induction p generalizing x with
  | done r =>
      rw [ask_done]
      exact ⟨h, .refl x, .done r⟩
  | load path next ih =>
      obtain ⟨hvisit, hextends, hfirst⟩ := h.visit (s := s) path
      obtain ⟨hrest, hmore, hreaches⟩ := ih (x.visit s path).1 hvisit
      rw [ask_load]
      exact ⟨hrest, hextends.trans hmore, .load (hmore.first? hfirst) hreaches⟩
  | list dir glob next ih =>
      let y : Session σ := { x with disk := ((s.list dir glob).run x.disk).2 }
      have hy : y.Faithful := ⟨h.kept, h.once, h.same⟩
      obtain ⟨hrest, hmore, hreaches⟩ := ih ((s.list dir glob).run x.disk).1 hy
      rw [ask_list]
      exact ⟨hrest, ⟨hmore.seen, hmore.answers⟩, .list _ hreaches⟩

/-- The answer to an operation that reads files is the one that it has when the outcome for each
path is the first one. -/
def Follows (first : String → Option Entry) : Operation σ → Answer → Prop
  | .load path, answer => ∃ e, first path = some e ∧ answer = .entry e
  | .present path, answer => ∃ e, first path = some e ∧ answer = .flag (Check.isPresent e)
  | .evaluate mode c, answer => ∃ r, (c.evaluate mode).Reaches first r ∧ answer = .result r
  | .discover .., _ | .stats, _ | .change _, _ => True

theorem reaches_entry {known : String → Option Entry} {path : String} {e : Entry}
    (h : (Access.entry path).Reaches known e) : known path = some e := by
  cases h with
  | load hknown rest =>
      cases rest
      exact hknown

theorem Faithful.perform (h : x.Faithful) (op : Operation σ) :
    (x.perform s op).2.Faithful ∧ x.Extends (x.perform s op).2 ∧
      Follows (x.perform s op).2.first? op (x.perform s op).1 := by
  cases op with
  | load path =>
      obtain ⟨hask, hextends, hreaches⟩ := h.ask (s := s) (Access.entry path)
      exact ⟨hask, hextends, _, reaches_entry hreaches, rfl⟩
  | present path =>
      obtain ⟨hask, hextends, hreaches⟩ := h.ask (s := s) (Access.entry path)
      exact ⟨hask, hextends, _, reaches_entry hreaches, rfl⟩
  | discover dir glob =>
      obtain ⟨hask, hextends, -⟩ := h.ask (s := s) (Access.files dir glob)
      exact ⟨hask, hextends, trivial⟩
  | evaluate mode c =>
      obtain ⟨hask, hextends, hreaches⟩ := h.ask (s := s) (c.evaluate mode)
      exact ⟨hask, hextends, _, hreaches, rfl⟩
  | stats => exact ⟨h, .refl x, trivial⟩
  | change f => exact ⟨⟨h.kept, h.once, h.same⟩, ⟨List.prefix_rfl, List.suffix_rfl⟩, trivial⟩

theorem Faithful.after (h : x.Faithful) (history : List (Operation σ)) :
    (x.after s history).Faithful ∧ x.Extends (x.after s history) := by
  induction history generalizing x with
  | nil => exact ⟨h, .refl x⟩
  | cons op rest ih =>
      obtain ⟨hop, hextends, -⟩ := h.perform (s := s) op
      obtain ⟨hrest, hmore⟩ := ih hop
      exact ⟨hrest, hextends.trans hmore⟩

/-! ## Counters -/

theorem mem_paths_iff (h : x.Faithful) {path : String} :
    path ∈ x.corpus.paths ↔ path ∈ x.paths := by
  rw [paths, List.mem_dedup]
  constructor
  · intro hpath
    have hfind : x.corpus.find? path ≠ none := fun hnone =>
      Corpus.find?_eq_none_iff.mp hnone hpath
    obtain ⟨e, he⟩ := Option.ne_none_iff_exists'.mp ((h.kept path) ▸ hfind)
    obtain ⟨before, rest, hsplit, -⟩ := List.lookup_eq_some_iff.mp he
    simp [hsplit]
  · intro hpath
    obtain ⟨access, haccess, rfl⟩ := List.mem_map.mp hpath
    have hfind := (h.kept access.1).trans (h.same access haccess)
    exact List.mem_map_of_mem (Corpus.mem_answers_of_find? hfind)

theorem countP_answers (h : x.Faithful) (p : Entry → Bool) :
    (x.corpus.answers.filter fun a => p a.2).length =
      x.paths.countP fun path => (x.first? path).any p := by
  have hpaths : x.corpus.paths.Perm x.paths :=
    (List.perm_ext_iff_of_nodup h.once (List.nodup_dedup _)).mpr fun _ => mem_paths_iff h
  -- Both lists name each path once, so it is enough to count along the paths of the corpus.
  rw [← hpaths.countP_eq, Corpus.paths, List.countP_map, List.countP_eq_length_filter]
  congr 1
  apply List.filter_congr
  intro a ha
  cases hfirst : x.first? a.1 with
  | none =>
      have hnone := Corpus.find?_eq_none_iff.mp ((h.kept a.1).trans hfirst)
      exact absurd (List.mem_map_of_mem ha) hnone
  | some e =>
      have hmem := Corpus.mem_answers_of_find? ((h.kept a.1).trans hfirst)
      have heq : a.2 = e := congrArg Prod.snd (List.inj_on_of_nodup_map h.once ha hmem rfl)
      rw [Function.comp_apply, hfirst, heq]
      rfl

theorem Faithful.stats_eq (h : x.Faithful) : x.corpus.stats = ⟨x.succeeded, x.failed⟩ := by
  rw [Corpus.stats, countP_answers h, countP_answers h fun e => !Corpus.isText e]
  rfl

end Session

/-- A corpus is a snapshot.  After any operations and any changes of the disk, every access to a
path has seen its first outcome, and what an operation gives is what it gives when each path has its
first outcome; that is what the disk answers when a path is loaded first.  The counters are the
numbers of paths with a text and without one as their first outcome; listing a directory and
counting leave the corpus as it is.  Whatever happens later, first outcomes stay and no counter
gets smaller.

The source may answer as it likes: it may itself change the disk, so that the files change also
between two questions of one evaluation. -/
theorem corpus_keeps_first_outcomes (s : Source (StateM σ)) (w : σ)
    (history : List (Operation σ)) :
    let x := (Session.start w).after s history
    (∀ access ∈ x.seen, x.first? access.1 = some access.2) ∧
      (∀ op, Session.Follows (x.perform s op).2.first? op (x.perform s op).1) ∧
      (∀ path, x.first? path = none →
        (x.perform s (.load path)).1 = .entry ((s.read path).run x.disk).1) ∧
      x.corpus.stats = ⟨x.succeeded, x.failed⟩ ∧
      (∀ dir glob, (x.perform s (.discover dir glob)).2.corpus = x.corpus) ∧
      (x.perform s .stats).2.corpus = x.corpus ∧
      ∀ more, let y := x.after s more
        (∀ path e, x.first? path = some e → y.first? path = some e) ∧
          x.corpus.stats.filesInspected ≤ y.corpus.stats.filesInspected ∧
          x.corpus.stats.filesMissing ≤ y.corpus.stats.filesMissing := by
  intro x
  have h : x.Faithful := ((Session.start_faithful w).after history).1
  refine ⟨h.same, fun op => (h.perform op).2.2, ?_, h.stats_eq, fun dir glob => rfl, rfl, ?_⟩
  · intro path hfirst
    have hfind : x.corpus.find? path = none := (h.kept path).trans hfirst
    simp only [Session.perform, Session.ask, Access.entry, Access.run, hfind, run_bind]
    rfl
  · intro more y
    have hextends : x.Extends y := (h.after more).2
    exact ⟨fun path e he => hextends.first? he, hextends.stats_le⟩

theorem corpus_keeps_first_outcomes_of_replaced_text :
    let s : Source (StateM String) :=
      { read := fun _ => return .ok (← get)
        list := fun dir _ => return .error (.notFound dir) }
    let x := (Session.start "open").after s [.load "a.h"]
    let y := x.after s [.change fun _ => "close", .present "b.h"]
    x.first? "a.h" = some (.ok "open") ∧ y.first? "b.h" = some (.ok "close") ∧
      y.first? "a.h" = some (.ok "open") ∧ (y.perform s (.load "a.h")).1 = .entry (.ok "open") := by
  intro s x y
  have hfirst : x.first? "a.h" = some (.ok "open") := rfl
  have hlater := (corpus_keeps_first_outcomes s "open" [.load "a.h"]).2.2.2.2.2.2
    [.change fun _ => "close", .present "b.h"]
  exact ⟨hfirst, rfl, hlater.1 "a.h" (.ok "open") hfirst, rfl⟩

end SourceContract
