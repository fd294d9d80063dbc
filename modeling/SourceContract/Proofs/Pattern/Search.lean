import Mathlib.Data.List.TakeWhile
import SourceContract.Pattern.Search
import SourceContract.Proofs.Pattern.Match

/-!
# What a search finds

A search keeps the states that can be reached at the place it has come to.  It finds a
match exactly when one of them still leads to acceptance, or a later place is one where
a match begins.  So there is a first match in a text if and only if there is a match at
all.

At each place conditions and branches are followed until nothing is left to follow.  The
states visited then are closed under them; what is left of the run of any visited state
begins with a character that one of the readers takes.
-/

namespace SourceContract

namespace Pattern

open Text

variable {a : Automaton} {p q : Point} {i next fuel : Nat} {stack : List Nat}
  {threads : Threads}

/-! ## Live states -/

def Live (a : Automaton) (p : Point) (i : Nat) : Prop := ∃ n q, Accepts a.states n i p q

def LiveReader (a : Automaton) (p : Point) (reader : CharSet × Nat) : Prop :=
  ∃ m, Takes reader.1 p m ∧ Live a m reader.2

theorem live_read_iff {set : CharSet} (h : a.states[i]? = some (.read set next)) :
    Live a p i ↔ LiveReader a p (set, next) := by
  constructor
  · rintro ⟨n, q, hrun⟩
    obtain ⟨m, k, -, htakes, hrun⟩ := accepts_of_read h hrun
    exact ⟨m, htakes, k, q, hrun⟩
  · rintro ⟨m, htakes, k, q, hrun⟩
    exact ⟨k + 1, q, .read h htakes hrun⟩

theorem live_look_iff {condition : Look} (h : a.states[i]? = some (.look condition next)) :
    Live a p i ↔ condition.HoldsAt p ∧ Live a p next := by
  constructor
  · rintro ⟨n, q, hrun⟩
    obtain ⟨hholds, k, -, hrun⟩ := accepts_of_look h hrun
    exact ⟨hholds, k, q, hrun⟩
  · rintro ⟨hholds, k, q, hrun⟩
    exact ⟨k + 1, q, .look h hholds hrun⟩

theorem live_branch_iff {preferred other : Nat}
    (h : a.states[i]? = some (.branch preferred other)) :
    Live a p i ↔ Live a p preferred ∨ Live a p other := by
  constructor
  · rintro ⟨n, q, hrun⟩
    obtain ⟨k, -, hrun | hrun⟩ := accepts_of_branch h hrun
    · exact .inl ⟨k, q, hrun⟩
    · exact .inr ⟨k, q, hrun⟩
  · rintro (⟨k, q, hrun⟩ | ⟨k, q, hrun⟩)
    · exact ⟨k + 1, q, .preferred h hrun⟩
    · exact ⟨k + 1, q, .other h hrun⟩

theorem live_accept (h : a.states[i]? = some .accept) : Live a p i := ⟨0, p, .accept h⟩

/-! ## Following conditions and branches -/

namespace Threads

def Done (threads : Threads) (i : Nat) : Prop := threads.visited.getD i true = true

def Reached (threads : Threads) (stack : List Nat) (i : Nat) : Prop :=
  threads.Done i ∨ i ∈ stack

def Followed (threads : Threads) (p : Point) (stack : List Nat) : State → Prop
  | .read set next => (set, next) ∈ threads.readers
  | .look condition next => condition.HoldsAt p → threads.Reached stack next
  | .branch preferred other => threads.Reached stack preferred ∧ threads.Reached stack other
  | .accept => False

/-- What holds as long as no thread has accepted. -/
structure Open (threads : Threads) (a : Automaton) (p : Point) (stack : List Nat) : Prop where
  size : threads.visited.size = a.states.size
  running : threads.accepted = false
  followed : ∀ i s, threads.Done i → a.states[i]? = some s → threads.Followed p stack s

def waiting (threads : Threads) : Nat := threads.visited.count false

def visit (threads : Threads) (i : Nat) : Threads :=
  { threads with visited := threads.visited.setIfInBounds i true }

theorem done_visit_iff {j : Nat} (h : i < threads.visited.size) :
    (threads.visit i).Done j ↔ threads.Done j ∨ j = i := by
  unfold Done visit
  by_cases hj : j = i
  · simp [hj, Array.getD_eq_getD_getElem?, h]
  · simp [hj, Array.getD_eq_getD_getElem?, Array.getElem?_setIfInBounds_ne (Ne.symm hj)]

theorem lt_of_not_done (h : ¬ threads.Done i) : i < threads.visited.size := by
  by_contra hle
  exact h (by simp [Done, Array.getD_eq_getD_getElem?, Nat.le_of_not_lt hle])

theorem waiting_visit (h : ¬ threads.Done i) :
    (threads.visit i).waiting + 1 = threads.waiting := by
  have hi := lt_of_not_done h
  have hfalse : threads.visited[i] = false := by
    simpa [Done, Array.getD_eq_getD_getElem?, hi] using h
  have hpos : 0 < threads.visited.count false := by
    rw [Array.count_pos_iff]
    exact hfalse ▸ Array.getElem_mem hi
  simp only [waiting, visit, Array.setIfInBounds_def, dif_pos hi, Array.count_set, hfalse,
    beq_self_eq_true, if_true, Bool.true_beq, Bool.false_eq_true, if_false]
  omega

theorem Followed.mono {after : Threads} {stack' : List Nat} {s : State}
    (h : threads.Followed p stack s) (hreaders : threads.readers ⊆ after.readers)
    (hreached : ∀ j, threads.Reached stack j → after.Reached stack' j) :
    after.Followed p stack' s := by
  cases s with
  | read set next => exact hreaders h
  | look condition next => exact fun hholds => hreached _ (h hholds)
  | branch preferred other => exact ⟨hreached _ h.1, hreached _ h.2⟩
  | accept => exact h

theorem Open.visit {s : State} (after : Threads) (stack' : List Nat)
    (h : threads.Open a p (i :: stack)) (hi : ¬ threads.Done i) (hs : a.states[i]? = some s)
    (hvisited : after.visited = (threads.visit i).visited) (hrunning : after.accepted = false)
    (hreaders : threads.readers ⊆ after.readers) (hstack : stack ⊆ stack')
    (hfollowed : after.Followed p stack' s) :
    after.Open a p stack' ∧ ∀ j, threads.Reached (i :: stack) j → after.Reached stack' j := by
  have hdone : ∀ j, after.Done j ↔ threads.Done j ∨ j = i := fun j => by
    rw [← done_visit_iff (lt_of_not_done hi), Done, Done, hvisited]
  have hreached : ∀ j, threads.Reached (i :: stack) j → after.Reached stack' j := by
    rintro j (hj | hj)
    · exact .inl ((hdone j).mpr (.inl hj))
    · obtain rfl | hj := List.mem_cons.mp hj
      · exact .inl ((hdone j).mpr (.inr rfl))
      · exact .inr (hstack hj)
  refine ⟨⟨by simp [hvisited, Threads.visit, h.size], hrunning, fun j t hj ht => ?_⟩, hreached⟩
  obtain hj | rfl := (hdone j).mp hj
  · exact (h.followed j t hj ht).mono hreaders hreached
  · obtain rfl : s = t := by simpa [hs] using ht
    exact hfollowed

theorem Open.skip (h : threads.Open a p (i :: stack)) (hi : threads.Done i) :
    threads.Open a p stack ∧ ∀ j, threads.Reached (i :: stack) j → threads.Reached stack j := by
  have hreached : ∀ j, threads.Reached (i :: stack) j → threads.Reached stack j := by
    rintro j (hj | hj)
    · exact .inl hj
    · obtain rfl | hj := List.mem_cons.mp hj
      · exact .inl hi
      · exact .inr hj
  refine ⟨⟨h.size, h.running, fun j s hj hs => ?_⟩, hreached⟩
  exact (h.followed j s hj hs).mono (fun _ hr => hr) hreached

theorem Open.exists_reader (h : threads.Open a p []) (hi : threads.Done i) (hlive : Live a p i) :
    ∃ r ∈ threads.readers, LiveReader a p r := by
  have hdone : ∀ j, threads.Reached [] j → threads.Done j := by
    rintro j (hj | hj)
    · exact hj
    · contradiction
  obtain ⟨n, q, hrun⟩ := hlive
  -- Conditions and branches stay at the place, so it is the run that gets shorter.
  induction n using Nat.strongRecOn generalizing i with
  | ind n ih =>
      cases hs : a.states[i]? with
      | none => cases hrun <;> simp_all
      | some s =>
          have hfollowed := h.followed i s hi hs
          cases s with
          | read set next => exact ⟨_, hfollowed, (live_read_iff hs).mp ⟨n, q, hrun⟩⟩
          | look condition next =>
              obtain ⟨hholds, k, hk, hrun⟩ := accepts_of_look hs hrun
              exact ih k hk (hdone _ (hfollowed hholds)) hrun
          | branch preferred other =>
              obtain ⟨k, hk, hrun | hrun⟩ := accepts_of_branch hs hrun
              · exact ih k hk (hdone _ hfollowed.1) hrun
              · exact ih k hk (hdone _ hfollowed.2) hrun
          | accept => exact hfollowed.elim

end Threads

theorem follow_visit {before after : Option Char} {s : State} (haccepted : threads.accepted = false)
    (hdone : ¬ threads.Done i) :
    a.states[i]? = some s → a.follow before after (fuel + 1) (i :: stack) threads =
      match s with
      | .read set next =>
          a.follow before after fuel stack
            { threads.visit i with readers := (set, next) :: threads.readers }
      | .look condition next =>
          a.follow before after fuel
            (if condition.holds before after then next :: stack else stack) (threads.visit i)
      | .branch preferred other =>
          a.follow before after fuel (preferred :: other :: stack) (threads.visit i)
      | .accept => { threads.visit i with accepted := true } := by
  intro hs
  unfold Threads.Done at hdone
  rw [Automaton.follow, if_neg (by simp [haccepted]), if_neg hdone]
  simp only [hs]
  cases s <;> rfl

/-- Each step visits a state or takes a visited one from the stack.  A state that is visited puts
two others there at most, so it counts double as long as it waits. -/
theorem follow_step (fuel : Nat) (h : threads.Open a p (i :: stack)) :
    (a.follow p.before p.rest.head? (fuel + 1) (i :: stack) threads).accepted = true ∨
      ∃ stack' threads',
        a.follow p.before p.rest.head? (fuel + 1) (i :: stack) threads =
            a.follow p.before p.rest.head? fuel stack' threads' ∧
          stack'.length + 2 * threads'.waiting < (i :: stack).length + 2 * threads.waiting ∧
          threads'.Open a p stack' ∧
          ∀ j, threads.Reached (i :: stack) j → threads'.Reached stack' j := by
  by_cases hdone : threads.Done i
  · obtain ⟨hopen, hreached⟩ := h.skip hdone
    refine .inr ⟨stack, threads, ?_, by rw [List.length_cons]; omega, hopen, hreached⟩
    unfold Threads.Done at hdone
    rw [Automaton.follow, if_neg (by simp [h.running]), if_pos hdone]
  · have hwaiting : threads.waiting = (threads.visit i).waiting + 1 :=
      (Threads.waiting_visit hdone).symm
    have hlt : i < a.states.size := h.size ▸ Threads.lt_of_not_done hdone
    have hs : a.states[i]? = some a.states[i] := Array.getElem?_eq_getElem hlt
    generalize a.states[i] = s at hs
    rw [follow_visit h.running hdone hs]
    cases s with
    | read set next =>
        let after : Threads := { threads.visit i with readers := (set, next) :: threads.readers }
        have hsame : after.waiting = (threads.visit i).waiting := rfl
        obtain ⟨hopen, hreached⟩ := h.visit after stack hdone hs rfl
          h.running (List.subset_cons_self _ _) (List.Subset.refl _) List.mem_cons_self
        refine .inr ⟨stack, after, rfl, ?_, hopen, hreached⟩
        rw [List.length_cons]
        omega
    | look condition next =>
        by_cases hholds : condition.HoldsAt p
        · obtain ⟨hopen, hreached⟩ := h.visit (threads.visit i) (next :: stack)
            hdone hs rfl h.running (List.Subset.refl _) (List.subset_cons_self _ _)
            fun _ => .inr List.mem_cons_self
          refine .inr ⟨next :: stack, threads.visit i, ?_, ?_, hopen, hreached⟩
          · simp only [if_pos (show condition.holds p.before p.rest.head? = true from hholds)]
          · simp only [List.length_cons]
            omega
        · obtain ⟨hopen, hreached⟩ := h.visit (threads.visit i) stack
            hdone hs rfl h.running (List.Subset.refl _) (List.Subset.refl _)
            fun hholds' => absurd hholds' hholds
          refine .inr ⟨stack, threads.visit i, ?_, ?_, hopen, hreached⟩
          · simp only [if_neg (show ¬ condition.holds p.before p.rest.head? = true from hholds)]
          · simp only [List.length_cons]
            omega
    | branch preferred other =>
        obtain ⟨hopen, hreached⟩ := h.visit (threads.visit i)
          (preferred :: other :: stack) hdone hs rfl h.running (List.Subset.refl _)
          (fun j hj => List.mem_cons_of_mem _ (List.mem_cons_of_mem _ hj))
          ⟨.inr List.mem_cons_self, .inr (List.mem_cons_of_mem _ List.mem_cons_self)⟩
        refine .inr ⟨preferred :: other :: stack, threads.visit i, rfl, ?_, hopen, hreached⟩
        simp only [List.length_cons]
        omega
    | accept => exact .inl rfl

theorem follow_open (h : threads.Open a p stack)
    (hfuel : stack.length + 2 * threads.waiting ≤ fuel) :
    (a.follow p.before p.rest.head? fuel stack threads).accepted = true ∨
      (a.follow p.before p.rest.head? fuel stack threads).Open a p [] ∧
        ∀ i, threads.Reached stack i →
          (a.follow p.before p.rest.head? fuel stack threads).Done i := by
  induction fuel generalizing stack threads with
  | zero =>
      obtain rfl : stack = [] := List.eq_nil_of_length_eq_zero (by omega)
      exact .inr ⟨h, fun i hi => hi.resolve_right (List.not_mem_nil)⟩
  | succ fuel ih =>
      cases stack with
      | nil => exact .inr ⟨h, fun i hi => hi.resolve_right (List.not_mem_nil)⟩
      | cons i stack =>
          obtain haccepted | ⟨stack', threads', hrun, hless, hopen, hreached⟩ :=
            follow_step fuel h
          · exact .inl haccepted
          · rw [hrun]
            obtain haccepted | ⟨hclosed, hdone⟩ := ih hopen (by omega)
            · exact .inl haccepted
            · exact .inr ⟨hclosed, fun j hj => hdone j (hreached j hj)⟩

/-- Whatever follows from the states on the stack and from the readers so far follows from what
following comes to. -/
theorem follow_sound {goal : Prop} (fuel : Nat) (threads : Threads)
    (hstack : ∀ i ∈ stack, Live a p i → goal)
    (hreaders : ∀ r ∈ threads.readers, LiveReader a p r → goal)
    (haccepted : threads.accepted = true → goal) :
    ((a.follow p.before p.rest.head? fuel stack threads).accepted = true → goal) ∧
      ∀ r ∈ (a.follow p.before p.rest.head? fuel stack threads).readers,
        LiveReader a p r → goal := by
  induction fuel generalizing stack threads with
  | zero => exact ⟨haccepted, hreaders⟩
  | succ fuel ih =>
      cases stack with
      | nil => exact ⟨haccepted, hreaders⟩
      | cons i stack =>
          have hrest : ∀ j ∈ stack, Live a p j → goal := fun j hj =>
            hstack j (List.mem_cons_of_mem _ hj)
          have htop := hstack i List.mem_cons_self
          rw [Automaton.follow]
          split
          next => exact ⟨haccepted, hreaders⟩
          next =>
              split
              next => exact ih _ hrest hreaders haccepted
              next =>
                  split
                  next set next hs =>
                      refine ih _ hrest (fun r hr => ?_) haccepted
                      obtain rfl | hr := List.mem_cons.mp hr
                      · exact fun hlive => htop ((live_read_iff hs).mpr hlive)
                      · exact hreaders r hr
                  next condition next hs =>
                      refine ih _ (fun j hj => ?_) hreaders haccepted
                      split at hj
                      next hholds =>
                          obtain rfl | hj := List.mem_cons.mp hj
                          · exact fun hlive => htop ((live_look_iff hs).mpr ⟨hholds, hlive⟩)
                          · exact hrest j hj
                      next => exact hrest j hj
                  next preferred other hs =>
                      refine ih _ (fun j hj => ?_) hreaders haccepted
                      obtain rfl | hj := List.mem_cons.mp hj
                      · exact fun hlive => htop ((live_branch_iff hs).mpr (.inl hlive))
                      · obtain rfl | hj := List.mem_cons.mp hj
                        · exact fun hlive => htop ((live_branch_iff hs).mpr (.inr hlive))
                        · exact hrest j hj
                  next hs => exact ⟨fun _ => htop (live_accept hs), hreaders⟩
                  next => exact ⟨haccepted, hreaders⟩

/-! ## One place after the other -/

theorem exists_live_iff (before : Option Char) (rest : List Char) (pending : List Nat) :
    (∃ i ∈ pending, Live a ⟨before, rest⟩ i) ↔
      (a.follow before rest.head? (a.fuel pending.length) pending (.none a)).accepted = true ∨
        ∃ r ∈ (a.follow before rest.head? (a.fuel pending.length) pending (.none a)).readers,
          LiveReader a ⟨before, rest⟩ r := by
  constructor
  · rintro ⟨i, hi, hlive⟩
    have hopen : (Threads.none a).Open a ⟨before, rest⟩ pending := by
      refine ⟨by simp [Threads.none], rfl, fun j s hj hs => ?_⟩
      obtain ⟨hlt, -⟩ := Array.getElem?_eq_some_iff.mp hs
      simp [Threads.Done, Threads.none, Array.getD_eq_getD_getElem?, hlt] at hj
    have hfuel : pending.length + 2 * (Threads.none a).waiting ≤ a.fuel pending.length := by
      simp [Threads.waiting, Threads.none, Automaton.fuel]
    obtain haccepted | ⟨hclosed, hdone⟩ := follow_open hopen hfuel
    · exact .inl haccepted
    · exact .inr (hclosed.exists_reader (hdone i (.inr hi)) hlive)
  · have hstart : ∀ i ∈ pending, Live a ⟨before, rest⟩ i →
        ∃ i ∈ pending, Live a ⟨before, rest⟩ i := fun i hi hlive => ⟨i, hi, hlive⟩
    obtain ⟨haccepted, hreaders⟩ := follow_sound (p := ⟨before, rest⟩) (a.fuel pending.length)
      (.none a) hstart (by simp [Threads.none]) (by simp [Threads.none])
    rintro (h | ⟨r, hr, hlive⟩)
    · exact haccepted h
    · exact hreaders r hr hlive

theorem mem_after_iff {c : Char} :
    i ∈ threads.after c ↔ ∃ set, (set, i) ∈ threads.readers ∧ set.has c = true := by
  suffices h : ∀ (readers : List (CharSet × Nat)) (found : List Nat),
      i ∈ readers.foldl (fun states r => if r.1.has c then r.2 :: states else states) found ↔
        i ∈ found ∨ ∃ set, (set, i) ∈ readers ∧ set.has c = true by
    simpa [Threads.after] using h threads.readers []
  intro readers
  induction readers with
  | nil => simp
  | cons r readers ih =>
      intro found
      obtain ⟨set, next⟩ := r
      rw [List.foldl_cons, ih]
      by_cases hset : set.has c = true
      · simp only [hset, if_true, List.mem_cons, Prod.mk.injEq]
        grind
      · simp only [hset, Bool.false_eq_true, if_false, List.mem_cons, Prod.mk.injEq]
        grind

theorem exists_reader_iff {before : Option Char} {c : Char} {rest : List Char} :
    (∃ r ∈ threads.readers, LiveReader a ⟨before, c :: rest⟩ r) ↔
      ∃ i ∈ threads.after c, Live a ⟨some c, rest⟩ i := by
  constructor
  · rintro ⟨⟨set, next⟩, hr, m, htakes, hlive⟩
    cases htakes with
    | char hset => exact ⟨next, mem_after_iff.mpr ⟨set, hr, hset⟩, hlive⟩
  · rintro ⟨next, hnext, hlive⟩
    obtain ⟨set, hr, hset⟩ := mem_after_iff.mp hnext
    exact ⟨(set, next), hr, _, .char hset, hlive⟩

theorem not_liveReader_nil {before : Option Char} {r : CharSet × Nat} :
    ¬ LiveReader a ⟨before, []⟩ r := by
  rintro ⟨m, htakes, -⟩
  cases htakes

def StartsIn (a : Automaton) (before : Option Char) (text : List Char) : Prop :=
  ∃ front rest, text = front ++ rest ∧ Live a ⟨front.getLast?.or before, rest⟩ a.start

theorem startsIn_nil_iff {before : Option Char} :
    StartsIn a before [] ↔ Live a ⟨before, []⟩ a.start := by
  constructor
  · rintro ⟨front, rest, hsplit, hlive⟩
    obtain ⟨rfl, rfl⟩ := List.append_eq_nil_iff.mp hsplit.symm
    exact hlive
  · exact fun hlive => ⟨[], [], rfl, hlive⟩

theorem startsIn_cons_iff {before : Option Char} {c : Char} {rest : List Char} :
    StartsIn a before (c :: rest) ↔
      Live a ⟨before, c :: rest⟩ a.start ∨ StartsIn a (some c) rest := by
  have hlast : ∀ front : List Char,
      (c :: front).getLast?.or before = front.getLast?.or (some c) := fun front => by
    rw [List.getLast?_cons]
    cases front.getLast? <;> rfl
  constructor
  · rintro ⟨_ | ⟨d, front⟩, behind, hsplit, hlive⟩
    · obtain rfl : c :: rest = behind := hsplit
      exact .inl hlive
    · obtain ⟨rfl, rfl⟩ : c = d ∧ rest = front ++ behind := by simpa using hsplit
      exact .inr ⟨front, behind, rfl, hlast front ▸ hlive⟩
  · rintro (hlive | ⟨front, behind, rfl, hlive⟩)
    · exact ⟨[], c :: rest, rfl, hlive⟩
    · exact ⟨c :: front, behind, rfl, (hlast front).symm ▸ hlive⟩

/-- The states that a search follows at a place: with no match so far, a new one may begin. -/
def Automaton.entering (a : Automaton) (entry : Bool) (pending : List Nat) (found : Option Nat) :
    List Nat :=
  if entry && found.isNone then pending ++ [a.start] else pending

theorem exists_live_entering_iff {entry : Bool} {pending : List Nat} {found : Option Nat} :
    found.isSome = true ∨ (∃ i ∈ a.entering entry pending found, Live a p i) ↔
      found.isSome = true ∨ (∃ i ∈ pending, Live a p i) ∨ entry = true ∧ Live a p a.start := by
  unfold Automaton.entering
  cases entry <;> cases found <;> simp [or_and_right, exists_or]

theorem search_nil {entry : Bool} {before : Option Char} {position : Nat} {pending : List Nat}
    {found : Option Nat} (h : a.follow before none (a.fuel (a.entering entry pending found).length)
      (a.entering entry pending found) (.none a) = threads) :
    a.search entry before position pending found [] =
      if threads.accepted then some position else found := by
  subst h
  rfl

theorem search_cons {entry : Bool} {before : Option Char} {position : Nat} {pending : List Nat}
    {found : Option Nat} {c : Char} {rest : List Char}
    (h : a.follow before (some c) (a.fuel (a.entering entry pending found).length)
      (a.entering entry pending found) (.none a) = threads) :
    a.search entry before position pending found (c :: rest) =
      let found := if threads.accepted then some position else found
      if (threads.after c).isEmpty && (found.isSome || !entry) then found
      else a.search entry (some c) (position + 1) (threads.after c) found rest := by
  subst h
  rfl

/-- What is pending, or any later start if the search may start anew, decides whether a match is
found. -/
theorem search_isSome_iff {entry : Bool} {before : Option Char} {position : Nat}
    {pending : List Nat} {found : Option Nat} {rest : List Char} :
    (a.search entry before position pending found rest).isSome = true ↔
      found.isSome = true ∨ (∃ i ∈ pending, Live a ⟨before, rest⟩ i) ∨
        entry = true ∧ StartsIn a before rest := by
  induction rest generalizing before position pending found with
  | nil =>
      have hlive := exists_live_iff (a := a) before [] (a.entering entry pending found)
      rw [List.head?_nil] at hlive
      generalize hthreads : a.follow before none _ _ _ = threads at hlive
      simp only [not_liveReader_nil, and_false, exists_false, or_false] at hlive
      rw [startsIn_nil_iff, ← exists_live_entering_iff, hlive, search_nil hthreads]
      split <;> simp_all
  | cons c rest ih =>
      have hlive := exists_live_iff (a := a) before (c :: rest) (a.entering entry pending found)
      rw [List.head?_cons, exists_reader_iff] at hlive
      generalize hthreads : a.follow before (some c) _ _ _ = threads at hlive
      have hentering : found.isSome = true ∨ (∃ i ∈ pending, Live a ⟨before, c :: rest⟩ i) ∨
            entry = true ∧ StartsIn a before (c :: rest) ↔
          (found.isSome = true ∨ threads.accepted = true ∨
            ∃ i ∈ threads.after c, Live a ⟨some c, rest⟩ i) ∨
              entry = true ∧ StartsIn a (some c) rest := by
        rw [← hlive, exists_live_entering_iff, startsIn_cons_iff, and_or_left]
        simp only [or_assoc]
      have hfound : (if threads.accepted then some position else found).isSome = true ↔
          found.isSome = true ∨ threads.accepted = true := by
        split <;> simp_all
      rw [hentering, search_cons hthreads, ← or_assoc, ← hfound]
      generalize (if threads.accepted then some position else found) = found
      dsimp only
      split
      next hstop =>
          -- Nothing is pending, and with a match or without the right to begin one it ends here.
          obtain ⟨hnone, hends⟩ : threads.after c = [] ∧ (found.isSome = true ∨ entry = false) := by
            simpa using hstop
          rw [hnone]
          obtain hsome | rfl := hends <;> simp_all
      next => rw [ih, or_assoc]

/-! ## Patterns -/

theorem live_start_ofRegex_iff {r : Regex} :
    Live (Automaton.ofRegex r) p (Automaton.ofRegex r).start ↔ ∃ q, r.Matches p q := by
  rw [Live, exists_comm]
  exact exists_congr fun q => accepts_ofRegex_iff

theorem firstStop_isSome_iff {r : Regex} {text : List Char} :
    ((ofRegex r).firstStop none text).isSome = true ↔
      ∃ front rest q, text = front ++ rest ∧ r.Matches ⟨front.getLast?, rest⟩ q := by
  simp only [firstStop, ofRegex, search_isSome_iff, StartsIn, live_start_ofRegex_iff,
    Option.or_none, ← exists_and_left]
  simp

end Pattern

end SourceContract
