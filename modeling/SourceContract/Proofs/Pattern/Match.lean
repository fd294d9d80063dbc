import Mathlib.Data.Nat.Basic
import Mathlib.Logic.Relation
import Mathlib.Order.Basic
import SourceContract.Pattern.Automaton

/-!
# What an automaton accepts

An expression relates the places where a match begins to those where it ends.  The
automaton built from it leads from its start to acceptance between exactly these
places.

The states that an expression adds form a fragment.  A run that enters a fragment comes
out of it at the state that follows the expression, with fewer steps to go, and in
between it has passed over a match.  The steps carry the induction for loops, where a
match may well be empty.
-/

namespace SourceContract.Pattern

open Text

/-! ## Matches -/

structure Point where
  before : Option Char
  rest : List Char

/-- Places where something begins, and places where it then ends. -/
abbrev Stretch := Point → Point → Prop

inductive Takes (set : CharSet) : Stretch
  | char {before : Option Char} {c : Char} {rest : List Char} (h : set.has c = true) :
      Takes set ⟨before, c :: rest⟩ ⟨some c, rest⟩

def Times (R : Stretch) : Nat → Stretch
  | 0 => Eq
  | n + 1 => Relation.Comp R (Times R n)

def Look.HoldsAt (condition : Look) (p : Point) : Prop :=
  condition.holds p.before p.rest.head? = true

/-- Where a match of the expression begins and ends.  What is preferred plays no part. -/
def Regex.Matches : Regex → Stretch
  | .empty => Eq
  | .set s => Takes s
  | .look l => fun p q => p = q ∧ l.HoldsAt p
  | .concat a b => Relation.Comp a.Matches b.Matches
  | .alt a b => fun p q => a.Matches p q ∨ b.Matches p q
  | .repetition lo hi _ r => fun p q =>
      ∃ n, lo ≤ n ∧ (∀ m ∈ hi, n ≤ max lo m) ∧ Times r.Matches n p q
  | .group r => r.Matches

theorem times_add {R : Stretch} (m n : Nat) :
    Times R (m + n) = Relation.Comp (Times R m) (Times R n) := by
  induction m with
  | zero => rw [Nat.zero_add, Times, Relation.eq_comp]
  | succ m ih => rw [Nat.succ_add, Times, ih, Times, Relation.comp_assoc]

theorem times_le_succ_iff {R : Stretch} {n : Nat} {p q : Point} :
    (∃ k ≤ n + 1, Times R k p q) ↔
      Relation.Comp R (fun p q => ∃ k ≤ n, Times R k p q) p q ∨ p = q := by
  constructor
  · rintro ⟨_ | k, hk, htimes⟩
    · exact .inr htimes
    · obtain ⟨m, hR, htimes⟩ := htimes
      exact .inl ⟨m, hR, k, Nat.le_of_succ_le_succ hk, htimes⟩
  · rintro (⟨m, hR, k, hk, htimes⟩ | rfl)
    · exact ⟨k + 1, Nat.succ_le_succ hk, m, hR, htimes⟩
    · exact ⟨0, Nat.zero_le _, rfl⟩

theorem times_any_iff {R : Stretch} {p q : Point} :
    (∃ n, Times R n p q) ↔ Relation.Comp R (fun p q => ∃ n, Times R n p q) p q ∨ p = q := by
  constructor
  · rintro ⟨_ | n, htimes⟩
    · exact .inr htimes
    · obtain ⟨m, hR, htimes⟩ := htimes
      exact .inl ⟨m, hR, n, htimes⟩
  · rintro (⟨m, hR, n, htimes⟩ | rfl)
    · exact ⟨n + 1, m, hR, htimes⟩
    · exact ⟨0, rfl⟩

/-! ## Expressions in a row -/

theorem matches_ofList_cons {r : Regex} {rs : List Regex} {p q : Point} :
    (Regex.ofList (r :: rs)).Matches p q ↔
      ∃ m, r.Matches p m ∧ (Regex.ofList rs).Matches m q := by
  cases rs with
  | nil => simp [Regex.ofList, Regex.Matches]
  | cons r' rs => rfl

theorem matches_ofList_append {rs rs' : List Regex} {p q : Point} :
    (Regex.ofList (rs ++ rs')).Matches p q ↔
      ∃ m, (Regex.ofList rs).Matches p m ∧ (Regex.ofList rs').Matches m q := by
  induction rs generalizing p with
  | nil => simp [Regex.ofList, Regex.Matches]
  | cons r rs ih =>
      simp only [List.cons_append, matches_ofList_cons, ih]
      constructor
      · rintro ⟨m, hr, m', hrs, hrs'⟩
        exact ⟨m', ⟨m, hr, hrs⟩, hrs'⟩
      · rintro ⟨m', ⟨m, hr, hrs⟩, hrs'⟩
        exact ⟨m, hr, m', hrs, hrs'⟩

def Point.past (p : Point) (passed rest : List Char) : Point :=
  ⟨passed.getLast?.or p.before, rest⟩

@[simp] theorem Point.past_rest (p : Point) (passed rest : List Char) :
    (p.past passed rest).rest = rest := rfl

@[simp] theorem Point.past_before (p : Point) (passed rest : List Char) :
    (p.past passed rest).before = passed.getLast?.or p.before := rfl

theorem Point.past_cons (p : Point) (c : Char) (passed rest : List Char) :
    p.past (c :: passed) rest = Point.past ⟨some c, passed ++ rest⟩ passed rest := by
  unfold Point.past
  rw [List.getLast?_cons]
  cases passed.getLast? <;> rfl

theorem takes_iff {set : CharSet} {p q : Point} :
    Takes set p q ↔ ∃ c rest, p.rest = c :: rest ∧ set.has c = true ∧ q = ⟨some c, rest⟩ := by
  constructor
  · rintro ⟨hset⟩
    exact ⟨_, _, rfl, hset, rfl⟩
  · obtain ⟨before, text⟩ := p
    rintro ⟨c, rest, rfl, hset, rfl⟩
    exact .char hset

theorem has_singleton_iff {c d : Char} : (CharSet.singleton c).has d = true ↔ d = c := by
  simp only [CharSet.singleton, CharSet.has, CharSet.contains, CharSet.inRanges]
  rw [← Char.toNat_inj]
  split <;> simp <;> omega

def Regex.chars (word : List Char) : List Regex := word.map fun c => .set (CharSet.singleton c)

theorem matches_chars_iff {word : List Char} {p q : Point} :
    (Regex.ofList (Regex.chars word)).Matches p q ↔
      ∃ rest, p.rest = word ++ rest ∧ q = p.past word rest := by
  induction word generalizing p with
  | nil =>
      obtain ⟨before, text⟩ := p
      simp [Regex.chars, Regex.ofList, Regex.Matches, Point.past, eq_comm]
  | cons c word ih =>
      rw [Regex.chars, List.map_cons, matches_ofList_cons]
      simp only [Regex.Matches, takes_iff, has_singleton_iff]
      constructor
      · rintro ⟨m, ⟨d, rest, hp, rfl, rfl⟩, hword⟩
        obtain ⟨behind, rfl, rfl⟩ := ih.mp hword
        exact ⟨behind, hp, (p.past_cons ..).symm⟩
      · rintro ⟨behind, hp, rfl⟩
        exact ⟨_, ⟨c, word ++ behind, hp, rfl, rfl⟩, ih.mpr ⟨behind, rfl, p.past_cons ..⟩⟩

theorem times_takes_iff {set : CharSet} {n : Nat} {p q : Point} :
    Times (Takes set) n p q ↔
      ∃ passed rest, p.rest = passed ++ rest ∧ passed.length = n ∧
        (∀ c ∈ passed, set.has c = true) ∧ q = p.past passed rest := by
  induction n generalizing p with
  | zero =>
      simp only [Times, List.length_eq_zero_iff]
      constructor
      · rintro rfl
        exact ⟨[], p.rest, rfl, rfl, by simp, rfl⟩
      · obtain ⟨before, text⟩ := p
        rintro ⟨passed, rest, rfl, rfl, -, rfl⟩
        rfl
  | succ n ih =>
      simp only [Times, Relation.Comp, takes_iff]
      constructor
      · rintro ⟨m, ⟨c, rest, hp, hset, rfl⟩, htimes⟩
        obtain ⟨passed, rest, rfl, rfl, hall, rfl⟩ := ih.mp htimes
        exact ⟨c :: passed, rest, hp, rfl, List.forall_mem_cons.mpr ⟨hset, hall⟩,
          (p.past_cons ..).symm⟩
      · rintro ⟨passed, rest, hp, hlength, hall, rfl⟩
        obtain ⟨c, passed, rfl⟩ := List.exists_cons_of_length_eq_add_one hlength
        obtain ⟨hset, hall⟩ := List.forall_mem_cons.mp hall
        refine ⟨⟨some c, passed ++ rest⟩, ⟨c, passed ++ rest, hp, hset, rfl⟩, ih.mpr ?_⟩
        exact ⟨passed, rest, rfl, Nat.succ.inj hlength, hall, p.past_cons ..⟩

theorem matches_repetition_set_iff {set : CharSet} {greedy : Bool} {p q : Point} :
    (Regex.repetition 0 none greedy (.set set)).Matches p q ↔
      ∃ passed rest, p.rest = passed ++ rest ∧ (∀ c ∈ passed, set.has c = true) ∧
        q = p.past passed rest := by
  simp only [Regex.Matches, times_takes_iff]
  constructor
  · rintro ⟨n, -, -, passed, rest, hp, -, hall, rfl⟩
    exact ⟨passed, rest, hp, hall, rfl⟩
  · rintro ⟨passed, rest, hp, hall, rfl⟩
    exact ⟨passed.length, Nat.zero_le _, by simp, passed, rest, hp, rfl, hall, rfl⟩

/-! ## Runs -/

/-- Acceptance after a number of steps: the state, the place it is entered at, and the place where
the run accepts. -/
inductive Accepts (states : Array State) : Nat → Nat → Stretch
  | accept {i : Nat} {p : Point} (h : states[i]? = some .accept) : Accepts states 0 i p p
  | read {n i next : Nat} {set : CharSet} {p m q : Point}
      (h : states[i]? = some (.read set next)) (htakes : Takes set p m)
      (hnext : Accepts states n next m q) : Accepts states (n + 1) i p q
  | look {n i next : Nat} {condition : Look} {p q : Point}
      (h : states[i]? = some (.look condition next)) (hholds : condition.HoldsAt p)
      (hnext : Accepts states n next p q) : Accepts states (n + 1) i p q
  | preferred {n i preferred other : Nat} {p q : Point}
      (h : states[i]? = some (.branch preferred other))
      (hnext : Accepts states n preferred p q) : Accepts states (n + 1) i p q
  | other {n i preferred other : Nat} {p q : Point}
      (h : states[i]? = some (.branch preferred other))
      (hnext : Accepts states n other p q) : Accepts states (n + 1) i p q

variable {states : Array State} {i n entry between exit first past again next : Nat}
  {p q : Point} {R R' : Stretch} {α β : Type}

def Forks (states : Array State) (i first past : Nat) : Prop :=
  states[i]? = some (.branch first past) ∨ states[i]? = some (.branch past first)

theorem accepts_of_read {set : CharSet} (h : states[i]? = some (.read set next))
    (hrun : Accepts states n i p q) :
    ∃ m k, k < n ∧ Takes set p m ∧ Accepts states k next m q := by
  cases hrun with
  | read hi htakes hnext =>
      obtain ⟨rfl, rfl⟩ : _ ∧ _ := by simpa [h] using hi
      exact ⟨_, _, Nat.lt_succ_self _, htakes, hnext⟩
  | _ hi => simp [h] at hi

theorem accepts_of_look {condition : Look} (h : states[i]? = some (.look condition next))
    (hrun : Accepts states n i p q) :
    condition.HoldsAt p ∧ ∃ k, k < n ∧ Accepts states k next p q := by
  cases hrun with
  | look hi hholds hnext =>
      obtain ⟨rfl, rfl⟩ : _ ∧ _ := by simpa [h] using hi
      exact ⟨hholds, _, Nat.lt_succ_self _, hnext⟩
  | _ hi => simp [h] at hi

theorem accepts_of_branch {preferred other : Nat}
    (h : states[i]? = some (.branch preferred other)) (hrun : Accepts states n i p q) :
    ∃ k, k < n ∧ (Accepts states k preferred p q ∨ Accepts states k other p q) := by
  cases hrun with
  | preferred hi hnext =>
      obtain ⟨rfl, rfl⟩ : _ ∧ _ := by simpa [h] using hi
      exact ⟨_, Nat.lt_succ_self _, .inl hnext⟩
  | other hi hnext =>
      obtain ⟨rfl, rfl⟩ : _ ∧ _ := by simpa [h] using hi
      exact ⟨_, Nat.lt_succ_self _, .inr hnext⟩
  | _ hi => simp [h] at hi

theorem accepts_of_accept (h : states[i]? = some .accept) (hrun : Accepts states n i p q) :
    p = q := by
  cases hrun with
  | accept => rfl
  | _ hi => simp [h] at hi

namespace Forks

theorem cases (h : Forks states i first past) (hrun : Accepts states n i p q) :
    ∃ k, k < n ∧ (Accepts states k first p q ∨ Accepts states k past p q) := by
  obtain hi | hi := h
  · exact accepts_of_branch hi hrun
  · obtain ⟨k, hk, hrun⟩ := accepts_of_branch hi hrun
    exact ⟨k, hk, hrun.symm⟩

theorem accepts_first (h : Forks states i first past) (hrun : Accepts states n first p q) :
    Accepts states (n + 1) i p q := by
  obtain hi | hi := h
  · exact .preferred hi hrun
  · exact .other hi hrun

theorem accepts_past (h : Forks states i first past) (hrun : Accepts states n past p q) :
    Accepts states (n + 1) i p q := by
  obtain hi | hi := h
  · exact .other hi hrun
  · exact .preferred hi hrun

end Forks

/-! ## Fragments -/

/-- The states from `entry` to `exit` pass over a stretch. -/
structure Fragment (states : Array State) (R : Stretch) (entry exit : Nat) : Prop where
  sound : ∀ {n p q}, Accepts states n entry p q →
    ∃ m k, k ≤ n ∧ R p m ∧ Accepts states k exit m q
  complete : ∀ {n p m q}, R p m → Accepts states n exit m q → ∃ k, Accepts states k entry p q

namespace Fragment

theorem congr (h : Fragment states R entry exit) (hR : ∀ p q, R p q ↔ R' p q) :
    Fragment states R' entry exit := by
  obtain rfl : R = R' := funext fun p => funext fun q => propext (hR p q)
  exact h

theorem refl : Fragment states Eq entry entry where
  sound hrun := ⟨_, _, Nat.le_refl _, rfl, hrun⟩
  complete := by
    rintro n p m q rfl hrun
    exact ⟨n, hrun⟩

theorem comp (h : Fragment states R entry between) (h' : Fragment states R' between exit) :
    Fragment states (Relation.Comp R R') entry exit where
  sound hrun := by
    obtain ⟨m, k, hk, hR, hrun⟩ := h.sound hrun
    obtain ⟨m', k', hk', hR', hrun⟩ := h'.sound hrun
    exact ⟨m', k', hk'.trans hk, ⟨m, hR, hR'⟩, hrun⟩
  complete := by
    rintro n p m' q ⟨m, hR, hR'⟩ hrun
    obtain ⟨k, hrun⟩ := h'.complete hR' hrun
    exact h.complete hR hrun

theorem fork (hi : Forks states i first past) (h : Fragment states R first exit)
    (h' : Fragment states R' past exit) :
    Fragment states (fun p q => R p q ∨ R' p q) i exit where
  sound hrun := by
    obtain ⟨k, hk, hrun | hrun⟩ := hi.cases hrun
    · obtain ⟨m, l, hl, hR, hrun⟩ := h.sound hrun
      exact ⟨m, l, hl.trans hk.le, .inl hR, hrun⟩
    · obtain ⟨m, l, hl, hR, hrun⟩ := h'.sound hrun
      exact ⟨m, l, hl.trans hk.le, .inr hR, hrun⟩
  complete := by
    rintro n p m q (hR | hR) hrun
    · obtain ⟨k, hrun⟩ := h.complete hR hrun
      exact ⟨k + 1, hi.accepts_first hrun⟩
    · obtain ⟨k, hrun⟩ := h'.complete hR hrun
      exact ⟨k + 1, hi.accepts_past hrun⟩

theorem read {set : CharSet} (h : states[i]? = some (.read set next)) :
    Fragment states (Takes set) i next where
  sound hrun := by
    obtain ⟨m, k, hk, htakes, hrun⟩ := accepts_of_read h hrun
    exact ⟨m, k, hk.le, htakes, hrun⟩
  complete htakes hrun := ⟨_, .read h htakes hrun⟩

theorem look {condition : Look} (h : states[i]? = some (.look condition next)) :
    Fragment states (fun p q => p = q ∧ condition.HoldsAt p) i next where
  sound hrun := by
    obtain ⟨hholds, k, hk, hrun⟩ := accepts_of_look h hrun
    exact ⟨_, k, hk.le, ⟨rfl, hholds⟩, hrun⟩
  complete := by
    rintro n p m q ⟨rfl, hholds⟩ hrun
    exact ⟨n + 1, .look h hholds hrun⟩

theorem star (hi : Forks states again first exit) (h : Fragment states R first again) :
    Fragment states (fun p q => ∃ n, Times R n p q) again exit where
  sound {n p q} hrun := by
    -- The text may be as long as before after a turn, but the run is shorter.
    induction n using Nat.strongRecOn generalizing p with
    | ind n ih =>
        obtain ⟨k, hk, hrun | hrun⟩ := hi.cases hrun
        · obtain ⟨m, l, hl, hR, hrun⟩ := h.sound hrun
          obtain ⟨m', l', hl', ⟨t, htimes⟩, hrun⟩ := ih l (hl.trans_lt hk) hrun
          exact ⟨m', l', by omega, ⟨t + 1, m, hR, htimes⟩, hrun⟩
        · exact ⟨p, k, hk.le, ⟨0, rfl⟩, hrun⟩
  complete {n p m q} := by
    rintro ⟨t, htimes⟩ hrun
    induction t generalizing p with
    | zero =>
        obtain rfl : p = m := htimes
        exact ⟨n + 1, hi.accepts_past hrun⟩
    | succ t ih =>
        obtain ⟨m', hR, htimes⟩ := htimes
        obtain ⟨k, hrun⟩ := ih htimes
        obtain ⟨l, hrun⟩ := h.complete hR hrun
        exact ⟨l + 1, hi.accepts_first hrun⟩

end Fragment

/-! ## Building

States are added at the end.  What holds of an addition holds wherever the added states stay what
they are, so it survives all that is built later. -/

structure Adds (before after : Array State) (P : Array State → Prop) : Prop where
  size_le : before.size ≤ after.size
  unchanged : ∀ i < before.size, after[i]? = before[i]?
  holds : ∀ states : Array State,
    (∀ i, before.size ≤ i → i < after.size → states[i]? = after[i]?) → P states

def Yields (step : Building α) (P : Array State → α → Prop) : Prop :=
  ∀ before, Adds before (step.run before).2 fun states => P states (step.run before).1

namespace Yields

variable {step : Building α} {then_ : α → Building β} {P Q : Array State → α → Prop}
  {Q' : α → Array State → β → Prop}

theorem mono (h : Yields step P) (himp : ∀ states a, P states a → Q states a) :
    Yields step Q := fun before =>
  ⟨(h before).size_le, (h before).unchanged,
    fun states hstates => himp states _ ((h before).holds states hstates)⟩

theorem pure (a : α) : Yields (pure a : Building α) fun _ b => b = a := fun _ =>
  ⟨Nat.le_refl _, fun _ _ => rfl, fun _ _ => rfl⟩

theorem bind (h : Yields step P) (h' : ∀ a, Yields (then_ a) (Q' a)) :
    Yields (step >>= then_) fun states b => ∃ a, P states a ∧ Q' a states b := by
  intro before
  have hstep := h before
  have hthen := h' (step.run before).1 (step.run before).2
  refine ⟨hstep.size_le.trans hthen.size_le, fun i hi => ?_, fun states hstates => ?_⟩
  · exact (hthen.unchanged i (hi.trans_le hstep.size_le)).trans (hstep.unchanged i hi)
  · refine ⟨(step.run before).1, hstep.holds states fun i hlow hhigh => ?_,
      hthen.holds states fun i hlow hhigh => ?_⟩
    · exact (hstates i hlow (hhigh.trans_le hthen.size_le)).trans (hthen.unchanged i hhigh)
    · exact hstates i (hstep.size_le.trans hlow) hhigh

end Yields

theorem addState_yields (s : State) : Yields (addState s) fun states i => states[i]? = some s := by
  intro before
  have hrun : (addState s).run before = (before.size, before.push s) := rfl
  rw [hrun]
  refine ⟨by simp, fun i hi => by rw [Array.getElem?_push, if_neg hi.ne], fun states hstates => ?_⟩
  have hlast := hstates before.size (Nat.le_refl _) (by simp)
  rwa [Array.getElem?_push_size] at hlast

theorem fork_yields (greedy : Bool) (body past : Nat) :
    Yields (fork greedy body past) fun states i => Forks states i body past := by
  cases greedy with
  | true => exact (addState_yields _).mono fun _ _ h => .inl h
  | false => exact (addState_yields _).mono fun _ _ h => .inr h

/-- A builder whose states lead from the one it gives to the one it is given. -/
def Builds (build : Nat → Building Nat) (R : Stretch) : Prop :=
  ∀ next, Yields (build next) fun states entry => Fragment states R entry next

variable {body : Nat → Building Nat}

theorem builds_copies (h : Builds body R) (n : Nat) : Builds (copies body n) (Times R n) := by
  induction n with
  | zero =>
      intro next
      refine (Yields.pure next).mono ?_
      rintro states _ rfl
      exact .refl
  | succ n ih =>
      intro next
      refine ((ih next).bind fun between => h between).mono ?_
      rintro states entry ⟨between, htimes, hbody⟩
      exact hbody.comp htimes

theorem builds_optionals (h : Builds body R) (greedy : Bool) (n : Nat) :
    Builds (optionals body greedy n) fun p q => ∃ k ≤ n, Times R k p q := by
  induction n with
  | zero =>
      intro next
      refine (Yields.pure next).mono ?_
      rintro states _ rfl
      exact Fragment.refl.congr fun p q => by simp [Times]
  | succ n ih =>
      intro next
      refine ((ih next).bind fun between =>
        (h between).bind fun first => fork_yields greedy first next).mono ?_
      rintro states entry ⟨between, hrest, first, hbody, hfork⟩
      exact (Fragment.fork hfork (hbody.comp hrest) .refl).congr fun p q => times_le_succ_iff.symm

/-- The branch of a loop is put in place behind the body, but it was there before it. -/
theorem loop_yields (h : Builds body R) (greedy : Bool) (next : Nat) :
    Yields (loop body greedy next) fun states branches =>
      Forks states branches.1 branches.2 next ∧
        Fragment states R branches.2 branches.1 := by
  intro before
  obtain ⟨hsize, hunchanged, hbody⟩ := h before.size (before.push .accept)
  generalize hbuilt : (body before.size).run (before.push .accept) = built
    at hsize hunchanged hbody
  obtain ⟨first, after⟩ := built
  have hrun : (loop body greedy next).run before =
      ((before.size, first), after.setIfInBounds before.size
        (if greedy then .branch first next else .branch next first)) := by
    have hloop : (loop body greedy next).run before =
        ((before.size, ((body before.size).run (before.push .accept)).1),
          ((if greedy then setBranch before.size
              ((body before.size).run (before.push .accept)).1 next
            else setBranch before.size next
              ((body before.size).run (before.push .accept)).1).run
            ((body before.size).run (before.push .accept)).2).2) := by
      cases greedy <;> rfl
    rw [hloop, hbuilt]
    cases greedy <;> rfl
  rw [hrun]
  simp only [Array.size_push] at hsize hunchanged hbody
  refine ⟨?_, fun i hi => ?_, fun states hstates => ?_⟩
  · rw [Array.size_setIfInBounds]
    omega
  · rw [Array.getElem?_setIfInBounds_ne hi.ne', hunchanged i (by omega),
      Array.getElem?_push, if_neg hi.ne]
  · -- The place of the branch lies outside of the body, so putting it there changes no state of it.
    simp only [Array.size_setIfInBounds] at hstates
    refine ⟨?_, hbody states fun i hlow hhigh => ?_⟩
    · have hagain := hstates before.size (Nat.le_refl _) (by omega)
      rw [Array.getElem?_setIfInBounds_self_of_lt (by omega)] at hagain
      cases greedy
      · exact .inr hagain
      · exact .inl hagain
    · rw [hstates i (by omega) hhigh, Array.getElem?_setIfInBounds_ne (by omega)]

theorem builds_bounded {r : Regex} (h : Builds r.build R) (lo hi : Nat) (greedy : Bool) :
    Builds (Regex.repetition lo (some hi) greedy r).build fun p q =>
      ∃ n, lo ≤ n ∧ (∀ m ∈ some hi, n ≤ max lo m) ∧ Times R n p q := by
  intro next
  refine ((builds_optionals h greedy (hi - lo) next).bind fun between =>
    builds_copies h lo between).mono ?_
  rintro states entry ⟨between, hrest, hcopies⟩
  refine (hcopies.comp hrest).congr fun p q => ?_
  constructor
  · rintro ⟨m, hlo, k, hk, htimes⟩
    refine ⟨lo + k, by omega, ?_, by rw [times_add]; exact ⟨m, hlo, htimes⟩⟩
    rintro _ ⟨⟩
    omega
  · rintro ⟨n, hlo, hhi, htimes⟩
    obtain ⟨k, rfl⟩ := Nat.exists_eq_add_of_le hlo
    rw [times_add] at htimes
    obtain ⟨m, hcopies, hrest⟩ := htimes
    have hle := hhi hi rfl
    exact ⟨m, hcopies, k, by omega, hrest⟩

theorem times_succ_any_iff (lo : Nat) :
    Relation.Comp (Times R lo) (Relation.Comp R fun p q => ∃ n, Times R n p q) p q ↔
      ∃ n, lo + 1 ≤ n ∧ Times R n p q := by
  constructor
  · rintro ⟨m, hlo, m', hR, k, htimes⟩
    refine ⟨lo + (k + 1), by omega, ?_⟩
    rw [times_add]
    exact ⟨m, hlo, m', hR, htimes⟩
  · rintro ⟨n, hlo, htimes⟩
    obtain ⟨k, rfl⟩ := Nat.exists_eq_add_of_le hlo
    rw [Nat.add_assoc, Nat.add_comm 1, times_add] at htimes
    obtain ⟨m, hlo, m', hR, htimes⟩ := htimes
    exact ⟨m, hlo, m', hR, k, htimes⟩

theorem builds_unbounded {r : Regex} (h : Builds r.build R) (lo : Nat) (greedy : Bool) :
    Builds (Regex.repetition lo none greedy r).build fun p q => ∃ n, lo ≤ n ∧ Times R n p q := by
  intro next
  cases lo with
  | zero =>
      have hany : ∀ p q, (∃ n, Times R n p q) ↔ ∃ n, 0 ≤ n ∧ Times R n p q := by simp
      by_cases hnullable : r.nullable = true
      · have hbuild : (Regex.repetition 0 none greedy r).build next =
            (loop r.build greedy next >>= fun branches => fork greedy branches.2 next) := by
          simp [Regex.build, hnullable]
        rw [hbuild]
        refine ((loop_yields h greedy next).bind fun branches =>
          fork_yields greedy branches.2 next).mono ?_
        rintro states entry ⟨⟨again, first⟩, ⟨hforks, hbody⟩, hentry⟩
        refine (Fragment.fork hentry (hbody.comp (.star hforks hbody)) .refl).congr fun p q => ?_
        exact times_any_iff.symm.trans (hany p q)
      · have hbuild : (Regex.repetition 0 none greedy r).build next =
            (loop r.build greedy next >>= fun branches => pure branches.1) := by
          simp [Regex.build, hnullable]
        rw [hbuild]
        refine ((loop_yields h greedy next).bind fun branches => Yields.pure branches.1).mono ?_
        rintro states entry ⟨⟨again, first⟩, ⟨hforks, hbody⟩, rfl⟩
        exact (Fragment.star hforks hbody).congr hany
  | succ lo =>
      refine ((loop_yields h greedy next).bind fun branches =>
        builds_copies h lo branches.2).mono ?_
      rintro states entry ⟨⟨again, first⟩, ⟨hforks, hbody⟩, hcopies⟩
      exact (hcopies.comp (hbody.comp (.star hforks hbody))).congr fun p q => times_succ_any_iff lo

theorem builds_regex (r : Regex) : Builds r.build r.Matches := by
  induction r with
  | empty =>
      intro next
      refine (Yields.pure next).mono ?_
      rintro states _ rfl
      exact .refl
  | set s => exact fun next => (addState_yields _).mono fun _ _ => .read
  | look l => exact fun next => (addState_yields _).mono fun _ _ => .look
  | concat a b iha ihb =>
      intro next
      refine ((ihb next).bind fun between => iha between).mono ?_
      rintro states entry ⟨between, hb, ha⟩
      exact ha.comp hb
  | alt a b iha ihb =>
      intro next
      refine ((iha next).bind fun left => (ihb next).bind fun right =>
        addState_yields (.branch left right)).mono ?_
      rintro states entry ⟨left, ha, right, hb, hentry⟩
      exact .fork (.inl hentry) ha hb
  | group r ih => exact ih
  | repetition lo hi greedy r ih =>
      cases hi with
      | some hi => exact builds_bounded ih lo hi greedy
      | none => simpa [Regex.Matches] using builds_unbounded ih lo greedy

/-- The automaton of an expression leads from its start to acceptance between the places where a
match begins and ends. -/
theorem accepts_ofRegex_iff {r : Regex} :
    (∃ n, Accepts (Automaton.ofRegex r).states n (Automaton.ofRegex r).start p q) ↔
      r.Matches p q := by
  have hbuilt := ((addState_yields .accept).bind fun last => builds_regex r last) #[]
  obtain ⟨last, hlast, hfragment⟩ := hbuilt.holds (Automaton.ofRegex r).states fun _ _ _ => rfl
  constructor
  · rintro ⟨n, hrun⟩
    obtain ⟨m, k, -, hmatches, hrun⟩ := hfragment.sound hrun
    obtain rfl := accepts_of_accept hlast hrun
    exact hmatches
  · intro hmatches
    exact hfragment.complete hmatches (.accept hlast)

end SourceContract.Pattern
