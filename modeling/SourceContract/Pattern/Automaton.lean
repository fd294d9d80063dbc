import SourceContract.Pattern.Regex

/-!
# Matching automata

An automaton is an array of states.  A state reads a character, holds a place to a
condition, branches in order of preference, or accepts.

A run keeps the states reached at the current place as threads, the preferred one
first.  Where one thread accepts, those behind it are given up: they could only
yield a match that is less preferred.  Each state is visited once a place, so the
work is linear in the text.
-/

namespace SourceContract.Pattern

open Text

inductive State where
  | read (set : CharSet) (next : Nat)
  | look (condition : Look) (next : Nat)
  | branch (preferred other : Nat)
  | accept
deriving Repr

structure Automaton where
  states : Array State
  start : Nat
deriving Repr

/-! ## Building -/

abbrev Building := StateM (Array State)

def addState (s : State) : Building Nat :=
  modifyGet fun states => (states.size, states.push s)

def setBranch (i : Nat) (preferred other : Nat) : Building Unit :=
  modify fun states => states.setIfInBounds i (.branch preferred other)

def fork (greedy : Bool) (body past : Nat) : Building Nat :=
  addState (if greedy then .branch body past else .branch past body)

def copies (body : Nat → Building Nat) : Nat → Nat → Building Nat
  | 0, next => return next
  | n + 1, next => do body (← copies body n next)

def optionals (body : Nat → Building Nat) (greedy : Bool) : Nat → Nat → Building Nat
  | 0, next => return next
  | n + 1, next => do fork greedy (← body (← optionals body greedy n next)) next

def loop (body : Nat → Building Nat) (greedy : Bool) (next : Nat) : Building (Nat × Nat) := do
  let again ← addState .accept
  let first ← body again
  if greedy then setBranch again first next else setBranch again next first
  return (again, first)

/-- Adds the states of an expression that is followed by the state `next`; gives the first one. -/
def Regex.build : Regex → Nat → Building Nat
  | .empty, next => return next
  | .set s, next => addState (.read s next)
  | .look l, next => addState (.look l next)
  | .concat a b, next => do a.build (← b.build next)
  | .alt a b, next => do
      let left ← a.build next
      let right ← b.build next
      addState (.branch left right)
  | .group r, next => r.build next
  | .repetition min (some max) greedy r, next => do
      copies r.build min (← optionals r.build greedy (max - min) next)
  | .repetition 0 none greedy r, next => do
      let (again, first) ← loop r.build greedy next
      if r.nullable then fork greedy first next else return again
  | .repetition (n + 1) none greedy r, next => do
      let (_, first) ← loop r.build greedy next
      copies r.build n first

def Automaton.ofRegex (r : Regex) : Automaton :=
  let (start, states) := (do r.build (← addState .accept) : Building Nat).run #[]
  ⟨states, start⟩

/-! ## Threads -/

/-- The threads at a place, the preferred one last, and the states visited there. -/
structure Threads where
  readers : List (CharSet × Nat)
  visited : Array Bool
  accepted : Bool

def Threads.none (a : Automaton) : Threads := ⟨[], Array.replicate a.states.size false, false⟩

/-- Follows conditions and branches from the states on the stack.  Each step visits a state or takes
a visited one from the stack, and a visit puts at most two on it. -/
def Automaton.follow (a : Automaton) (before after : Option Char) :
    Nat → List Nat → Threads → Threads
  | 0, _, threads => threads
  | _, [], threads => threads
  | fuel + 1, i :: stack, threads =>
      if threads.accepted then threads
      else if threads.visited.getD i true then a.follow before after fuel stack threads
      else
        let threads := { threads with visited := threads.visited.setIfInBounds i true }
        match a.states[i]? with
        | some (.read set next) =>
            a.follow before after fuel stack
              { threads with readers := (set, next) :: threads.readers }
        | some (.look condition next) =>
            a.follow before after fuel
              (if condition.holds before after then next :: stack else stack) threads
        | some (.branch preferred other) =>
            a.follow before after fuel (preferred :: other :: stack) threads
        | some .accept => { threads with accepted := true }
        | none => threads

def Automaton.fuel (a : Automaton) (n : Nat) : Nat := n + 2 * a.states.size + 1

def Threads.after (threads : Threads) (c : Char) : List Nat :=
  threads.readers.foldl (fun states (set, next) => if set.has c then next :: states else states) []

/-! ## Runs -/

/-- The end of the preferred match among those from the states in `pending`, with `found` for the
best one so far.  Unless one is found, a match may also start at the present place when `entry` is
set. -/
def Automaton.search (a : Automaton) (entry : Bool) (before : Option Char) (position : Nat)
    (pending : List Nat) (found : Option Nat) : List Char → Option Nat
  | [] =>
      let pending := if entry && found.isNone then pending ++ [a.start] else pending
      let threads := a.follow before none (a.fuel pending.length) pending (.none a)
      if threads.accepted then some position else found
  | c :: rest =>
      let pending := if entry && found.isNone then pending ++ [a.start] else pending
      let threads := a.follow before (some c) (a.fuel pending.length) pending (.none a)
      let found := if threads.accepted then some position else found
      let next := threads.after c
      if next.isEmpty && (found.isSome || !entry) then found
      else a.search entry (some c) (position + 1) next found rest

end SourceContract.Pattern
