import SourceContract.Pattern.Automaton
import SourceContract.Pattern.Meaning
import SourceContract.Pattern.Size

/-!
# Searching with patterns

A pattern is compiled once and then counted in texts.  Matches are taken from left
to right and do not overlap.  A match may be empty, but not at the end of the match
before it.
-/

namespace SourceContract

structure Pattern where
  automaton : Pattern.Automaton

namespace Pattern

def ofRegex (r : Regex) : Pattern := ⟨Automaton.ofRegex r⟩

def compile (text : String) : Except Fault Pattern :=
  match Regex.ofText text with
  | .error fault => .error (.text fault)
  | .ok r => if r.isTooLarge then .error (.tooLarge sizeLimit) else .ok (ofRegex r)

/-! ## Counting -/

def firstStop (p : Pattern) (before : Option Char) (rest : List Char) : Option Nat :=
  p.automaton.search true before 0 [] none rest

/-- Matches in `rest`; `behindMatch` says whether one ends right before it.  At a place the count
stops at most twice, so twice the length and two is enough fuel. -/
def countFrom (p : Pattern) : Nat → Bool → Option Char → List Char → Nat
  | 0, _, _, _ => 0
  | fuel + 1, behindMatch, before, rest =>
      match p.firstStop before rest with
      | none => 0
      | some 0 =>
          if !behindMatch then p.countFrom fuel true before rest + 1
          else match rest with
            | [] => 0
            | c :: rest => p.countFrom fuel false (some c) rest
      | some (n + 1) =>
          p.countFrom fuel true rest[n]? (rest.drop (n + 1)) + 1

def count (p : Pattern) (text : String) : Nat :=
  p.countFrom (2 * text.length + 2) false none text.toList

/-! ## Whole texts -/

def accepts (p : Pattern) (text : List Char) : Bool :=
  p.automaton.search false none 0 [p.automaton.start] none text == some text.length

end Pattern

end SourceContract
