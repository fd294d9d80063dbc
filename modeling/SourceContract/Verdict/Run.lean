import SourceContract.Corpus.Basic
import SourceContract.Verdict.Evaluate

/-!
# Running checks

A run evaluates checks in order on one corpus, which is empty at first.  A run that
is cancelled from the start evaluates none.
-/

namespace SourceContract

open Matching (MatchMode)

variable {m : Type → Type} [Monad m]

def evaluateAll (s : Source m) (mode : MatchMode) :
    List Check → Corpus → m (List CheckResult × Corpus)
  | [], corpus => pure ([], corpus)
  | c :: rest, corpus => do
      let (result, corpus) ← (c.evaluate mode).run s corpus
      let (results, corpus) ← evaluateAll s mode rest corpus
      return (result :: results, corpus)

def runChecks (s : Source m) (cancelled : Bool) (name : String) (mode : MatchMode)
    (checks : List Check) : m RunReport := do
  let (results, corpus) ← if cancelled then pure ([], Corpus.empty)
    else evaluateAll s mode checks .empty
  return .aggregate name results corpus.stats (results.length < checks.length)

def Contract.run (s : Source m) (cancelled : Bool) (c : Contract) : m RunReport :=
  runChecks s cancelled c.name c.matching c.checks

end SourceContract
