import SourceContract.Contract.Basic
import SourceContract.Corpus.Access
import SourceContract.Matching.Tally
import SourceContract.Pattern.Search
import SourceContract.Verdict.Result

/-!
# Deciding a check

The check asks for its files and judges their texts.  Whatever goes wrong becomes
part of the result: a check that names a file which cannot be had fails with one
issue for each such file, before anything is judged.
-/

namespace SourceContract

open Matching

namespace Check

def passing (c : Check) (message : String) : CheckResult := .pass c.name c.kind message

def failing (c : Check) (message : String) : CheckResult := .fail c.name c.kind message

def missingFiles (c : Check) (errors : List LoadError) : CheckResult :=
  (c.failing ("file not found: " ++ ", ".intercalate (errors.map LoadError.path))).withIssues
    .missingResource (errors.map LoadError.message)

def errorsOf (answers : List (String × Entry)) : List LoadError :=
  answers.filterMap fun a => match a.2 with
    | .ok _ => none
    | .error e => some e

def issue (c : Check) (kind : IssueKind) (message : String) (count : Nat) : Issue :=
  ⟨c.name, kind, message, count⟩

/-! ## Files that have to be there -/

def isPresent (e : Entry) : Bool := present e.toOption

def decidePresent (c : Check) (answers : List (String × Entry)) : CheckResult :=
  let tally := Tally.ofItems (fun a => isPresent a.2) Prod.fst answers
  let total := toString answers.length
  if tally.missing.isEmpty then
    (c.passing ("all " ++ total ++ " files present")).withTally tally
  else
    ((c.failing ("missing " ++ toString tally.missing.length ++ " of " ++ total
        ++ " files")).withTally tally).withIssues .missingResource
      (tally.missing.map fun p => "file not found: " ++ p)

/-! ## Names in one or two files -/

def decideInterface (c : Check) (owner : String) (tally : Tally) : CheckResult :=
  if tally.isComplete then
    (c.passing ("all " ++ toString tally.required ++ " methods implemented")).withTally tally
  else
    ((c.failing ("found " ++ toString tally.found ++ " methods, missing "
        ++ toString tally.missing.length)).withIssues .partialMatch
      (tally.missing.map fun method =>
        owner ++ "::" ++ method ++ " is not both declared and implemented")).withTally tally

def decideFields (c : Check) (file : String) (absentOwner : Option String) (tally : Tally) :
    CheckResult :=
  if tally.isComplete then
    (c.passing ("all " ++ toString tally.required ++ " fields present")).withTally tally
  else
    ((c.failing ("found " ++ toString tally.found ++ " of " ++ toString tally.required
        ++ " fields")).withIssues .partialMatch
      (absentOwner.toList.map (fun owner =>
          file ++ ": " ++ Text.Quoted.quote owner ++ " not found")
        ++ tally.missing.map fun field =>
          file ++ ": field " ++ Text.Quoted.quote field ++ " missing")).withTally tally

/-! ## Counts in one file -/

def versus (begins ends : Nat) : String :=
  "(" ++ toString begins ++ " vs " ++ toString ends ++ ")"

def decidePaired (c : Check) (file opening closing : String) (begins ends : Nat)
    (requireUsage : Bool) : CheckResult :=
  let pair := opening ++ "/" ++ closing
  if balanced begins ends requireUsage then
    c.passing (pair ++ " balanced " ++ versus begins ends)
  else if begins ≠ ends then
    (c.failing (pair ++ " mismatch " ++ versus begins ends)).issue .imbalance
      (file ++ ": " ++ pair ++ " mismatch " ++ versus begins ends)
  else
    (c.failing (pair ++ " never used")).issue .imbalance (file ++ ": no " ++ pair ++ " calls")

def decideThreshold (c : Check) (file : String) (tokens : List String) (total min : Nat) :
    CheckResult :=
  let joined := "/".intercalate tokens
  let calls := "found " ++ toString total ++ " " ++ joined ++ " calls"
  if exceeds total min then c.passing calls
  else
    (c.failing (calls ++ ", need more than " ++ toString min)).issue .conventionViolation
      (if total = 0 then file ++ ": " ++ joined ++ " not used"
       else file ++ ": " ++ joined ++ " used " ++ toString total ++ " times, need more than "
         ++ toString min)

/-! ## Rules and patterns -/

abbrev CountedRule := TokenRule × Nat

def CountedRule.isMet (r : CountedRule) : Bool := r.1.minCount ≤ r.2

def decideTokens (c : Check) (rules : List CountedRule) : CheckResult :=
  let tally := Tally.ofItems CountedRule.isMet (fun r => r.1.label) rules
  if tally.isComplete then
    (c.passing ("all " ++ toString tally.required ++ " token rules satisfied")).withTally tally
  else
    ((c.failing ("incomplete: " ++ ", ".intercalate tally.missing)).withIssues .partialMatch
      ((rules.filter fun r => !CountedRule.isMet r).map fun r =>
        r.1.file ++ ": " ++ r.1.label ++ " found " ++ toString r.2 ++ " times")).withTally tally

abbrev CountedPattern := String × Except Pattern.Fault Nat

def CountedPattern.isMet (min : Nat) (p : CountedPattern) : Bool :=
  match p.2 with
  | .ok n => min ≤ n
  | .error _ => false

def CountedPattern.complaint (file : String) (min : Nat) (p : CountedPattern) : String :=
  match p.2 with
  | .ok n =>
      file ++ ": pattern " ++ Text.Quoted.quote p.1 ++ " matched " ++ toString n
        ++ " times, need " ++ toString min
  | .error fault => "invalid pattern " ++ Text.Quoted.quote p.1 ++ ": " ++ fault.message p.1

def countPattern (text pattern : String) : CountedPattern :=
  (pattern, (Pattern.compile pattern).map fun p => p.count text)

def decidePatterns (c : Check) (file : String) (min : Nat) (patterns : List CountedPattern) :
    CheckResult :=
  let tally := Tally.ofItems (CountedPattern.isMet min) Prod.fst patterns
  let unmet := patterns.filter fun p => !CountedPattern.isMet min p
  let result :=
    if tally.isComplete then
      c.passing ("all " ++ toString tally.required ++ " patterns matched")
    else
      c.failing ("matched " ++ toString tally.found ++ " of " ++ toString tally.required
        ++ " patterns")
  (result.withIssues .partialMatch (unmet.map (CountedPattern.complaint file min))).withTally tally

/-! ## Many files -/

def forbiddenIssues (c : Check) (token : String) (require : List String) (path : String) :
    Entry → List Issue
  | .error e => [c.issue .missingResource e.message 1]
  | .ok text =>
      let n := count text token
      let uses :=
        if n = 0 then []
        else [c.issue .conventionViolation
          (path ++ " uses " ++ token ++ " " ++ toString n ++ " times") n]
      uses ++ (require.filter fun r => count text r == 0).map fun r =>
        c.issue .conventionViolation (path ++ " does not use " ++ r) 1

def totalOf (n : String → Nat) (answers : List (String × Entry)) : Nat :=
  (answers.map fun a => match a.2 with
    | .ok text => n text
    | .error _ => 0).foldr (· + ·) 0

def decideForbidden (c : Check) (token : String) (require : List String) (allowEmpty : Bool)
    (answers : List (String × Entry)) : CheckResult :=
  if answers.isEmpty then
    if allowEmpty then c.passing "no files to inspect"
    else (c.failing "no files to inspect").issue .missingResource "file set resolved to no files"
  else
    let issues := answers.flatMap fun a => c.forbiddenIssues token require a.1 a.2
    let total := toString answers.length
    let found := totalOf (fun text => count text token) answers
    let unreadable := (errorsOf answers).length
    let message :=
      if found ≠ 0 then
        token ++ " found " ++ toString found ++ " times in " ++ total ++ " files"
      else if unreadable ≠ 0 then
        "could not read " ++ toString unreadable ++ " of " ++ total ++ " files"
      else if !issues.isEmpty then "required calls missing in " ++ total ++ " files"
      else token ++ " absent from " ++ total ++ " files"
    { c.passing message with passed := issues.isEmpty, issues := issues }

def measure (tokens : List String) (unit : CountUnit) (text : String) : Nat :=
  match unit with
  | .occurrences => occurrences text tokens
  | .files => if occurrences text tokens = 0 then 0 else 1

def decideCount (c : Check) (tokens : List String) (unit : CountUnit)
    (answers : List (String × Entry)) : CheckResult :=
  let value := totalOf (measure tokens unit) answers
  let errors := errorsOf answers
  let read := toString (answers.length - errors.length)
  let message := match unit with
    | .occurrences => toString value ++ " occurrences in " ++ read ++ " files"
    | .files => toString value ++ " of " ++ read ++ " files"
  (((c.passing "").withIssues .missingResource (errors.map LoadError.message)).settled
    message).withValue value

/-! ## Asking and deciding -/

def fileSet : FileSet → Access (Except LoadError (List String))
  | .paths paths => return .ok paths
  | .walk dir glob => Access.files dir glob

def judge (mode : MatchMode) (c : Check) : Requirement → Access CheckResult
  | .present paths => do return c.decidePresent (← Access.entries paths)
  | .interface owner declaration implementation methods => do
      let declared ← Access.text declaration
      let implemented ← Access.text implementation
      return c.decideInterface owner (Tally.ofMethods mode declared implemented methods)
  | .fields file owner fields => do
      let declared ← Access.text file
      let absentOwner := owner.filter fun o => !contains declared o
      return c.decideFields file absentOwner (Tally.ofFields mode declared owner fields)
  | .paired file opening closing requireUsage => do
      let text ← Access.text file
      return c.decidePaired file opening closing (count text opening) (count text closing)
        requireUsage
  | .threshold file tokens min => do
      let text ← Access.text file
      return c.decideThreshold file tokens (occurrences text tokens) min
  | .forbidden token files require allowEmpty => do
      match ← fileSet files with
      | .ok paths => return c.decideForbidden token require allowEmpty (← Access.entries paths)
      | .error (.notFound dir) =>
          if allowEmpty then return c.decideForbidden token require allowEmpty []
          else return c.missingFiles [.notFound dir]
      | .error e => return c.missingFiles [e]
  | .tokens rules => do
      let texts ← Access.textsOf (rules.map TokenRule.file)
      return c.decideTokens (rules.zipWith (fun r text => (r, occurrences text r.anyOf)) texts)
  | .patterns file patterns minCount => do
      let text ← Access.text file
      return c.decidePatterns file minCount (patterns.map (countPattern text))
  | .count files tokens unit => do
      match ← fileSet files with
      | .ok paths => return c.decideCount tokens unit (← Access.entries paths)
      | .error (.notFound dir) =>
          return (c.passing ("0 (no directory " ++ dir ++ ")")).withValue 0
      | .error e => return (c.missingFiles [e]).withValue 0

/-- Whether missing files are reported by the requirement itself. -/
def reportsMissing : Requirement → Bool
  | .present _ => true
  | _ => false

/-- Decides a check.  Never fails: every problem becomes part of the result. -/
def evaluate (mode : MatchMode) (c : Check) : Access CheckResult := do
  let required := if reportsMissing c.requirement then [] else c.requiredFiles
  let missing := errorsOf (← Access.entries required)
  let result ← if missing.isEmpty then c.judge mode c.requirement
    else pure (c.missingFiles missing)
  return result.withInformational (!c.isGating)

end Check

end SourceContract
