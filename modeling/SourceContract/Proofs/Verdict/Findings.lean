import Mathlib.Data.List.ProdSigma
import SourceContract.Proofs.Verdict.Backed
import SourceContract.Proofs.Verdict.FileSet

/-!
# What a check that forbids a token finds

The check goes through its paths and takes down what is wrong with each.  So its issues
come in groups, one for each path, and what a group holds is settled by what the path
gives.  Added up, the weights of all issues are the number of findings, which can be
said without any order: how often the token is used, how often a required token is
missing, and how many paths give no text.
-/

namespace SourceContract

open Matching (MatchMode count)

variable {a : Answers} {c : Check} {token path : String} {require paths : List String}

/-! ## Findings -/

namespace Answers

/-- The number of findings at some paths: uses of the token, pairs of a text and a required token
that the text does not have, and paths that give no text. -/
def findings (a : Answers) (token : String) (require paths : List String) : Nat :=
  ((a.texts paths).map fun text => count text token).sum +
    (a.texts paths ×ˢ require).countP (fun pair => count pair.1 pair.2 == 0) +
    (a.faults paths).length

theorem findings_cons_of_ok {text : String} (h : a.read path = .ok text) :
    a.findings token require (path :: paths) =
      count text token + require.countP (fun r => count text r == 0) +
        a.findings token require paths := by
  have hpairs : (fun pair : String × String => count pair.1 pair.2 == 0) ∘ Prod.mk text =
      fun r => count text r == 0 := rfl
  simp only [findings, texts_cons_of_ok h, faults_cons_of_ok h, List.map_cons, List.sum_cons,
    List.product_cons, List.countP_append, List.countP_map, hpairs]
  omega

theorem findings_cons_of_error {e : LoadError} (h : a.read path = .error e) :
    a.findings token require (path :: paths) = 1 + a.findings token require paths := by
  simp only [findings, texts_cons_of_error h, faults_cons_of_error h, List.length_cons]
  omega

end Answers

/-! ## The issues of one path -/

namespace Check

def lackIssues (c : Check) (require : List String) (path text : String) : List Issue :=
  (require.filter fun r => count text r == 0).map fun r =>
    ⟨c.name, .conventionViolation, path ++ " does not use " ++ r, 1⟩

def useIssue (c : Check) (token path text : String) : Issue :=
  ⟨c.name, .conventionViolation,
    path ++ " uses " ++ token ++ " " ++ toString (count text token) ++ " times", count text token⟩

/-- The issues say what is wrong at the path, and each thing once.  If there is no text, it is
that.  Otherwise it is the token, weighing as much as it is used, and behind it the required tokens
that are missing. -/
inductive Explains (c : Check) (token : String) (require : List String) (path : String) :
    Entry → List Issue → Prop
  | fault (e : LoadError) :
      Explains c token require path (.error e) [⟨c.name, .missingResource, e.message, 1⟩]
  | free {text : String} (h : count text token = 0) :
      Explains c token require path (.ok text) (c.lackIssues require path text)
  | used {text : String} (h : 0 < count text token) :
      Explains c token require path (.ok text)
        (c.useIssue token path text :: c.lackIssues require path text)

theorem explains_forbiddenIssues (c : Check) (token : String) (require : List String)
    (path : String) (e : Entry) :
    c.Explains token require path e (c.forbiddenIssues token require path e) := by
  cases e with
  | error e => exact .fault e
  | ok text =>
      dsimp only [forbiddenIssues]
      split
      next h => exact .free h
      next h => exact .used (Nat.pos_of_ne_zero h)

/-! ## Weights -/

def weight (issues : List Issue) : Nat := (issues.map Issue.count).sum

theorem weight_append (issues more : List Issue) :
    weight (issues ++ more) = weight issues + weight more := by
  rw [weight, List.map_append, List.sum_append]
  rfl

theorem weight_lackIssues (c : Check) (require : List String) (path text : String) :
    weight (c.lackIssues require path text) = require.countP fun r => count text r == 0 := by
  rw [weight, lackIssues, List.map_map, List.countP_eq_length_filter]
  simp [Function.comp_def]

theorem weight_of_groups {groups : List (List Issue)}
    (h : List.Forall₂ (fun path issues => c.Explains token require path (a.read path) issues)
      paths groups) :
    weight groups.flatten = a.findings token require paths := by
  induction h with
  | nil => rfl
  | @cons path issues rest groups hfirst _ ih =>
      rw [List.flatten_cons, weight_append, ih]
      cases hread : a.read path with
      | error e =>
          rw [hread] at hfirst
          cases hfirst
          rw [Answers.findings_cons_of_error hread]
          rfl
      | ok text =>
          rw [hread] at hfirst
          rw [Answers.findings_cons_of_ok hread, ← weight_lackIssues c require path text]
          cases hfirst with
          | free hnone => rw [hnone, Nat.zero_add]
          | used huse => rfl

theorem Backed.passed_iff_issueCount {r : CheckResult} (h : c.Backed r) :
    r.passed = true ↔ r.issueCount = 0 := by
  have hlength := RunReport.length_le_weight fun i hi => (h.issues_own i hi).2
  rw [h.passed_iff, CheckResult.issueCount]
  constructor
  · intro hnil
    rw [hnil]
    rfl
  · intro hzero
    exact List.length_eq_zero_iff.mp (by omega)

/-! ## Results -/

/-- The result lists what is wrong at each path, path by path, and its weight is the number of
findings. -/
structure Accounts (c : Check) (a : Answers) (token : String) (require paths : List String)
    (r : CheckResult) : Prop where
  groups : ∃ groups : List (List Issue), r.issues = groups.flatten ∧
    List.Forall₂ (fun path issues => c.Explains token require path (a.read path) issues)
      paths groups
  issueCount : r.issueCount = a.findings token require paths
  passed_iff : r.passed = true ↔ a.findings token require paths = 0

theorem issues_decideForbidden {allowEmpty : Bool} {answers : List (String × Entry)}
    (h : answers ≠ []) :
    (c.decideForbidden token require allowEmpty answers).issues =
      answers.flatMap fun answer => c.forbiddenIssues token require answer.1 answer.2 := by
  have hsome : answers.isEmpty = false := by simpa using h
  rw [decideForbidden, hsome, if_neg Bool.false_ne_true]

theorem exists_groups (c : Check) (a : Answers) (token : String) (require paths : List String) :
    ∃ groups : List (List Issue),
      (paths.map fun path => (path, a.read path)).flatMap
          (fun answer => c.forbiddenIssues token require answer.1 answer.2) = groups.flatten ∧
        List.Forall₂ (fun path issues => c.Explains token require path (a.read path) issues)
          paths groups := by
  refine ⟨paths.map fun path => c.forbiddenIssues token require path (a.read path), ?_, ?_⟩
  · rw [List.flatMap_map, List.flatMap_def]
  · rw [List.forall₂_map_right_iff, List.forall₂_same]
    exact fun path _ => c.explains_forbiddenIssues token require path (a.read path)

end Check

/-! ## Evaluation -/

/-- A check that forbids a token accounts for every finding once.  Let it be evaluated while the
files do not change, on a corpus that may remember anything, and let no required file be missing
and some path be in its set.  Then its issues come path by path, each group says all that is wrong
at its path, and their weights add up to the number of findings; and the check passes if that is
zero. -/
theorem forbidden_accounts_for_findings {σ : Type} {s : Source (StateM σ)} {w : σ}
    (still : s.Steady w) (corpus : Corpus) (mode : MatchMode) {c : Check} {token : String}
    {files : FileSet} {require paths : List String} {allowEmpty : Bool}
    (h : c.requirement = .forbidden token files require allowEmpty)
    (hthere : ∀ path ∈ c.requiredFiles, (corpus.tells (s.at w)).Loads path fun _ => True)
    (hfiles : (corpus.tells (s.at w)).filesOf files = .ok paths) (hsome : paths ≠ []) :
    c.Accounts (corpus.tells (s.at w)) token require paths (c.outcome s corpus w mode) := by
  have hissues : (c.outcome s corpus w mode).issues =
      (paths.map fun path => (path, (corpus.tells (s.at w)).read path)).flatMap
        fun answer => c.forbiddenIssues token require answer.1 answer.2 := by
    rw [Check.outcome_eq still, Check.verdict_forbidden h hthere hfiles,
      CheckResult.withInformational, Check.issues_decideForbidden (by simpa using hsome)]
  -- A result passes if it has no issues, and every issue weighs at least one.
  have hbacked : c.Backed (c.outcome s corpus w mode) := (c.evaluate_backed mode).run s corpus w
  obtain ⟨groups, hflat, hgroups⟩ := c.exists_groups (corpus.tells (s.at w)) token require paths
  have hcount : (c.outcome s corpus w mode).issueCount =
      (corpus.tells (s.at w)).findings token require paths := by
    rw [← Check.weight_of_groups hgroups, ← hflat, ← hissues]
    rfl
  refine ⟨⟨groups, hissues.trans hflat, hgroups⟩, hcount, ?_⟩
  rw [hbacked.passed_iff_issueCount, hcount]

/-- The file that the corpus remembers is gone, and the one that is listed twice counts twice. -/
theorem forbidden_accounts_for_findings_of_repeated_path :
    let s : Source (StateM Unit) :=
      { read := fun path =>
          pure (if path = "a.h" then .ok "goto a; goto b;" else .error (.notFound path))
        list := fun _ _ => pure (.ok ["a.h", "b.h", "a.h", "c.h"]) }
    let corpus := Corpus.empty.add "c.h" (.ok "lock")
    let tidy : Check := ⟨"tidy", none, false, .forbidden "goto" (.walk "" "*.h") ["lock"] true⟩
    s.Steady () ∧ (tidy.outcome s corpus () .literal).issueCount = 7 ∧
      (tidy.outcome s corpus () .literal).passed = false := by
  intro s corpus tidy
  have still : s.Steady () := ⟨fun _ => rfl, fun _ _ => rfl⟩
  obtain ⟨-, hcount, hpassed⟩ := forbidden_accounts_for_findings still corpus .literal
    (c := tidy) rfl (List.forall_mem_nil _) rfl (by decide)
  have hseven : (corpus.tells (s.at ())).findings "goto" ["lock"]
      ["a.h", "b.h", "a.h", "c.h"] = 7 := by
    decide +kernel
  refine ⟨still, hcount.trans hseven, ?_⟩
  rw [← Bool.not_eq_true, hpassed, hseven]
  decide

end SourceContract
