import SourceContract.Contract.Basic
import SourceContract.Value.Read

/-!
# The fields of contracts

Which fields a contract and its parts have, in which order, and which of them may
be left out.  The shapes are the same for every kind of source; a `Dialect` says
how a source gives text, choices and lists.

The requirement of a check is chosen by its field `kind`, so its fields are only
read when all entries of the check are known.  They are always read from a
structured value.
-/

namespace SourceContract

open Matching (MatchMode)

/-! ## Names of choices -/

def Matching.MatchMode.names : List (String × MatchMode) :=
  [("literal", .literal), ("word", .word)]

def CountUnit.names : List (String × CountUnit) :=
  [("occurrences", .occurrences), ("files", .files)]

/-! ## Requirements -/

namespace Requirement

open Value

def defaultMinCount : Nat := 1

def defaultGlob : String := "*"

def tokenRuleShape : Shape Value Mismatch TokenRule :=
  TokenRule.mk <$> .required "file" asText <*> .required "any_of" asTexts
    <*> .withDefault "min_count" asNat defaultMinCount

def asTokenRule (buffered : Bool) : Value → Except Mismatch TokenRule :=
  asRecord buffered "TokenRule" tokenRuleShape

def walkShape : Shape Value Mismatch FileSet :=
  FileSet.walk <$> .required "dir" asText <*> .withDefault "glob" asText defaultGlob

def asFileSet (v : Value) : Except Mismatch FileSet :=
  match asTexts v with
  | .ok paths => .ok (.paths paths)
  | .error _ =>
      match asRecord true "FileSet" walkShape v with
      | .ok walk => .ok walk
      | .error _ => .error (.noAlternative "FileSet")

def asCountUnit : Value → Except Mismatch CountUnit := asVariant true CountUnit.names

def shapes : List (String × Shape Value Mismatch Requirement) :=
  [("exists", present <$> .required "paths" asTexts),
   ("interface", interface <$> .required "interface" asText <*> .required "declaration" asText
      <*> .required "implementation" asText <*> .required "methods" asTexts),
   ("fields", fields <$> .required "file" asText
      <*> .withDefault "owner" (asOption asText) none <*> .required "fields" asTexts),
   ("paired", paired <$> .required "file" asText <*> .required "begin" asText
      <*> .required "end" asText <*> .withDefault "require_usage" asBool false),
   ("threshold", threshold <$> .required "file" asText <*> .required "tokens" asTexts
      <*> .withDefault "min" asNat 0),
   ("forbidden", forbidden <$> .required "token" asText <*> .required "files" asFileSet
      <*> .withDefault "require" asTexts [] <*> .withDefault "allow_empty" asBool false),
   ("tokens", tokens <$> .required "rules" (asList (asTokenRule true))),
   ("regex", patterns <$> .required "file" asText <*> .required "patterns" asTexts
      <*> .withDefault "min_count" asNat defaultMinCount),
   ("count", count <$> .required "files" asFileSet <*> .required "tokens" asTexts
      <*> .withDefault "unit" asCountUnit .occurrences)]

def kindEntry (entries : List (Key × Value)) : Except Mismatch Value :=
  match entries.filter fun e => e.1 == .name "kind" with
  | [] => .error (.missingField "kind")
  | [e] => .ok e.2
  | _ => .error (.duplicateField "kind")

def ofEntries (entries : List (Key × Value)) : Except Mismatch Requirement := do
  let kind ← kindEntry entries
  let shape ← variantOf shapes (key kind)
  let rest := entries.filter fun e => e.1 != .name "kind"
  shape.ofEntries (fun _ => .ok ()) (recordEntries shape rest)

end Requirement

/-! ## Checks, settings and contracts -/

abbrev Entries (σ ε : Type) := List (Except ε (Option String) × σ)

/-- How a kind of source is read. -/
structure Dialect (σ ε : Type) where
  text : σ → Except ε String
  optionalText : σ → Except ε (Option String)
  flag : σ → Except ε Bool
  matchMode : σ → Except ε MatchMode
  list : {α : Type} → (σ → Except ε α) → σ → Except ε (List α)
  /-- A record of the named type, as entries or as items. -/
  record : {α : Type} → String → Shape σ ε α → σ → Except ε α
  /-- Entries alone, with what is made of them. -/
  entries : {α : Type} → String → (Entries σ ε → Except ε α) → σ → Except ε α
  value : σ → Except ε Value

namespace Dialect

variable {σ ε : Type} [OfMismatch ε] (d : Dialect σ ε)

def checkShape : Shape σ ε (Requirement → Check) :=
  Check.mk <$> .required "name" d.text <*> .withDefault "description" d.optionalText none
    <*> .withDefault "informational" d.flag false

def requirementEntries (entries : Entries σ ε) : Except ε (List (Key × Value)) := do
  let named ← entries.mapM fun e => do return (← e.1, e.2)
  let rest := named.filter fun e => (d.checkShape.fieldOf? e.1).isNone
  rest.mapM fun e => do return (.name (e.1.getD ""), ← d.value e.2)

def checkOfEntries (entries : Entries σ ε) : Except ε Check := do
  let check ← d.checkShape.ofEntries (fun s => (d.value s).map fun _ => ()) entries
  match Requirement.ofEntries (← d.requirementEntries entries) with
  | .ok requirement => .ok (check requirement)
  | .error mismatch => .error (ofMismatch mismatch)

def check : σ → Except ε Check := d.entries "CheckSpec" d.checkOfEntries

def keyInterfaceShape : Shape σ ε KeyInterface :=
  KeyInterface.mk <$> .required "label" d.text <*> .required "check" d.text

def keyInterface : σ → Except ε KeyInterface := d.record "KeyInterface" d.keyInterfaceShape

def reportShape : Shape σ ε ReportSettings :=
  ReportSettings.mk <$> .withDefault "path" d.optionalText none
    <*> .withDefault "title" d.optionalText none
    <*> .withDefault "key_interfaces" (d.list d.keyInterface) []

def report : σ → Except ε ReportSettings := d.record "ReportConfig" d.reportShape

def contractShape : Shape σ ε Contract :=
  Contract.mk <$> .withDefault "version" d.text "" <*> .withDefault "name" d.text ""
    <*> .withDefault "description" d.optionalText none
    <*> .withDefault "identifier_matching" d.matchMode .literal
    <*> .withDefault "report" d.report ⟨none, none, []⟩
    <*> .withDefault "checks" (d.list d.check) []

def contract : σ → Except ε Contract := d.record "Contract" d.contractShape

end Dialect

end SourceContract
