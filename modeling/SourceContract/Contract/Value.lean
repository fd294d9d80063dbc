import SourceContract.Contract.Shape

/-!
# Contracts as structured values

`Contract.toValue` writes every field, also those that have their default, and
`Contract.ofValue` reads any value that means a contract.
-/

namespace SourceContract

open Value

/-! ## Reading -/

/-- The entries of a map; a record that is read so cannot be given by items. -/
def Value.asEntries {α : Type} (type : String) (read : Entries Value Mismatch → Except Mismatch α) :
    Value → Except Mismatch α
  | .map entries => read (entries.map fun e => (fieldName [] e.1, e.2))
  | v => .error (.invalidType v.found ("struct " ++ type))

def Value.dialect : Dialect Value Mismatch where
  text := asText
  optionalText := asOption asText
  flag := asBool
  matchMode := asVariant false Matching.MatchMode.names
  list := asList
  record := asRecord false
  entries := asEntries
  value := .ok

def Contract.ofValue : Value → Except Mismatch Contract := Value.dialect.contract

def Check.ofValue : Value → Except Mismatch Check := Value.dialect.check

def TokenRule.ofValue : Value → Except Mismatch TokenRule := Requirement.asTokenRule false

/-! ## Writing -/

def nameOf {α : Type} [DecidableEq α] (known : List (String × α)) (a : α) : String :=
  ((known.find? fun k => k.2 == a).map Prod.fst).getD ""

def FileSet.toValue : FileSet → Value
  | .paths ps => texts ps
  | .walk dir glob => record [("dir", .str dir), ("glob", .str glob)]

def TokenRule.toValue (r : TokenRule) : Value :=
  record [("file", .str r.file), ("any_of", texts r.anyOf), ("min_count", nat r.minCount)]

def Requirement.entries : Requirement → List (String × Value)
  | .present paths => [("paths", texts paths)]
  | .interface owner declaration implementation methods =>
      [("interface", .str owner), ("declaration", .str declaration),
       ("implementation", .str implementation), ("methods", texts methods)]
  | .fields file owner names =>
      [("file", .str file), ("owner", optionalText owner), ("fields", texts names)]
  | .paired file opening closing requireUsage =>
      [("file", .str file), ("begin", .str opening), ("end", .str closing),
       ("require_usage", .bool requireUsage)]
  | .threshold file ts min =>
      [("file", .str file), ("tokens", texts ts), ("min", nat min)]
  | .forbidden token files require allowEmpty =>
      [("token", .str token), ("files", files.toValue), ("require", texts require),
       ("allow_empty", .bool allowEmpty)]
  | .tokens rules => [("rules", .seq (rules.map TokenRule.toValue))]
  | .patterns file ps minCount =>
      [("file", .str file), ("patterns", texts ps), ("min_count", nat minCount)]
  | .count files ts unit =>
      [("files", files.toValue), ("tokens", texts ts),
       ("unit", .str (nameOf CountUnit.names unit))]

def Check.toValue (c : Check) : Value :=
  record ([("name", .str c.name), ("description", optionalText c.description),
    ("informational", .bool c.informational), ("kind", .str c.kind)] ++ c.requirement.entries)

def KeyInterface.toValue (k : KeyInterface) : Value :=
  record [("label", .str k.label), ("check", .str k.check)]

def ReportSettings.toValue (r : ReportSettings) : Value :=
  record [("path", optionalText r.path), ("title", optionalText r.title),
    ("key_interfaces", .seq (r.keyInterfaces.map KeyInterface.toValue))]

def Contract.toValue (c : Contract) : Value :=
  record [("version", .str c.version), ("name", .str c.name),
    ("description", optionalText c.description),
    ("identifier_matching", .str (nameOf Matching.MatchMode.names c.matching)),
    ("report", c.report.toValue), ("checks", .seq (c.checks.map Check.toValue))]

end SourceContract
