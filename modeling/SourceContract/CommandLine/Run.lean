import SourceContract.CommandLine.Arguments
import SourceContract.Contract.Template
import SourceContract.Contract.Validate
import SourceContract.Contract.Yaml
import SourceContract.Corpus.Project
import SourceContract.Report.Console
import SourceContract.Value.Json
import SourceContract.Verdict.Run
import SourceContract.Verdict.Value

/-!
# The command

The command verifies a project against a contract, shows the report and saves it as
a document.  It exits with 0 when all checks that count have passed, with 1 when one
has not, and with 2 when there is nothing to judge or the document cannot be saved.
-/

namespace SourceContract.CommandLine

variable {m : Type → Type} [Monad m]

open Text.Quoted (quote)

def version : String := "0.1.0"

/-- What a run leaves on the terminal.  The log is no part of it: it warns of an entry that a walk
could not read, and says more where `-v` or the environment asks for more. -/
structure Outcome where
  exitCode : Nat
  stdout : String
  stderr : String
deriving DecidableEq, Repr

def Refusal.exitCode : Refusal → Nat
  | .help | .version => 0
  | _ => 2

/-! ## Faults -/

inductive Fault where
  | invalidFormat (format : String)
  | rootNotDirectory (path : String)
  | rootUnreachable (path : String) (fault : FileFault)
  | contractUnreadable (fault : FileFault)
  | contractMalformed (path : String) (fault : Yaml.Fault)
  | contractInvalid (fault : ContractFault) (source : String)
  | unknownTemplate (name : String)
  | reportNotSaved (path : String) (fault : FileFault)

def Fault.message : Fault → String
  | .invalidFormat format => "invalid format " ++ quote format ++ ", must be 'pretty' or 'json'"
  | .rootNotDirectory path => "project root " ++ quote path ++ " is not a directory"
  | .rootUnreachable path fault =>
      "cannot access project root " ++ quote path ++ ": " ++ fault.message
  | .contractUnreadable fault => fault.message
  | .contractMalformed path fault => "parsing contract " ++ path ++ ": " ++ fault.message
  | .contractInvalid fault source => "invalid contract: " ++ fault.message ++ " (" ++ source ++ ")"
  | .unknownTemplate name =>
      "unknown template " ++ quote name ++ " (run 'contractlint --list-templates')"
  | .reportNotSaved path fault =>
      "writing report " ++ path ++ ": " ++ fault.message ++ ": " ++ fault.message

def Fault.outcome (printed : String) (f : Fault) : Outcome :=
  ⟨2, printed, "Error: " ++ f.message ++ "\n"⟩

/-! ## Templates -/

def templateLine (t : Template) : String :=
  let name := if t.name == Template.default.name then t.name ++ " (default)" else t.name
  "  " ++ Console.padRight 24 name ++ " " ++ t.description

def templateList : String :=
  String.join ((["Available templates:", ""] ++ Template.all.map templateLine
    ++ ["", "Usage:", "  contractlint [ROOT] --template <name>"]).map fun line => line ++ "\n")

/-! ## The project root -/

def findRoot (disk : Disk m) (root : Option String) : m (Except Fault String) := do
  let path ← match root with
    | some p => pure p
    | none => disk.currentDirectory
  match ← disk.canonicalize path with
  | .error fault => return .error (.rootUnreachable path fault)
  | .ok canonical =>
      if ← disk.isDirectory canonical then return .ok canonical
      else return .error (.rootNotDirectory canonical)

/-! ## The contract -/

abbrev Sourced := Contract × String

def parse (path text source : String) : Except Fault Sourced :=
  match Contract.ofYaml text with
  | .ok c => .ok (c, source)
  | .error fault => .error (.contractMalformed path fault)

def readContract (disk : Disk m) (path : String) : m (Except Fault Sourced) := do
  match ← disk.read path with
  | .error fault => return .error (.contractUnreadable fault)
  | .ok bytes =>
      match String.fromUTF8? bytes with
      | none => return .error (.contractUnreadable .invalidText)
      | some text => return parse path text path

def readTemplate (name : String) : Except Fault Sourced :=
  match Template.find? name with
  | none => .error (.unknownTemplate name)
  | some t => parse t.name t.content ("template:" ++ t.name)

def contractNames : List String := ["contractlint.yaml", ".contractlint.yaml"]

def findContract (disk : Disk m) (root : String) : List String → m (Option String)
  | [] => return none
  | name :: rest => do
      let path := Path.join root name
      if ← disk.isFile path then return some path else findContract disk root rest

def selectContract (disk : Disk m) (o : Options) (root : String) : m (Except Fault Sourced) := do
  match o.contract, o.template with
  | some path, _ => readContract disk path
  | none, some name => return readTemplate name
  | none, none =>
      match ← findContract disk root contractNames with
      | some path => readContract disk path
      | none => return readTemplate Template.default.name

def validated (s : Sourced) : Except Fault Contract :=
  match s.1.validate with
  | .ok () => .ok s.1
  | .error fault => .error (.contractInvalid fault s.2)

/-! ## The report -/

def display (colour : Bool) (o : Options) (r : RunReport) (c : Contract) (root : String) : String :=
  if o.format == "json" then r.toValue.toJson ++ "\n" else Console.render colour version r c root

def save (disk : Disk m) (path text : String) : m (Except FileFault Unit) := do
  match (Path.parent? path).filter fun p => !p.isEmpty with
  | none => disk.write path text
  | some parent =>
      match ← disk.makeDirectories parent with
      | .error fault => return .error fault
      | .ok () => disk.write path text

def exitCode (r : RunReport) : Nat := if r.allPassed then 0 else 1

def savedOutcome (o : Options) (r : RunReport) (shown path : String) : Outcome :=
  let note := "Report saved to: " ++ path ++ "\n"
  if o.format == "json" then ⟨exitCode r, shown, note⟩
  else ⟨exitCode r, shown ++ "  " ++ note ++ "\n", ""⟩

def report (disk : Disk m) (colour : Bool) (now : String) (o : Options) (root : String)
    (c : Contract) : m Outcome := do
  let r ← c.run (disk.project root) false
  let shown := display colour o r c root
  if o.noReport then return ⟨exitCode r, shown, ""⟩
  else
    let path := o.output.getD (Path.join root c.reportPath)
    match ← save disk path (Markdown.render r c root now) with
    | .ok () => return savedOutcome o r shown path
    | .error fault => return (Fault.reportNotSaved path fault).outcome shown

/-! ## The command -/

def prepare (disk : Disk m) (o : Options) : m (Except Fault (String × Contract)) := do
  if o.format ≠ "pretty" ∧ o.format ≠ "json" then return .error (.invalidFormat o.format)
  else
    match ← findRoot disk o.root with
    | .error fault => return .error fault
    | .ok root =>
        match ← selectContract disk o root with
        | .error fault => return .error fault
        | .ok sourced => return (validated sourced).map fun c => (root, c)

def run (disk : Disk m) (colour : Bool) (now : String) (o : Options) : m Outcome := do
  if o.listTemplates then return ⟨0, templateList, ""⟩
  else
    match ← prepare disk o with
    | .error fault => return fault.outcome ""
    | .ok (root, c) => report disk colour now o root c

end SourceContract.CommandLine
