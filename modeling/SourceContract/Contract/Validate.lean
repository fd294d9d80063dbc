import SourceContract.Contract.Basic
import SourceContract.Glob.Match
import SourceContract.Pattern.Search
import SourceContract.Text.CharClass

/-!
# Contracts that make sense

A contract that can be read may still ask for nothing, name a check twice, hold a
pattern or glob that is no such thing, or refer to a check that it does not have.
The first such fault is reported: checks come in order, then the key interfaces.
-/

namespace SourceContract

inductive ContractFault where
  | emptyName
  | duplicateName (name : String)
  | emptyPart (check part : String)
  | invalidPattern (check pattern : String) (fault : Pattern.Fault)
  | invalidGlob (check glob : String) (fault : Glob.Fault)
  | unknownCheck (label check : String)
deriving DecidableEq, Repr

open Text.Quoted (quote)

def ContractFault.message : ContractFault → String
  | .emptyName => "check with empty name"
  | .duplicateName name => "duplicate check name " ++ quote name
  | .emptyPart check part => "check " ++ quote check ++ ": " ++ part ++ " must not be empty"
  | .invalidPattern check pattern fault =>
      "check " ++ quote check ++ ": invalid pattern " ++ quote pattern ++ ": "
        ++ fault.message pattern
  | .invalidGlob check glob fault =>
      "check " ++ quote check ++ ": invalid glob " ++ quote glob ++ ": " ++ fault.message glob
  | .unknownCheck label check =>
      "key interface " ++ quote label ++ " refers to unknown check " ++ quote check

/-! ## Requirements -/

def Requirement.emptyPart? : Requirement → Option String
  | .present paths => if paths.isEmpty then some "paths" else none
  | .interface _ _ _ methods => if methods.isEmpty then some "methods" else none
  | .fields _ _ names => if names.isEmpty then some "fields" else none
  | .paired _ opening closing _ =>
      if opening.isEmpty || closing.isEmpty then some "begin/end tokens" else none
  | .threshold _ ts _ => if ts.isEmpty then some "tokens" else none
  | .forbidden token .. => if token.isEmpty then some "token" else none
  | .tokens rules =>
      if rules.isEmpty then some "rules"
      else if rules.any fun r => r.anyOf.isEmpty then some "any_of"
      else none
  | .patterns _ ps _ => if ps.isEmpty then some "patterns" else none
  | .count _ ts _ => if ts.all String.isEmpty then some "tokens" else none

def patternFault? (check pattern : String) : Option ContractFault :=
  match Pattern.compile pattern with
  | .ok _ => none
  | .error fault => some (.invalidPattern check pattern fault)

def FileSet.fault? (check : String) : FileSet → Option ContractFault
  | .paths _ => none
  | .walk _ glob =>
      match Glob.compile glob with
      | .ok _ => none
      | .error fault => some (.invalidGlob check glob fault)

def Requirement.searchFault? (check : String) : Requirement → Option ContractFault
  | .forbidden _ files .. => files.fault? check
  | .count files .. => files.fault? check
  | .patterns _ ps _ => ps.findSome? (patternFault? check)
  | _ => none

def Check.fault? (c : Check) : Option ContractFault :=
  match c.requirement.emptyPart? with
  | some part => some (.emptyPart c.name part)
  | none => c.requirement.searchFault? c.name

/-! ## Contracts -/

def isBlank (s : String) : Bool := s.toList.all Text.isSpace

/-- The first fault among checks, behind checks with the names in `seen`. -/
def checksFault? : List String → List Check → Option ContractFault
  | _, [] => none
  | seen, c :: rest =>
      if isBlank c.name then some .emptyName
      else if seen.contains c.name then some (.duplicateName c.name)
      else c.fault?.or (checksFault? (c.name :: seen) rest)

def keyFault? (checks : List Check) (k : KeyInterface) : Option ContractFault :=
  if checks.any fun c => c.name == k.check then none else some (.unknownCheck k.label k.check)

def Contract.fault? (c : Contract) : Option ContractFault :=
  (checksFault? [] c.checks).or (c.report.keyInterfaces.findSome? (keyFault? c.checks))

def Contract.validate (c : Contract) : Except ContractFault Unit :=
  match c.fault? with
  | none => .ok ()
  | some fault => .error fault

end SourceContract
