/-!
# Arguments

Arguments are read one after the other.  An option takes its value from the same
argument or from the next one; what belongs to an option is settled when the next
thing begins, so of two faults the one that is noticed first is reported.  Behind
two hyphens every argument is a plain one.
-/

namespace SourceContract.CommandLine

/-! ## Options -/

structure Options where
  root : Option String
  contract : Option String
  template : Option String
  output : Option String
  format : String
  noReport : Bool
  parallel : Bool
  listTemplates : Bool
  verbose : Nat
deriving DecidableEq, Repr

inductive Refusal where
  | help
  | version
  | unknownArgument
  | invalidValue
  | conflict
  | tooManyValues
deriving DecidableEq, Repr

inductive Slot where
  | root
  | contract
  | template
  | output
  | format
deriving DecidableEq, Repr

inductive Switch where
  | noReport
  | parallel
  | listTemplates
  | verbose
  | help
  | version
deriving DecidableEq, Repr

inductive Argument where
  | slot (s : Slot)
  | switch (s : Switch)
deriving DecidableEq, Repr

def longNames : List (String × Argument) :=
  [("contract", .slot .contract), ("template", .slot .template), ("output", .slot .output),
   ("format", .slot .format), ("no-report", .switch .noReport), ("parallel", .switch .parallel),
   ("list-templates", .switch .listTemplates), ("verbose", .switch .verbose),
   ("help", .switch .help), ("version", .switch .version)]

def shortNames : List (Char × Argument) :=
  [('c', .slot .contract), ('t', .slot .template), ('o', .slot .output), ('f', .slot .format),
   ('j', .switch .parallel), ('v', .switch .verbose), ('h', .switch .help),
   ('V', .switch .version)]

def Slot.isPath : Slot → Bool
  | .root | .contract | .output => true
  | .template | .format => false

/-! ## Reading -/

/-- Arguments read so far.  `pending` is what was begun last, with its value if it has come. -/
structure Reading where
  values : List (Slot × String)
  switches : List Switch
  pending : Option (Slot × Option String)
  rootBegun : Bool

namespace Reading

def start : Reading := ⟨[], [], none, false⟩

def assign (r : Reading) (slot : Slot) (value : String) : Except Refusal Reading :=
  if (r.values.lookup slot).isSome then .error .conflict
  else if slot.isPath && value.isEmpty then .error .invalidValue
  else .ok { r with values := (slot, value) :: r.values }

def settle (r : Reading) : Except Refusal Reading :=
  match r.pending with
  | none => .ok r
  | some (_, none) => .error .invalidValue
  | some (slot, some value) => { r with pending := none }.assign slot value

/-- Help and version end the reading; only verbosity may be raised more than once. -/
def switchOn (r : Reading) (s : Switch) : Except Refusal Reading := do
  let r ← r.settle
  if s = .help then .error .help
  else if s = .version then .error .version
  else if s ≠ .verbose && r.switches.contains s then .error .conflict
  else return { r with switches := s :: r.switches }

def option (r : Reading) (slot : Slot) (value : Option String) : Except Refusal Reading := do
  let r ← r.settle
  match value with
  | some v => r.assign slot v
  | none => return { r with pending := some (slot, none) }

def plain (r : Reading) (value : String) : Except Refusal Reading :=
  if r.rootBegun then .error .unknownArgument
  else do
    let r ← r.settle
    return { r with pending := some (.root, some value), rootBegun := true }

def long (r : Reading) (name : String) (value : Option String) : Except Refusal Reading :=
  match longNames.lookup name, value with
  | none, _ => .error .unknownArgument
  | some (.slot slot), value => r.option slot value
  | some (.switch _), some _ => .error .tooManyValues
  | some (.switch s), none => r.switchOn s

def short (r : Reading) : List Char → Except Refusal Reading
  | [] => .ok r
  | c :: rest =>
      match shortNames.lookup c with
      | none => .error .unknownArgument
      | some (.switch s) => do (← r.switchOn s).short rest
      | some (.slot slot) =>
          match rest with
          | [] => r.option slot none
          | '=' :: value => r.option slot (some (String.ofList value))
          | value => r.option slot (some (String.ofList value))

def word (r : Reading) (value : String) : Except Refusal Reading :=
  match r.pending with
  | some (slot, none) => .ok { r with pending := some (slot, some value) }
  | _ => r.plain value

def nameAndValue (chars : List Char) : String × Option String :=
  match chars.dropWhile (· != '=') with
  | [] => (String.ofList chars, none)
  | _ :: value => (String.ofList (chars.takeWhile (· != '=')), some (String.ofList value))

def readAll (r : Reading) : List String → Except Refusal Reading
  | [] => .ok r
  | arg :: rest =>
      match arg.toList with
      | ['-', '-'] => rest.foldlM plain r
      | '-' :: '-' :: chars => do
          let (name, value) := nameAndValue chars
          (← r.long name value).readAll rest
      | '-' :: c :: chars => do (← r.short (c :: chars)).readAll rest
      | _ => do (← r.word arg).readAll rest

def options (r : Reading) : Options where
  root := r.values.lookup .root
  contract := r.values.lookup .contract
  template := r.values.lookup .template
  output := r.values.lookup .output
  format := (r.values.lookup .format).getD "pretty"
  noReport := r.switches.contains .noReport
  parallel := r.switches.contains .parallel
  listTemplates := r.switches.contains .listTemplates
  verbose := r.switches.count .verbose

end Reading

def Options.ofArguments (args : List String) : Except Refusal Options := do
  let r ← (← Reading.start.readAll args).settle
  let o := r.options
  if o.contract.isSome && o.template.isSome then .error .conflict else return o

end SourceContract.CommandLine
