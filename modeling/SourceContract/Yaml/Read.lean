import SourceContract.Yaml.Node
import SourceContract.Yaml.Resolve
import SourceContract.Value.Read

/-!
# Reading nodes

Readers for the types that contracts are made of.  A mismatch is reported with the
path and the mark of the innermost node that is known to contain it.
-/

namespace SourceContract.Yaml

structure Spot where
  document : Document
  node : Node
  path : Path
  /-- How many collections may be entered from here. -/
  depth : Nat

namespace Spot

def maxDepth : Nat := 128

def root (d : Document) : Spot := ⟨d, d.root, [], maxDepth⟩

/-! ## Following aliases -/

def follow (s : Spot) : Except Fault Spot :=
  match s.node with
  | .broken => .error s.document.fault
  | .alias _ anchor => .ok { s with node := s.document.target anchor }
  | _ => .ok s

/-! ## Reporting -/

def report {α : Type} (s : Spot) (r : Except Fault α) : Except Fault α :=
  r.mapError (Fault.placed s.path s.node.mark)

def refuse {α : Type} (s : Spot) (cause : Mismatch) : Except Fault α :=
  .error (.mismatch cause (some (s.path, s.node.mark)))

def expected {α : Type} (s : Spot) (what : String) : Except Fault α :=
  match s.node with
  | .scalar _ scalar => s.refuse (scalar.mismatch what)
  | .sequence .. => s.refuse (.invalidType .seq what)
  | .mapping .. => s.refuse (.invalidType .map what)
  | _ => .error s.document.fault

/-! ## Scalars -/

def literal (what : String) (s : Spot) : Except Fault String := do
  let s ← s.follow
  match s.node with
  | .scalar _ scalar => return scalar.text
  | _ => s.expected what

def text : Spot → Except Fault String := literal "a string"

def isNothing (scalar : Scalar) : Except Fault Bool :=
  if scalar.style != .plain then .ok false
  else if scalar.tag == some Scalar.nullTag then
    if isNullSpelling scalar.text then .ok true
    else .error (ofMismatch (.invalidValue (.str scalar.text) "null"))
  else .ok (scalar.tag.isNone && (scalar.text.isEmpty || isNullSpelling scalar.text))

def optionalText (s : Spot) : Except Fault (Option String) := do
  let s ← s.follow
  match s.node with
  | .scalar _ scalar => return if ← isNothing scalar then none else some scalar.text
  | _ => s.expected "a string"

def flag (s : Spot) : Except Fault Bool := do
  let s ← s.follow
  match s.node with
  | .scalar _ scalar =>
      let readable := scalar.style == .plain
        || (scalar.style == .literal && scalar.tag == some Scalar.boolTag)
      match if readable then boolOfText? scalar.text else none with
      | some b => return b
      | none => s.expected "a boolean"
  | _ => s.expected "a boolean"

/-! ## Choices -/

def localTag? (tag : Option String) : Option String :=
  match tag.map String.toList with
  | some ('!' :: name) => some (String.ofList name)
  | _ => none

/-- A node that stands for nothing beside a tag that makes a choice. -/
def beside (s : Spot) : Except Fault Unit :=
  match s.node with
  | .scalar _ scalar =>
      if scalar.style == .plain && (scalar.text.isEmpty || isNullSpelling scalar.text) then .ok ()
      else s.refuse (.invalidValue (.str scalar.text) "null")
  | _ => s.expected "unit"

/-- A choice by a local tag or by the text of a scalar.  A tag that is not known is reported by the
node around. -/
def chosen {α : Type} (known : List (String × α)) (s : Spot) : Except Fault α :=
  let variant (name : String) : Except Fault α :=
    (Value.variantOf known (.name name)).mapError ofMismatch
  let tagged (name : String) : Except Fault α := do
    let choice ← variant name
    s.beside
    return choice
  match s.node with
  | .scalar _ scalar =>
      match localTag? scalar.tag with
      | some name => tagged name
      | none => s.report (variant scalar.text)
  | .sequence _ tag _ | .mapping _ tag _ =>
      match localTag? tag with
      | some name => tagged name
      | none => s.expected "a YAML tag starting with '!'"
  | _ => .error s.document.fault

def choice {α : Type} (known : List (String × α)) (s : Spot) : Except Fault α :=
  match s.node with
  | .alias .. => s.report (do chosen known (← s.follow))
  | _ => chosen known s

/-! ## Collections -/

def inside (s : Spot) : Except Fault Nat :=
  match s.depth with
  | 0 => .error (.tooDeep s.node.mark)
  | depth + 1 => .ok depth

def item (s : Spot) (depth : Nat) (entry : Node × Nat) : Spot :=
  { s with node := entry.1, path := .item entry.2 :: s.path, depth := depth }

def keyStep : Node → PathStep
  | .scalar _ scalar => .entry scalar.text
  | _ => .anonymous

def entry (s : Spot) (depth : Nat) (e : Node × Node) : Except Fault (Option String) × Spot :=
  (({ s with node := e.1, depth := depth }.literal "field identifier").map some,
   { s with node := e.2, path := keyStep e.1 :: s.path, depth := depth })

def list {α : Type} (read : Spot → Except Fault α) (s : Spot) : Except Fault (List α) := do
  let s ← s.follow
  s.report do
    match s.node with
    | .sequence _ _ items =>
        let depth ← s.inside
        items.zipIdx.mapM fun e => read (s.item depth e)
    | .scalar _ scalar => if scalar.isEmptyPlain then return [] else s.expected "a sequence"
    | _ => s.expected "a sequence"

def entries {α : Type} (type : String)
    (make : List (Except Fault (Option String) × Spot) → Except Fault α) (s : Spot) :
    Except Fault α := do
  let what := "struct " ++ type
  let s ← s.follow
  s.report do
    match s.node with
    | .mapping _ _ entries =>
        let depth ← s.inside
        make (entries.map (s.entry depth))
    | .scalar _ scalar => if scalar.isEmptyPlain then make [] else s.expected what
    | _ => s.expected what

def ignore (s : Spot) : Except Fault Unit :=
  if s.node.isWhole then .ok () else .error s.document.fault

def record {α : Type} (type : String) (shape : Shape Spot Fault α) : Spot → Except Fault α :=
  entries type (shape.ofEntries ignore)

/-! ## Structured values -/

def valueFrom (d : Document) : Nat → Path → Node → StateT Nat (Except Fault) Value
  | depth, path, node => do
      let node ← match node with
        | .alias _ anchor => do
            if d.aliasLimit ≤ (← get) then throw .tooManyAliases
            modify (· + 1)
            pure (d.target anchor)
        | node => pure node
      let s : Spot := ⟨d, node, path, depth⟩
      match node, depth with
      | .scalar _ scalar, _ =>
          if (localTag? scalar.tag).isSome then s.refuse .taggedContent
          else s.report ((scalar.resolve "any value").mapError ofMismatch)
      | .sequence mark tag items, depth =>
          if (localTag? tag).isSome then s.refuse .taggedContent
          else
            match depth with
            | 0 => throw (.tooDeep mark)
            | depth + 1 =>
                return .seq (← items.zipIdx.mapM fun e => valueFrom d depth (.item e.2 :: path) e.1)
      | .mapping mark tag entries, depth =>
          if (localTag? tag).isSome then s.refuse .taggedContent
          else
            match depth with
            | 0 => throw (.tooDeep mark)
            | depth + 1 =>
                return .map (← entries.mapM fun e => do
                  let key ← valueFrom d depth path e.1
                  let value ← valueFrom d depth (keyStep e.1 :: path) e.2
                  return (Value.key key, value))
      | _, _ => throw d.fault

def value (s : Spot) : Except Fault Value := (valueFrom s.document s.depth s.path s.node).run' 0

end Spot

/-! ## Texts -/

/-- Reads the one document of a text.  What is wrong behind the node that is read counts only when
the node itself is right. -/
def ofText {α : Type} (read : Spot → Except Fault α) (text : String) : Except Fault α := do
  let events := Events.ofTokens (Tokens.ofText text)
  let a ← read (Spot.root (Document.ofEvents events))
  if ← events.ending then return a else throw .severalDocuments

end SourceContract.Yaml
