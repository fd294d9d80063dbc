import SourceContract.Yaml.Scan

/-!
# From tokens to events

Events list the nodes of a document in the order of the text, with the ends of its
collections.  The grammar is a stack of states; the state on top says what may come
next, and each step makes one event.
-/

namespace SourceContract.Yaml

/-! ## Events -/

structure Scalar where
  tag : Option String
  text : String
  style : Style
deriving DecidableEq, Repr

/-- A node may have an anchor, which is a number here. -/
inductive Event where
  | alias (anchor : Nat)
  | scalar (anchor : Option Nat) (scalar : Scalar)
  | sequenceStart (anchor : Option Nat) (tag : Option String)
  | mappingStart (anchor : Option Nat) (tag : Option String)
  | sequenceEnd
  | mappingEnd
deriving DecidableEq, Repr

def Event.anchor? : Event → Option Nat
  | .scalar anchor _ => anchor
  | .sequenceStart anchor _ => anchor
  | .mappingStart anchor _ => anchor
  | _ => none

abbrev MarkedEvent := Event × Mark

/-! ## Names -/

abbrev Anchors := List (String × Nat)

def Anchors.insert (anchors : Anchors) (name : String) : Anchors :=
  (name, anchors.length) :: anchors.filter fun a => a.1 != name

abbrev Handles := List (String × String)

def Handles.standard : Handles := [("!", "!"), ("!!", "tag:yaml.org,2002:")]

/-! ## Reading tokens -/

structure Remaining where
  tokens : List Located
  /-- The fault that stands behind the last token. -/
  fault : Fault
  anchors : Anchors
  handles : Handles

abbrev TokenReader := StateT Remaining (Except Fault)

namespace TokenReader

def fail {α : Type} (problem : Problem) (mark : Mark) (context : Option (Activity × Mark)) :
    TokenReader α :=
  throw (.malformed ⟨problem, mark, context⟩)

def peek : TokenReader Located := do
  let r ← get
  match r.tokens with
  | [] => throw r.fault
  | t :: _ => return t

def skip : TokenReader Unit := modify fun r => { r with tokens := r.tokens.tail }

def next : TokenReader Located := do
  skip
  peek

end TokenReader

/-! ## Nodes -/

inductive State where
  | blockSequence (began : Mark)
  /-- Entries of a sequence that is not indented further than the mapping it stands in. -/
  | indentlessSequence
  | blockMappingKey (began : Mark)
  | blockMappingValue (began : Mark)
  | flowSequence (first : Bool) (began : Mark)
  /-- A key inside a flow sequence makes a mapping of one entry. -/
  | flowPairKey (began : Mark)
  | flowPairValue (began : Mark)
  | flowPairEnd (began : Mark)
  | flowMapping (first : Bool) (began : Mark)
  /-- Behind a key that was written without an indicator no value is looked for. -/
  | flowMappingValue (bare : Bool) (began : Mark)
deriving DecidableEq, Repr

abbrev Step := MarkedEvent × List State

namespace Event

open TokenReader

def empty (mark : Mark) : MarkedEvent := (.scalar none ⟨none, "", .plain⟩, mark)

def expandTag (handle suffix : String) (began mark : Mark) : TokenReader String := do
  if handle.isEmpty then return suffix
  match (← get).handles.lookup handle with
  | some expansion => return expansion ++ suffix
  | none => fail .handleUndefined mark (some (.node, began))

structure Properties where
  anchor : Option String
  tag : Option (String × String × Mark)

def properties : TokenReader Properties := do
  match (← peek).token with
  | .anchor name =>
      let t ← next
      match t.token with
      | .tag handle suffix =>
          skip
          return ⟨some name, some (handle, suffix, t.start)⟩
      | _ => return ⟨some name, none⟩
  | .tag handle suffix =>
      let tag := (handle, suffix, (← peek).start)
      let t ← next
      match t.token with
      | .anchor name =>
          skip
          return ⟨some name, some tag⟩
      | _ => return ⟨none, some tag⟩
  | _ => return ⟨none, none⟩

def register (anchor : Option String) : TokenReader (Option Nat) := do
  match anchor with
  | none => return none
  | some name =>
      let anchors := (← get).anchors
      modify fun r => { r with anchors := anchors.insert name }
      return some anchors.length

def node (block indentless : Bool) (under : List State) : TokenReader Step := do
  let first ← peek
  let began := first.start
  match first.token with
  | .alias name =>
      match (← get).anchors.lookup name with
      | none => throw (.anchorUnknown began)
      | some anchor =>
          skip
          return ((.alias anchor, began), under)
  | _ =>
      let properties ← properties
      let t ← peek
      let tag ← properties.tag.mapM fun (handle, suffix, mark) =>
        expandTag handle suffix began mark
      let start (event : Option Nat → Option String → Event) (state : State) : TokenReader Step :=
        do return ((event (← register properties.anchor) tag, began), state :: under)
      match t.token, block with
      | .scalar text style, _ =>
          skip
          let tag := if tag == some "!" then none else tag
          return ((.scalar (← register properties.anchor) ⟨tag, text, style⟩, began), under)
      | .flowSequenceStart, _ =>
          skip
          start .sequenceStart (.flowSequence true t.start)
      | .flowMappingStart, _ =>
          skip
          start .mappingStart (.flowMapping true t.start)
      | .blockSequenceStart, true =>
          skip
          start .sequenceStart (.blockSequence t.start)
      | .blockMappingStart, true =>
          skip
          start .mappingStart (.blockMappingKey t.start)
      | token, _ =>
          if indentless && token == .blockEntry then
            start .sequenceStart .indentlessSequence
          else if properties.anchor.isSome || tag.isSome then
            return ((.scalar (← register properties.anchor) ⟨tag, "", .plain⟩, began), under)
          else
            fail .contentMissing t.start (some (if block then .blockNode else .flowNode, began))

def nodeUnless (ends : List Token) (mark : Mark) (block indentless : Bool) (under : List State) :
    TokenReader Step := do
  if ends.contains (← peek).token then return (empty mark, under)
  else node block indentless under

/-! ## Steps -/

def step (state : State) (under : List State) : TokenReader Step := do
  let t ← peek
  match state with
  | .blockSequence began =>
      match t.token with
      | .blockEntry =>
          skip
          nodeUnless [.blockEntry, .blockEnd] t.stop true false (state :: under)
      | .blockEnd =>
          skip
          return ((.sequenceEnd, t.start), under)
      | _ => fail .dashMissing t.start (some (.blockCollection, began))
  | .indentlessSequence =>
      match t.token with
      | .blockEntry =>
          skip
          nodeUnless [.blockEntry, .key, .value, .blockEnd] t.stop true false (state :: under)
      | _ => return ((.sequenceEnd, t.start), under)
  | .blockMappingKey began =>
      match t.token with
      | .key =>
          skip
          nodeUnless [.key, .value, .blockEnd] t.stop true true (.blockMappingValue began :: under)
      | .blockEnd =>
          skip
          return ((.mappingEnd, t.start), under)
      | _ => fail .keyMissing t.start (some (.blockMapping, began))
  | .blockMappingValue began =>
      match t.token with
      | .value =>
          skip
          nodeUnless [.key, .value, .blockEnd] t.stop true true (.blockMappingKey began :: under)
      | _ => return (empty t.start, .blockMappingKey began :: under)
  | .flowSequence first began =>
      let entry (t : Located) : TokenReader Step := do
        match t.token with
        | .flowSequenceEnd =>
            skip
            return ((.sequenceEnd, t.start), under)
        | .key =>
            skip
            return ((.mappingStart none none, t.start), .flowPairKey began :: under)
        | _ => node false false (.flowSequence false began :: under)
      match t.token, first with
      | .flowSequenceEnd, _ => entry t
      | _, true => entry t
      | .flowEntry, false => entry (← next)
      | _, false => fail .sequenceEndMissing t.start (some (.flowSequence, began))
  | .flowPairKey began =>
      if [.value, .flowEntry, .flowSequenceEnd].contains t.token then
        skip
        return (empty t.stop, .flowPairValue began :: under)
      else node false false (.flowPairValue began :: under)
  | .flowPairValue began =>
      match t.token with
      | .value =>
          let t ← next
          nodeUnless [.flowEntry, .flowSequenceEnd] t.start false false
            (.flowPairEnd began :: under)
      | _ => return (empty t.start, .flowPairEnd began :: under)
  | .flowPairEnd began => return ((.mappingEnd, t.start), .flowSequence false began :: under)
  | .flowMapping first began =>
      let entry (t : Located) : TokenReader Step := do
        match t.token with
        | .flowMappingEnd =>
            skip
            return ((.mappingEnd, t.start), under)
        | .key =>
            let t ← next
            nodeUnless [.value, .flowEntry, .flowMappingEnd] t.start false false
              (.flowMappingValue false began :: under)
        | _ => node false false (.flowMappingValue true began :: under)
      match t.token, first with
      | .flowMappingEnd, _ => entry t
      | _, true => entry t
      | .flowEntry, false => entry (← next)
      | _, false => fail .mappingEndMissing t.start (some (.flowMapping, began))
  | .flowMappingValue bare began =>
      match t.token, bare with
      | .value, false =>
          let t ← next
          nodeUnless [.flowEntry, .flowMappingEnd] t.start false false
            (.flowMapping false began :: under)
      | _, _ => return (empty t.start, .flowMapping false began :: under)

/-! ## Documents -/

def directives : Nat → Bool → Handles → TokenReader Handles
  | 0, _, handles => return handles
  | fuel + 1, version, handles => do
      let t ← peek
      match t.token with
      | .versionDirective major minor =>
          if version then fail .versionDuplicate t.start none
          if major != 1 || (minor != 1 && minor != 2) then fail .versionIncompatible t.start none
          skip
          directives fuel true handles
      | .tagDirective handle expansion =>
          if (handles.lookup handle).isSome then fail .handleDuplicate t.start none
          skip
          directives fuel version (handles ++ [(handle, expansion)])
      | _ => return handles

def first? : TokenReader (Option Step) := do
  let t ← peek
  let fuel := (← get).tokens.length
  match t.token with
  | .streamEnd => return none
  | .versionDirective .. | .tagDirective .. | .documentStart =>
      let handles ← directives fuel false []
      modify fun r => { r with handles := handles ++ Handles.standard }
      let t ← peek
      if t.token != .documentStart then fail .documentStartMissing t.start none
      let t ← next
      match t.token with
      | .versionDirective .. | .tagDirective .. | .documentStart | .documentEnd | .streamEnd =>
          return some (empty t.start, [])
      | _ => return some (← node true false [])
  | _ => return some (← node true false [])

end Event

/-- The events of the first document of a text, and how the text goes on behind them. -/
structure Events where
  list : List MarkedEvent
  /-- Whether the text ends behind the document, or the fault that cuts the document off. -/
  ending : Except Fault Bool

namespace Events

open TokenReader

def endsText : List Located → Bool
  | [] => false
  | t :: rest =>
      match t.token with
      | .documentEnd => endsText rest
      | .streamEnd => true
      | _ => false

def following : Nat → List State → Remaining → Events
  | 0, _, r => ⟨[], .error r.fault⟩
  | _ + 1, [], r =>
      match r.tokens with
      | [] => ⟨[], .error r.fault⟩
      | tokens => ⟨[], .ok (endsText tokens)⟩
  | fuel + 1, state :: under, r =>
      match (Event.step state under).run r with
      | .error fault => ⟨[], .error fault⟩
      | .ok ((event, states), r) =>
          let rest := following fuel states r
          { rest with list := event :: rest.list }

/-- The bound is never reached, since at most two events in a row pass no token. -/
def ofTokens (tokens : Tokens) : Events :=
  let r : Remaining := ⟨tokens.list, tokens.fault.getD .endOfText, [], Handles.standard⟩
  match Event.first?.run r with
  | .error fault => ⟨[], .error fault⟩
  | .ok (none, _) => ⟨[], .ok true⟩
  | .ok (some (event, states), r) =>
      let rest := following (4 * tokens.list.length + 4) states r
      { rest with list := event :: rest.list }

end Events

end SourceContract.Yaml
