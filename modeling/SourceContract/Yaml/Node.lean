import SourceContract.Yaml.Event

/-!
# From events to nodes

A document is read as a tree.  Where the events break off, the tree holds `broken`
nodes, so all that stands before the fault can still be read.  An alias keeps the
number of its anchor, and the node it stands for is built when it is asked for.
-/

namespace SourceContract.Yaml

inductive Node where
  | alias (mark : Mark) (anchor : Nat)
  | scalar (mark : Mark) (scalar : Scalar)
  | sequence (mark : Mark) (tag : Option String) (items : List Node)
  | mapping (mark : Mark) (tag : Option String) (entries : List (Node × Node))
  | broken
deriving Inhabited

namespace Node

/-! ## Building -/

inductive Frame where
  | items (mark : Mark) (tag : Option String) (items : List Node)
  | entries (mark : Mark) (tag : Option String) (entries : List (Node × Node))
  /-- The last key has no value yet. -/
  | entry (mark : Mark) (tag : Option String) (entries : List (Node × Node)) (key : Node)

def Frame.add (n : Node) : Frame → Frame
  | .items mark tag parts => .items mark tag (n :: parts)
  | .entries mark tag parts => .entry mark tag parts n
  | .entry mark tag parts key => .entries mark tag ((key, n) :: parts)

def Frame.node : Frame → Node
  | .items mark tag parts => .sequence mark tag parts.reverse
  | .entries mark tag parts => .mapping mark tag parts.reverse
  | .entry mark tag parts key => .mapping mark tag ((key, .broken) :: parts).reverse

/-- The node that the events start with; `frames` are the collections around them, the innermost
first. -/
def build : List Frame → List MarkedEvent → Node
  | frames, [] => frames.foldl (fun n frame => (frame.add n).node) .broken
  | frames, (event, mark) :: rest =>
      match event with
      | .sequenceStart _ tag => build (.items mark tag [] :: frames) rest
      | .mappingStart _ tag => build (.entries mark tag [] :: frames) rest
      | .sequenceEnd | .mappingEnd =>
          match frames with
          | [] => .broken
          | [frame] => frame.node
          | inner :: outer :: frames => build (outer.add inner.node :: frames) rest
      | .alias anchor =>
          match frames with
          | [] => .alias mark anchor
          | frame :: frames => build (frame.add (.alias mark anchor) :: frames) rest
      | .scalar _ content =>
          match frames with
          | [] => .scalar mark content
          | frame :: frames => build (frame.add (.scalar mark content) :: frames) rest

def mark : Node → Mark
  | .alias mark _ => mark
  | .scalar mark _ => mark
  | .sequence mark _ _ => mark
  | .mapping mark _ _ => mark
  | .broken => Mark.start

mutual

def isWhole : Node → Bool
  | broken => false
  | sequence _ _ items => itemsWhole items
  | mapping _ _ entries => entriesWhole entries
  | _ => true

def itemsWhole : List Node → Bool
  | [] => true
  | n :: rest => isWhole n && itemsWhole rest

def entriesWhole : List (Node × Node) → Bool
  | [] => true
  | (key, value) :: rest => isWhole key && isWhole value && entriesWhole rest

end

end Node

/-! ## Documents -/

structure Document where
  events : List MarkedEvent
  /-- The fault that broken nodes stand for. -/
  fault : Fault
  /-- How many aliases may be followed. -/
  aliasLimit : Nat

namespace Document

def root (d : Document) : Node := Node.build [] d.events

def target (d : Document) (anchor : Nat) : Node :=
  let starts := d.events.reverse.dropWhile fun e => e.1.anchor? != some anchor
  Node.build [] (d.events.drop (starts.length - 1))

def aliasesPerEvent : Nat := 100

/-- A text without a document reads as an empty scalar. -/
def ofEvents (events : Events) : Document :=
  match events.list, events.ending with
  | [], .ok _ => ⟨[Event.empty Mark.start], .endOfText, aliasesPerEvent⟩
  | list, .ok _ => ⟨list, .endOfText, aliasesPerEvent * list.length⟩
  | list, .error fault => ⟨list, fault, aliasesPerEvent * list.length⟩

end Document

end SourceContract.Yaml
