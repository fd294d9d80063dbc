import SourceContract.Yaml.Property
import SourceContract.Yaml.Scalar.Plain
import SourceContract.Yaml.Scalar.Quoted
import SourceContract.Yaml.Scalar.Block

/-!
# Indentation and keys

A token may turn out to be the first one of a key only when the colon behind it is
met.  Until then its position is kept as a pending key, one for each level of flow
collections.  When the colon comes, the token that announces the key is put in
front of it, and in block context also the token that opens the mapping.

In block context the column of a token opens and closes block collections.
-/

namespace SourceContract.Yaml

/-- A token that may be the start of a key.  It must be one if it stands where only keys of the
innermost block mapping stand. -/
structure PendingKey where
  position : Nat
  mark : Mark
  required : Bool
deriving DecidableEq, Repr

/-- A key stands on one line and takes 1024 characters at most. -/
def PendingKey.isStale (k : PendingKey) (now : Mark) : Bool :=
  k.mark.line < now.line || k.mark.index + 1024 < now.index

structure Layout where
  /-- The tokens so far, the last one first. -/
  tokens : List Located
  size : Nat
  /-- Columns of the open block collections, the innermost first. -/
  indents : List Nat
  keyAllowed : Bool
  pending : Option PendingKey
  /-- The pending keys of the levels around this one; there are as many as open flow collections. -/
  outer : List (Option PendingKey)

namespace Layout

def start : Layout := ⟨[], 0, [], true, none, []⟩

def inFlow (l : Layout) : Bool := !l.outer.isEmpty

/-- The least column of content inside the innermost block collection. -/
def least (l : Layout) : Nat :=
  match l.indents with
  | [] => 0
  | column :: _ => column + 1

def insert (l : Layout) (position : Nat) (token : Located) : Layout :=
  let (behind, before) := l.tokens.splitAt (l.size - position)
  { l with tokens := behind ++ token :: before, size := l.size + 1 }

def push (l : Layout) (token : Located) : Layout := l.insert l.size token

def openBlock (l : Layout) (column position : Nat) (token : Token) (mark : Mark) : Layout :=
  if l.inFlow || column < l.least then l
  else { l.insert position ⟨token, mark, mark⟩ with indents := column :: l.indents }

def closeBlocks (l : Layout) (limit : Nat) (mark : Mark) : Layout :=
  if l.inFlow then l
  else
    let closed := l.indents.takeWhile (limit ≤ ·)
    let ended := closed.foldl (fun l _ => l.push ⟨.blockEnd, mark, mark⟩) l
    { ended with indents := l.indents.drop closed.length }

/-- The tokens that no pending key can still be put in front of. -/
def settled (l : Layout) : List Located :=
  let positions := (l.pending :: l.outer).filterMap fun k => k.map PendingKey.position
  (l.tokens.drop (l.size - positions.foldl min l.size)).reverse

end Layout

abbrev Scanner := StateT Layout Reader

namespace Scanner

/-! ## Pending keys -/

def failAlone {α : Type} (problem : Problem) : Scanner α := do
  throw ⟨problem, ← Reader.mark, none⟩

def inFlow : Scanner Bool := return (← get).inFlow

def allowKey (allowed : Bool) : Scanner Unit :=
  modify fun l => { l with keyAllowed := allowed }

def giveUp (k : PendingKey) : Scanner Unit := do
  if k.required then Reader.fail .colonMissing .simpleKey k.mark

def dropKey : Scanner Unit := do
  if let some k := (← get).pending then giveUp k
  modify fun l => { l with pending := none }

def saveKey : Scanner Unit := do
  let l ← get
  if l.keyAllowed then
    dropKey
    let mark ← Reader.mark
    let required := !l.inFlow && l.indents.head? == some mark.column
    modify fun l => { l with pending := some ⟨l.size, mark, required⟩ }

def dropStaleKeys : Scanner Unit := do
  let now ← Reader.mark
  let l ← get
  let keep (k : Option PendingKey) : Scanner (Option PendingKey) := do
    match k with
    | none => return none
    | some k =>
        if k.isStale now then
          giveUp k
          return none
        else return some k
  let outer ← l.outer.mapM keep
  let pending ← keep l.pending
  set { l with outer := outer, pending := pending }

/-! ## Tokens -/

def emit (token : Token) (began : Mark) : Scanner Unit := do
  let stop ← Reader.mark
  modify fun l => l.push ⟨token, began, stop⟩

def indicator (token : Token) (size : Nat) : Scanner Unit := do
  let began ← Reader.mark
  for _ in List.range size do Reader.skip
  emit token began

def reading (read : Reader Token) : Scanner Unit := do
  let began ← Reader.mark
  emit (← read) began

def openHere (token : Token) : Scanner Unit := do
  let mark ← Reader.mark
  modify fun l => l.openBlock mark.column l.size token mark

def closeAll : Scanner Unit := do
  let mark ← Reader.mark
  modify fun l => l.closeBlocks 0 mark

def streamEnd : Scanner Unit := do
  let mark ← Reader.mark
  if mark.column != 0 then
    modifyThe Cursor fun c => { c with mark := ⟨mark.index, mark.line + 1, 0⟩ }
  closeAll
  dropKey
  allowKey false
  indicator .streamEnd 0

def betweenDocuments (read : Scanner Unit) : Scanner Unit := do
  closeAll
  dropKey
  allowKey false
  read

def flowStart (token : Token) : Scanner Unit := do
  saveKey
  modify fun l => { l with outer := l.pending :: l.outer, pending := none, keyAllowed := true }
  indicator token 1

def flowEnd (token : Token) : Scanner Unit := do
  dropKey
  modify fun l =>
    match l.outer with
    | [] => l
    | pending :: outer => { l with pending := pending, outer := outer }
  allowKey false
  indicator token 1

def flowEntry : Scanner Unit := do
  dropKey
  allowKey true
  indicator .flowEntry 1

def blockEntry : Scanner Unit := do
  if !(← inFlow) then
    if !(← get).keyAllowed then failAlone .blockEntryNotAllowed
    openHere .blockSequenceStart
  dropKey
  allowKey true
  indicator .blockEntry 1

def key : Scanner Unit := do
  if !(← inFlow) then
    if !(← get).keyAllowed then failAlone .keyNotAllowed
    openHere .blockMappingStart
  dropKey
  allowKey (!(← inFlow))
  indicator .key 1

def value : Scanner Unit := do
  match (← get).pending with
  | some k =>
      modify fun l =>
        let l := { l.insert k.position ⟨.key, k.mark, k.mark⟩ with
          pending := none, keyAllowed := false }
        l.openBlock k.mark.column k.position .blockMappingStart k.mark
  | none =>
      if !(← inFlow) then
        if !(← get).keyAllowed then failAlone .valueNotAllowed
        openHere .blockMappingStart
      allowKey (!(← inFlow))
  indicator .value 1

def keyStart (read : Reader Token) : Scanner Unit := do
  saveKey
  allowKey false
  reading read

def blockScalar (literal : Bool) : Scanner Unit := do
  dropKey
  allowKey true
  reading (Reader.blockScalar literal (← get).least)

def plainScalar : Scanner Unit := do
  saveKey
  allowKey false
  let began ← Reader.mark
  let (token, linesFollow) ← Reader.plainScalar (← inFlow) (← get).least
  emit token began
  if linesFollow then allowKey true

end Scanner

end SourceContract.Yaml
