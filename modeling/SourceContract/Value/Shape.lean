import SourceContract.Value.Mismatch

/-!
# Shapes of records

A shape lists the fields of a record in order, each with the way to read it, and
builds the record from them.  A record comes as entries (any order, unknown names
passed over) or as items (one per field, in order).

The reading order is part of the meaning, because the first fault is the one
reported: entries are read as they stand, then the fields that are missing are
reported in the order of the shape.
-/

namespace SourceContract

class OfMismatch (ε : Type) where
  ofMismatch : Mismatch → ε

instance : OfMismatch Mismatch := ⟨id⟩

export OfMismatch (ofMismatch)

/-- One field: its name, whether it may be left out, and a test that reads it. -/
structure Field (σ ε : Type) where
  name : String
  optional : Bool
  check : σ → Except ε Unit

/-- Fields read from sources of type `σ`, and the record that they make up. -/
structure Shape (σ ε α : Type) where
  fields : List (Field σ ε)
  build : (String → Option σ) → Except ε α

namespace Shape

variable {σ ε α β : Type}

/-! ## Building shapes -/

instance : Functor (Shape σ ε) where
  map f s := ⟨s.fields, fun look => (s.build look).map f⟩

instance : Applicative (Shape σ ε) where
  pure a := ⟨[], fun _ => .ok a⟩
  seq f s :=
    let s := s ()
    ⟨f.fields ++ s.fields, fun look => do
      let g ← f.build look
      let a ← s.build look
      return g a⟩

def required [OfMismatch ε] (name : String) (read : σ → Except ε α) : Shape σ ε α where
  fields := [⟨name, false, fun source => (read source).map fun _ => ()⟩]
  build look := match look name with
    | some source => read source
    | none => .error (ofMismatch (.missingField name))

def withDefault (name : String) (read : σ → Except ε α) (default : α) : Shape σ ε α where
  fields := [⟨name, true, fun source => (read source).map fun _ => ()⟩]
  build look := match look name with
    | some source => read source
    | none => .ok default

def names (s : Shape σ ε α) : List String := s.fields.map Field.name

/-! ## Records as entries -/

def fieldOf? (s : Shape σ ε α) (key : Option String) : Option (Field σ ε) :=
  key.bind fun name => s.fields.find? fun f => f.name == name

/-- Reads the entries as they stand.  A key is a name, or nothing when it can belong to no field;
`seen` holds the fields met so far, and `other` reads an entry that belongs to no field. -/
def checkEntries [OfMismatch ε] (s : Shape σ ε α) (other : σ → Except ε Unit) :
    List String → List (Except ε (Option String) × σ) → Except ε Unit
  | _, [] => .ok ()
  | seen, (key, source) :: rest => do
      match s.fieldOf? (← key) with
      | none =>
          other source
          checkEntries s other seen rest
      | some field =>
          if seen.contains field.name then .error (ofMismatch (.duplicateField field.name))
          else
            field.check source
            checkEntries s other (field.name :: seen) rest

def sourceOf? (entries : List (Except ε (Option String) × σ)) (name : String) : Option σ :=
  (entries.find? fun e => match e.1 with
    | .ok (some key) => key == name
    | _ => false).map Prod.snd

def ofEntries [OfMismatch ε] (s : Shape σ ε α) (other : σ → Except ε Unit)
    (entries : List (Except ε (Option String) × σ)) : Except ε α := do
  s.checkEntries other [] entries
  s.build (sourceOf? entries)

/-! ## Records as items -/

def checkItems [OfMismatch ε] (expected : String) : Nat → List (Field σ ε) → List σ →
    Except ε Unit
  | _, [], _ => .ok ()
  | done, field :: fields, [] =>
      if field.optional then checkItems expected (done + 1) fields []
      else .error (ofMismatch (.invalidLength done expected))
  | done, field :: fields, source :: rest => do
      field.check source
      checkItems expected (done + 1) fields rest

def ofItems [OfMismatch ε] (s : Shape σ ε α) (expected excess : String) (items : List σ) :
    Except ε α := do
  checkItems expected 0 s.fields items
  let record ← s.build fun name => ((s.names.zip items).find? fun e => e.1 == name).map Prod.snd
  if s.fields.length < items.length then
    .error (ofMismatch (.invalidLength items.length excess))
  else return record

end Shape

end SourceContract
