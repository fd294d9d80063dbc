import SourceContract.Yaml.Event
import SourceContract.Value.Basic

/-!
# What scalars stand for

A plain scalar without a tag is null, a boolean, an integer or a number if it is
spelled as one, and otherwise text.  A tag of the standard may demand one of these
kinds.
-/

namespace SourceContract.Yaml

/-! ## Spellings -/

def isNullSpelling (s : String) : Bool := ["null", "Null", "NULL", "~"].contains s

def boolOfText? (s : String) : Option Bool :=
  if ["true", "True", "TRUE"].contains s then some true
  else if ["false", "False", "FALSE"].contains s then some false
  else none

def isSign (c : Char) : Bool := c == '+' || c == '-'

/-- Several decimal digits of which the first is zero, perhaps with a sign, are text. -/
def isPaddedNumber (cs : List Char) : Bool :=
  let digits := match cs with
    | c :: rest => if isSign c then rest else cs
    | [] => []
  1 < digits.length && digits.head? == some '0' && digits.all Char.isDigit

def digitValue? (base : Nat) (c : Char) : Option Nat :=
  (Text.CharSet.hexValue? c).filter (· < base)

def naturalOfDigits? (base : Nat) (cs : List Char) : Option Nat := do
  let values ← cs.mapM (digitValue? base)
  if values.isEmpty then none else return values.foldl (fun n v => base * n + v) 0

def natural? (cs : List Char) : Option Nat :=
  match cs with
  | '0' :: 'x' :: rest => naturalOfDigits? 16 rest
  | '0' :: 'o' :: rest => naturalOfDigits? 8 rest
  | '0' :: 'b' :: rest => naturalOfDigits? 2 rest
  | _ => naturalOfDigits? 10 cs

def integer? (cs : List Char) : Option Int :=
  if isPaddedNumber cs then none
  else
    match cs with
    | '+' :: rest => (natural? rest).map Int.ofNat
    | '-' :: rest => (natural? rest).map fun n => -(n : Int)
    | _ => (natural? cs).map Int.ofNat

def decimal? (negative : Bool) (cs : List Char) : Option Binary64 :=
  let whole := cs.takeWhile Char.isDigit
  let rest := cs.dropWhile Char.isDigit
  let (fraction, rest) := match rest with
    | '.' :: rest => (rest.takeWhile Char.isDigit, rest.dropWhile Char.isDigit)
    | _ => ([], rest)
  let exponent : Option Int := match rest with
    | [] => some 0
    | e :: rest => if e == 'e' || e == 'E' then exponentOfText rest else none
  match naturalOfDigits? 10 (whole ++ fraction), exponent with
  | some digits, some e => some (.ofDecimal negative digits (e - fraction.length))
  | _, _ => none
where
  exponentOfText : List Char → Option Int
    | '+' :: rest => (naturalOfDigits? 10 rest).map Int.ofNat
    | '-' :: rest => (naturalOfDigits? 10 rest).map fun n => -(n : Int)
    | rest => (naturalOfDigits? 10 rest).map Int.ofNat

def floatOfText? (s : String) : Option Binary64 :=
  if [".inf", ".Inf", ".INF", "+.inf", "+.Inf", "+.INF"].contains s then some (.infinite false)
  else if ["-.inf", "-.Inf", "-.INF"].contains s then some (.infinite true)
  else if [".nan", ".NaN", ".NAN"].contains s then some .nan
  else
    let number := match s.toList with
      | '+' :: rest => decimal? false rest
      | '-' :: rest => decimal? true rest
      | cs => decimal? false cs
    number.filter Binary64.isFinite

/-! ## Resolution -/

def isMachineInteger (i : Int) : Bool := -(Nat.pow 2 63 : Int) ≤ i && i < Nat.pow 2 64

/-- Integers that are recognized as such but that no value can hold. -/
def wideName? (i : Int) : Option String :=
  if isMachineInteger i then none
  else if 0 ≤ i && i < Nat.pow 2 128 then some "u128"
  else if -(Nat.pow 2 127 : Int) ≤ i && i < 0 then some "i128"
  else none

/-- An integer where something is expected; one too wide to be a value is reported at once. -/
def resolveInteger (expected : String) (i : Int) : Option (Except Mismatch Value) :=
  if isMachineInteger i then some (.ok (.int i))
  else (wideName? i).map fun name =>
    .error (.invalidType (.other ("integer \x60" ++ toString i ++ "\x60 as " ++ name)) expected)

def resolvePlain (expected : String) (s : String) : Except Mismatch Value :=
  if s.isEmpty || isNullSpelling s then .ok .null
  else
    match boolOfText? s with
    | some b => .ok (.bool b)
    | none =>
        match (integer? s.toList).bind (resolveInteger expected) with
        | some resolved => resolved
        | none =>
            match if isPaddedNumber s.toList then none else floatOfText? s with
            | some x => .ok (.float x)
            | none => .ok (.str s)

namespace Scalar

def boolTag : String := "tag:yaml.org,2002:bool"

def intTag : String := "tag:yaml.org,2002:int"

def floatTag : String := "tag:yaml.org,2002:float"

def nullTag : String := "tag:yaml.org,2002:null"

def isLocal (tag : String) : Bool := tag.toList.head? == some '!'

def demand (s : Scalar) (kind : String) (found : Option Value) : Except Mismatch Value :=
  match found with
  | some v => .ok v
  | none => .error (.invalidValue (.str s.text) kind)

def resolve (expected : String) (s : Scalar) : Except Mismatch Value :=
  match s.tag with
  | none =>
      if s.style == .plain then resolvePlain expected s.text else .ok (.str s.text)
  | some tag =>
      if tag == boolTag then s.demand "a boolean" ((boolOfText? s.text).map .bool)
      else if tag == intTag then
        match (integer? s.text.toList).bind (resolveInteger expected) with
        | some resolved => resolved
        | none => s.demand "an integer" none
      else if tag == floatTag then s.demand "a float" ((floatOfText? s.text).map .float)
      else if tag == nullTag then
        s.demand "null" (if isNullSpelling s.text then some .null else none)
      else if isLocal tag && s.style == .plain then resolvePlain expected s.text
      else .ok (.str s.text)

def isEmptyPlain (s : Scalar) : Bool := s.text.isEmpty && s.style == .plain

def mismatch (expected : String) (s : Scalar) : Mismatch :=
  match s.resolve expected with
  | .ok v => .invalidType v.found expected
  | .error cause => cause

end Scalar

end SourceContract.Yaml
