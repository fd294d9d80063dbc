import SourceContract.Binary64.Basic

/-!
# Numbers as text

Three written forms of a double:

* `positional`: the fewest digits that read back, without an exponent;
* `compact`: the same digits, with an exponent where the number is very large or
  very small;
* `fixed`: a fixed number of places, rounded from the exact value.
-/

namespace SourceContract.Binary64

/-! ## The fewest digits that read back -/

/-- Digits of a positive decimal number, read as `0.digits * 10 ^ point`. -/
structure Decimal where
  digits : List Char
  point : Int
deriving DecidableEq, Repr

/-- Four times a positive number of units, with the ends of the interval of reals that round to
it. -/
structure Interval where
  low : Nat
  value : Nat
  high : Nat
  closed : Bool

def interval (mantissa scale : Nat) : Interval :=
  let step := Nat.pow 2 scale
  let below := if mantissa = mantissaBound / 2 ∧ 0 < scale then step else 2 * step
  ⟨4 * mantissa * step - below, 4 * mantissa * step, 4 * mantissa * step + 2 * step,
    mantissa % 2 = 0⟩

def Interval.holds (i : Interval) (num den : Nat) : Bool :=
  if i.closed then i.low * den ≤ num && num ≤ i.high * den
  else i.low * den < num && num < i.high * den

def tenPower (e : Int) : Nat × Nat :=
  if 0 ≤ e then (Nat.pow 10 e.toNat, 1) else (1, Nat.pow 10 (-e).toNat)

def decimalExponent (n den : Nat) : Nat → Int → Int
  | 0, e => e
  | fuel + 1, e =>
      let (p, q) := tenPower e
      if p * den ≤ n * q then e else decimalExponent n den fuel (e - 1)

def nearestOnGrid (i : Interval) (e : Int) : Option Nat :=
  let den := 4 * unit
  let (p, q) := tenPower e
  let lower := i.value * q / (den * p)
  let fits := fun c => i.holds (c * p * den) q
  let lowerGap := i.value * q - lower * p * den
  let upperGap := (lower + 1) * p * den - i.value * q
  match fits lower, fits (lower + 1) with
  | true, true =>
      if lowerGap < upperGap then some lower
      else if upperGap < lowerGap then some (lower + 1)
      else some (if lower % 2 = 0 then lower else lower + 1)
  | true, false => some lower
  | false, true => some (lower + 1)
  | false, false => none

/-- Tries the grid `10 ^ e` and then finer ones; seventeen digits always suffice. -/
def shortestFrom (i : Interval) : Nat → Int → Nat × Int
  | 0, e => (i.value / (4 * unit), e)
  | fuel + 1, e =>
      match nearestOnGrid i e with
      | some c => (c, e)
      | none => shortestFrom i fuel (e - 1)

def shortest (mantissa scale : Nat) : Decimal :=
  let i := interval mantissa scale
  let lead := decimalExponent (mantissa * Nat.pow 2 scale) unit 700
    (((mantissa * Nat.pow 2 scale).log2 : Int) * 30103 / 100000 - 322)
  let (c, e) := shortestFrom i 18 lead
  let all := Nat.toDigits 10 c
  ⟨(all.reverse.dropWhile (· == '0')).reverse, all.length + e⟩

/-! ## Written forms -/

def zeros (n : Int) : List Char := List.replicate n.toNat '0'

def Decimal.positional (d : Decimal) : List Char :=
  if d.point ≤ 0 then '0' :: '.' :: zeros (-d.point) ++ d.digits
  else if (d.digits.length : Int) ≤ d.point then d.digits ++ zeros (d.point - d.digits.length)
  else d.digits.take d.point.toNat ++ '.' :: d.digits.drop d.point.toNat

def withPoint (cs : List Char) : List Char :=
  if '.' ∈ cs then cs else cs ++ ['.', '0']

def Decimal.scientific (d : Decimal) : List Char :=
  let e := d.point - 1
  let digits := Nat.toDigits 10 e.natAbs
  let fraction := match d.digits.drop 1 with
    | [] => []
    | rest => '.' :: rest
  d.digits.take 1 ++ fraction ++ 'e' :: (if e < 0 then '-' else '+') ::
    zeros (2 - digits.length) ++ digits

def Decimal.compact (d : Decimal) : List Char :=
  if -3 ≤ d.point ∧ d.point ≤ 16 then withPoint d.positional else d.scientific

def signed (negative : Bool) (cs : List Char) : String :=
  String.ofList (if negative then '-' :: cs else cs)

def written (form : Decimal → List Char) : Binary64 → String
  | finite negative m s => signed negative (if m = 0 then ['0', '.', '0'] else form (shortest m s))
  | infinite negative => if negative then "-inf" else "inf"
  | nan => "NaN"

def positional : Binary64 → String :=
  written fun d => withPoint d.positional

def compact : Binary64 → String :=
  written Decimal.compact

def fixed (places : Nat) : Binary64 → String
  | finite negative m s =>
      let n := roundHalfEven (m * Nat.pow 2 s * Nat.pow 10 places) unit
      let digits := Nat.toDigits 10 n
      let padded := zeros (places + 1 - digits.length) ++ digits
      let whole := padded.length - places
      signed negative (padded.take whole ++ '.' :: padded.drop whole)
  | infinite negative => if negative then "-inf" else "inf"
  | nan => "NaN"

end SourceContract.Binary64
