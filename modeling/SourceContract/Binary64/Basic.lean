/-!
# Double-precision numbers

A finite number is `mantissa * 2 ^ scale` in units of `2 ^ (-1074)`, the smallest
positive double.  Every operation computes the exact quotient of two natural
numbers and rounds it once, to the nearest double, a tie to the even mantissa.
-/

namespace SourceContract

inductive Binary64 where
  | finite (negative : Bool) (mantissa scale : Nat)
  | infinite (negative : Bool)
  | nan
deriving DecidableEq, Repr

namespace Binary64

/-! ## Rounding -/

def unit : Nat := Nat.pow 2 1074

def mantissaBound : Nat := Nat.pow 2 53

def maxScale : Nat := 2045

/-- `num / den` to the nearest natural number, a tie to the even one. -/
def roundHalfEven (num den : Nat) : Nat :=
  let q := num / den
  let r := num % den
  if 2 * r < den then q
  else if den < 2 * r then q + 1
  else if q % 2 = 0 then q else q + 1

/-- The scale at which a number of `n` units has a mantissa below the bound. -/
def scaleOf (n : Nat) : Nat := n.log2 - 52

def ofQuotient (negative : Bool) (num den : Nat) : Binary64 :=
  let scale := scaleOf (num * unit / den)
  let mantissa := roundHalfEven (num * unit) (den * Nat.pow 2 scale)
  let carried := mantissa = mantissaBound
  let mantissa := if carried then mantissaBound / 2 else mantissa
  let scale := if carried then scale + 1 else scale
  if maxScale < scale then .infinite negative else .finite negative mantissa scale

def zero : Binary64 := .finite false 0 0

def ofNat (n : Nat) : Binary64 := ofQuotient false n 1

def ofInt (i : Int) : Binary64 := ofQuotient (i < 0) i.natAbs 1

def ofDecimal (negative : Bool) (digits : Nat) (exponent : Int) : Binary64 :=
  if digits = 0 then .finite negative 0 0
  else if 400 < exponent then .infinite negative
  else if exponent < -(400 + (digits.log2 : Int)) then .finite negative 0 0
  else if 0 ≤ exponent then ofQuotient negative (digits * Nat.pow 10 exponent.toNat) 1
  else ofQuotient negative digits (Nat.pow 10 (-exponent).toNat)

/-! ## Signs and order -/

def isFinite : Binary64 → Bool
  | finite .. => true
  | _ => false

def neg : Binary64 → Binary64
  | finite negative m s => .finite (!negative) m s
  | infinite negative => .infinite (!negative)
  | nan => .nan

def units (negative : Bool) (mantissa scale : Nat) : Int :=
  let n : Int := mantissa * Nat.pow 2 scale
  if negative then -n else n

/-- Order of the values: both zeros are equal and nothing compares with a NaN. -/
def le : Binary64 → Binary64 → Bool
  | nan, _ => false
  | _, nan => false
  | infinite true, _ => true
  | _, infinite false => true
  | infinite false, _ => false
  | _, infinite true => false
  | finite n m s, finite n' m' s' => units n m s ≤ units n' m' s'

/-! ## Arithmetic -/

def mul : Binary64 → Binary64 → Binary64
  | finite n m s, finite n' m' s' =>
      ofQuotient (n != n') (m * Nat.pow 2 s * (m' * Nat.pow 2 s')) (unit * unit)
  | finite n m _, infinite n' => if m = 0 then .nan else .infinite (n != n')
  | infinite n, finite n' m _ => if m = 0 then .nan else .infinite (n != n')
  | infinite n, infinite n' => .infinite (n != n')
  | _, _ => .nan

def div : Binary64 → Binary64 → Binary64
  | finite n m s, finite n' m' s' =>
      if m' = 0 then (if m = 0 then .nan else .infinite (n != n'))
      else ofQuotient (n != n') (m * Nat.pow 2 s) (m' * Nat.pow 2 s')
  | finite n _ _, infinite n' => .finite (n != n') 0 0
  | infinite n, finite n' _ _ => .infinite (n != n')
  | _, _ => .nan

instance : Mul Binary64 := ⟨mul⟩

instance : Div Binary64 := ⟨div⟩

instance : LE Binary64 := ⟨fun a b => a.le b = true⟩

instance (a b : Binary64) : Decidable (a ≤ b) := inferInstanceAs (Decidable (a.le b = true))

end Binary64

end SourceContract
