/-!
Double-precision numbers as values: a sign, a mantissa and an exponent of two, rounded exactly
from decimals and quotients.
-/
namespace AllowanceProxy

/-- A finite number is the mantissa times two to the exponent. -/
inductive Binary64 where
  | nan
  | infinite (negative : Bool)
  | finite (negative : Bool) (mantissa : Nat) (exponent : Int)
  deriving DecidableEq

namespace Binary64

def precision : Nat := 53

def minExponent : Int := -1074

def maxExponent : Int := 971

def zero (negative : Bool) : Binary64 := .finite negative 0 minExponent

def scale (n : Nat) (exponent : Int) : Nat := n <<< exponent.toNat

/-- The nearest whole number to a quotient, a half going to the even neighbour. -/
def roundHalfEven (num den : Nat) : Nat :=
  let q := num / den
  let r := num % den
  if 2 * r < den then q
  else if 2 * r = den then q + q % 2
  else q + 1

/-- The exponent at which a positive quotient has a mantissa of full precision, or the least one. -/
def exponentOf (num den : Nat) : Int :=
  let e : Int := (num.log2 : Int) - den.log2 - precision
  let e := if scale den (e + precision) ≤ scale num (-(e + precision)) then e + 1 else e
  max e minExponent

/-- The double nearest to a quotient, a half going to the even mantissa. -/
def ofQuotient (negative : Bool) (num den : Nat) : Binary64 :=
  if num = 0 then zero negative
  else
    let e := exponentOf num den
    let m := roundHalfEven (scale num (-e)) (scale den e)
    let (m, e) := if m = scale 1 precision then (m / 2, e + 1) else (m, e)
    if maxExponent < e then .infinite negative else .finite negative m e

/-- The double nearest to `digits * 10 ^ exponent`; far outside the range no power is formed. -/
def ofDecimal (negative : Bool) (digits : Nat) (exponent : Int) : Binary64 :=
  let size : Int := (Nat.toDigits 10 digits).length
  if digits = 0 then zero negative
  else if 310 < exponent + size then .infinite negative
  else if exponent + size < -330 then zero negative
  else if 0 ≤ exponent then ofQuotient negative (digits * Nat.pow 10 exponent.toNat) 1
  else ofQuotient negative digits (Nat.pow 10 (-exponent).toNat)

def signed (negative : Bool) (n : Nat) : Int := if negative then -n else n

/-- The whole part, toward zero. -/
def truncate? : Binary64 → Option Int
  | .finite s m e => some (signed s (scale m e / scale 1 (-e)))
  | _ => none

/-- The value, where it is a whole number. -/
def whole? : Binary64 → Option Int
  | .finite s m e =>
    if scale m e % scale 1 (-e) = 0 then some (signed s (scale m e / scale 1 (-e))) else none
  | _ => none

end AllowanceProxy.Binary64
