import AllowanceProxy.Number.Digits
import AllowanceProxy.Number.Binary64

/-! The shortest decimal that reads back as a given double, and its text. -/
namespace AllowanceProxy.Binary64

open Number

/-- Digits and the power of ten of the first one: `d.ddd * 10 ^ lead`. -/
structure Decimal where
  digits : List Char
  lead : Int
  deriving DecidableEq

/-- The power of ten of the first digit of a positive quotient. -/
def leadOf (num den : Nat) : Int :=
  if den ≤ num then (natDigits (num / den)).length - 1
  else -((natDigits ((den - 1) / num)).length : Int)

/-- The decimals of `count` digits next to `value / den` that lie in the rounding interval,
nearest first: `low`, `high` are its ends, which belong to it when `closed`. -/
def candidate (value low high den : Nat) (closed : Bool) (lead : Int) (count : Nat) :
    Option Nat :=
  let power : Int := lead - count + 1
  let unit := den * Nat.pow 10 power.toNat
  let up := Nat.pow 10 (-power).toNat
  let d := value * up / unit
  let inside (d : Nat) : Bool :=
    let x := d * unit
    if closed then low * up ≤ x && x ≤ high * up else low * up < x && x < high * up
  let below := value * up - d * unit
  let above := (d + 1) * unit - value * up
  match inside d, inside (d + 1) with
  | true, true =>
    if below < above then some d
    else if above < below then some (d + 1)
    else some (d + d % 2)
  | true, false => some d
  | false, true => some (d + 1)
  | false, false => none

def firstCandidate (value low high den : Nat) (closed : Bool) (lead : Int) :
    List Nat → Nat × Nat
  | [] => (0, 1)
  | n :: ns =>
    match candidate value low high den closed lead n with
    | some d => (d, n)
    | none => firstCandidate value low high den closed lead ns

/-- The fewest digits that read back; of two such decimals the nearer, of two equally near the
even one. -/
def shortest (mantissa : Nat) (exponent : Int) : Decimal :=
  if mantissa = 0 then ⟨['0'], 0⟩
  else
    let e := exponent - 2
    let den := scale 1 (-e)
    let value := scale (4 * mantissa) e
    let step := if mantissa = scale 1 (precision - 1) && minExponent < exponent then 1 else 2
    let low := scale (4 * mantissa - step) e
    let high := scale (4 * mantissa + 2) e
    let lead := leadOf value den
    let (d, n) :=
      firstCandidate value low high den (mantissa % 2 = 0) lead (List.range' 1 17)
    let ds := natDigits d
    if n < ds.length then ⟨ds.take n, lead + 1⟩ else ⟨ds, lead⟩

def zeros (n : Nat) : List Char := List.replicate n '0'

def exponentDigits (n : Nat) : List Char := if n < 10 then '0' :: natDigits n else natDigits n

/-- A power of ten after its mark: a sign and at least two digits. -/
def powerText (power : Int) : List Char :=
  'e' :: if power < 0 then '-' :: exponentDigits (-power).toNat
    else '+' :: exponentDigits power.toNat

/-- Positional from 0.0001 up to sixteen digits before the point, and with an exponent of at
least two digits beyond. -/
def Decimal.text (d : Decimal) : List Char :=
  if -4 ≤ d.lead ∧ d.lead < 16 then
    if d.lead < 0 then '0' :: '.' :: zeros (-d.lead - 1).toNat ++ d.digits
    else
      let whole := d.lead.toNat + 1
      let front := d.digits.take whole
      let back := d.digits.drop whole
      front ++ zeros (whole - d.digits.length) ++ '.' :: (if back = [] then ['0'] else back)
  else
    let front := d.digits.take 1
    let back := d.digits.drop 1
    front ++ (if back = [] then [] else '.' :: back) ++ powerText d.lead

/-- The spellings of what is no finite number. -/
structure SpecialNames where
  nan : String
  infinity : String

def write (names : SpecialNames) : Binary64 → String
  | .nan => names.nan
  | .infinite s => (if s then "-" else "") ++ names.infinity
  | .finite s m e => (if s then "-" else "") ++ String.ofList (shortest m e).text

end AllowanceProxy.Binary64
