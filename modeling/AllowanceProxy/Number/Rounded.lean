import AllowanceProxy.Number.Shortest

/-!
Doubles rounded to a number of digits: to places after the point, or to digits from the first one
that counts. A half goes to the even neighbour.
-/
namespace AllowanceProxy.Binary64

open Number

/-- The digits before the point and the given number of digits after it. -/
def fixedDigits (mantissa : Nat) (exponent : Int) (places : Nat) : List Char × List Char :=
  let n := roundHalfEven (scale mantissa exponent * Nat.pow 10 places) (scale 1 (-exponent))
  let ds := natDigits n
  let all := zeros (places + 1 - ds.length) ++ ds
  (all.take (all.length - places), all.drop (all.length - places))

/-- The given number of digits from the first one that counts. -/
def leadingDigits (mantissa : Nat) (exponent : Int) (count : Nat) : Decimal :=
  if mantissa = 0 then ⟨zeros count, 0⟩
  else
    let num := scale mantissa exponent
    let den := scale 1 (-exponent)
    let lead := leadOf num den
    let power : Int := count - 1 - lead
    let ds := natDigits (roundHalfEven (num * Nat.pow 10 power.toNat)
      (den * Nat.pow 10 (-power).toNat))
    if count < ds.length then ⟨ds.take count, lead + 1⟩ else ⟨ds, lead⟩

/-- How a rounded number is laid out: with places after the point, with a power of ten, or by its
size and without zeros at the end. -/
inductive Layout where
  | fixed
  | scientific
  | general
  deriving DecidableEq

/-- A point before digits; before none it stands only if it is `kept`. -/
def pointed (kept : Bool) (digits : List Char) : List Char :=
  if digits = [] && !kept then [] else '.' :: digits

def Decimal.scientific (d : Decimal) (pointKept : Bool) : List Char :=
  d.digits.take 1 ++ pointed pointKept (d.digits.drop 1) ++ powerText d.lead

def Decimal.positional (d : Decimal) (pointKept : Bool) : List Char :=
  if d.lead < 0 then '0' :: pointed pointKept (zeros (-d.lead - 1).toNat ++ d.digits)
  else
    let whole := d.lead.toNat + 1
    d.digits.take whole ++ zeros (whole - d.digits.length) ++
      pointed pointKept (d.digits.drop whole)

/-- Zeros at the end are dropped, but one digit is left. -/
def Decimal.stripped (d : Decimal) : Decimal :=
  let ds := (d.digits.reverse.dropWhile (· = '0')).reverse
  if ds = [] then ⟨['0'], d.lead⟩ else ⟨ds, d.lead⟩

/-- The general layout is positional from 0.0001 up to as many digits as are kept. -/
def Decimal.general (d : Decimal) (count : Nat) (pointKept : Bool) : List Char :=
  let shown := if pointKept then d else d.stripped
  if -4 ≤ d.lead ∧ d.lead < count then shown.positional pointKept else shown.scientific pointKept

/-- A finite number without its sign; `alternate` keeps the point and the zeros at the end. -/
def Layout.text (layout : Layout) (alternate : Bool) (precision mantissa : Nat)
    (exponent : Int) : List Char :=
  match layout with
  | .fixed =>
    let (whole, fraction) := fixedDigits mantissa exponent precision
    whole ++ pointed alternate fraction
  | .scientific => (leadingDigits mantissa exponent (precision + 1)).scientific alternate
  | .general =>
    let count := max precision 1
    (leadingDigits mantissa exponent count).general count alternate

def writeRounded (layout : Layout) (alternate : Bool) (precision : Nat) (names : SpecialNames) :
    Binary64 → List Char
  | .nan => names.nan.toList
  | .infinite s => (if s then ['-'] else []) ++ names.infinity.toList
  | .finite s m e => (if s then ['-'] else []) ++ layout.text alternate precision m e

end AllowanceProxy.Binary64
