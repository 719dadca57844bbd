import AllowanceProxy.Number.Digits
import AllowanceProxy.Text.Blank
import AllowanceProxy.Text.DecimalDigit
import AllowanceProxy.Text.Quoted

/-! Whole numbers read from free text. -/
namespace AllowanceProxy.Number

open Text

/-- Digits of any script with at most one low line between two of them, and what follows the last
one; none if a digit is due and does not come. -/
def digitRun? : (due : Bool) → List Char → Option (List Nat × List Char)
  | due, [] => if due then none else some ([], [])
  | due, c :: cs =>
    match decimalValue? c with
    | some d => (digitRun? false cs).map fun p => (d :: p.1, p.2)
    | none =>
      if due then none
      else if c = '_' then digitRun? true cs
      else some ([], c :: cs)

def ofDigits (ds : List Nat) : Nat := ds.foldl (fun n d => 10 * n + d) 0

/-- One optional sign in front: whether it is a minus, and the rest. -/
def splitSign : List Char → Bool × List Char
  | '-' :: cs => (true, cs)
  | '+' :: cs => (false, cs)
  | cs => (false, cs)

def applySign (negative : Bool) (n : Nat) : Int := if negative then -n else n

inductive NumeralFault where
  | malformed (literal : LooseText)
  | tooLong (digits : Nat)
  | unwritable
  deriving DecidableEq

/-- The first part of a quoted text that a message shows. -/
def shownLiteral : Nat := 200

def NumeralFault.message : NumeralFault → String
  | .malformed s =>
    "invalid literal for int() with base 10: " ++
      String.ofList ((quoted s).toList.take shownLiteral)
  | .tooLong n =>
    "Exceeds the limit (4300 digits) for integer string conversion: value has " ++ natText n ++
      " digits; use sys.set_int_max_str_digits() to increase the limit"
  | .unwritable =>
    "Exceeds the limit (4300 digits) for integer string conversion; " ++
      "use sys.set_int_max_str_digits() to increase the limit"

/-- A numeral in the digits of any script, blanks around it, a sign and low lines between digits. -/
def readNumeral (s : LooseText) : Except NumeralFault Int :=
  let (negative, body) := splitSign (trim s.shown)
  match digitRun? true body with
  | none => .error (.malformed s)
  | some (ds, rest) =>
    if maxDigits < ds.length then .error (.tooLong ds.length)
    else if rest = [] then .ok (applySign negative (ofDigits ds))
    else .error (.malformed s)

/-- The numeral of a number, unless it has too many digits. -/
def numeral (n : Int) : Except NumeralFault String :=
  if Writable n then .ok (intText n) else .error .unwritable

/-- Digits of the numeral alone, without sign, blank or low line. -/
def readDigits (s : String) : Except NumeralFault Nat :=
  let cs := s.toList
  if maxDigits < cs.length then .error (.tooLong cs.length)
  else .ok (Nat.ofDigitChars 10 cs 0)

inductive LenientFault where
  | malformed
  | tooLong
  deriving DecidableEq

/-- A zero alone, or digits that start with another one, after a minus or nothing. Of too many
digits nothing more is read. -/
def readPlain (cs : List Char) : Except LenientFault Int :=
  let (negative, body) := match cs with
    | '-' :: rest => (true, rest)
    | _ => (false, cs)
  let digits := body.takeWhile Char.isDigit
  if body = ['0'] then .ok 0
  else if digits = [] ∨ digits.head? = some '0' then .error .malformed
  else if maxDigits < digits.length then .error .tooLong
  else if digits.length = body.length then
    .ok (applySign negative (Nat.ofDigitChars 10 digits 0))
  else .error .malformed

/-- What counts after zeros, of which `last` is the last one: the number proper, or the last of
them if the number is zero. Low lines may stand among the zeros. -/
def afterZeros? (last : Char) : List Char → Option (List Char)
  | [] => some [last]
  | c :: cs =>
    if c = '0' ∨ c = '_' then afterZeros? c cs
    else if c.isDigit ∨ c = '-' then some (c :: cs)
    else if c = '.' then some (last :: c :: cs)
    else none

def withoutLeadingZeros? : List Char → Option (List Char)
  | [] => none
  | c :: cs =>
    if c = '0' then afterZeros? c cs
    else if c.isDigit ∨ c = '-' then some (c :: cs)
    else none

/-- A point and at least one zero after it, and nothing else, are dropped. -/
def withoutZeroFraction (cs : List Char) : List Char :=
  match cs.dropWhile (· ≠ '.') with
  | '.' :: '0' :: zeros => if zeros.all (· = '0') then cs.takeWhile (· ≠ '.') else cs
  | _ => cs

def hasDoubleLowLine : List Char → Bool
  | '_' :: '_' :: _ => true
  | _ :: cs => hasDoubleLowLine cs
  | [] => false

/-- Low lines are dropped if each of them stands between two other characters. -/
def withoutLowLines (cs : List Char) : List Char :=
  if cs.head? = some '_' ∨ cs.getLast? = some '_' ∨ hasDoubleLowLine cs then cs
  else cs.filter (· ≠ '_')

/-- A numeral as `readPlain` reads it, made from one with blanks around it, a plus, zeros in
front, a fraction of zeros or low lines. A minus may also follow the zeros in front. -/
def plainNumeral? (cs : List Char) : Option (List Char) :=
  let digits? (body : List Char) : Option (List Char) :=
    (withoutLeadingZeros? body).map fun ds => withoutLowLines (withoutZeroFraction ds)
  match trim cs with
  | '-' :: body => (digits? body).map ('-' :: ·)
  | '+' :: '-' :: _ => none
  | '+' :: body => digits? body
  | body => digits? body

/-- A numeral in ASCII digits, as it stands or in its plain form. Only as it stands can it be
said to be too long. -/
def readLenient (s : String) : Except LenientFault Int :=
  match readPlain s.toList with
  | .error .malformed =>
    match (plainNumeral? s.toList).map readPlain with
    | some (.ok n) => .ok n
    | _ => .error .malformed
  | result => result

end AllowanceProxy.Number
