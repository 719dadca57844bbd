import AllowanceProxy.Error

/-!
The Gregorian calendar, extended to all years, and moments in seconds from the start of 1970 UTC.
Days are counted from the first of January of year one.
-/
namespace AllowanceProxy.Calendar

structure Date where
  year : Int
  month : Nat
  day : Nat
  deriving DecidableEq

def IsLeap (year : Int) : Prop := year % 4 = 0 ∧ (year % 100 ≠ 0 ∨ year % 400 = 0)

instance (year : Int) : Decidable (IsLeap year) := inferInstanceAs (Decidable (_ ∧ _))

/-- The first day of a year. -/
def yearStart (year : Int) : Int :=
  let y := year - 1
  365 * y + y / 4 - y / 100 + y / 400

/-- The year of a day: the mean length of a year gives it up to one. -/
def yearOf (day : Int) : Int :=
  let guess := day * 400 / 146097 + 1
  if day < yearStart guess then guess - 1
  else if yearStart (guess + 1) ≤ day then guess + 1
  else guess

def monthLengths (year : Int) : List Nat :=
  [31, if IsLeap year then 29 else 28, 31, 30, 31, 30, 31, 31, 30, 31, 30, 31]

/-- The month and the day in it, when `month` is the first of the months and `day` counts from
its start. -/
def splitMonths : List Nat → (month day : Nat) → Nat × Nat
  | [], month, day => (month, day)
  | n :: ns, month, day => if day < n then (month, day) else splitMonths ns (month + 1) (day - n)

def dateOf (day : Int) : Date :=
  let year := yearOf day
  let (month, rest) := splitMonths (monthLengths year) 1 (day - yearStart year).toNat
  ⟨year, month, rest + 1⟩

/-- The days of months together. -/
def totalDays : List Nat → Nat
  | [] => 0
  | n :: ns => n + totalDays ns

def dayOf (d : Date) : Int :=
  yearStart d.year + (totalDays ((monthLengths d.year).take (d.month - 1)) + (d.day - 1) : Nat)

def secondsPerDay : Int := 86400

/-- The first day of 1970. -/
def epochDay : Int := 719162

def dayOfSecond (t : Int) : Int := t / secondsPerDay + epochDay

def secondOfDay (day : Int) : Int := (day - epochDay) * secondsPerDay

def firstYear : Int := 1

def lastYear : Int := 9999

/-- Moments from here on do not fit a machine word. -/
def timeBound : Int := 0x8000000000000000

/-- Years from here on, counted from 1900, do not fit half a word. -/
def yearBound : Int := 0x80000000

/-- The date of a moment, if the year is one of those with a calendar. -/
def dateOfSecond (t : Int) : Except Error Date :=
  if t < -timeBound ∨ timeBound ≤ t then .error .timeTooLarge
  else
    let d := dateOf (dayOfSecond t)
    if d.year - 1900 < -yearBound ∨ yearBound ≤ d.year - 1900 then .error .yearTooLarge
    else if d.year < firstYear ∨ lastYear < d.year then
      .error (.yearOutOfRange (d.year.bmod 0x100000000))
    else .ok d

def padded (width n : Nat) : String :=
  let ds := Number.natDigits n
  String.ofList (List.replicate (width - ds.length) '0' ++ ds)

/-- Date and time of day; a year has no more digits than it needs. -/
def stamp (t : Int) : Except Error String := do
  let d ← dateOfSecond t
  let s := (t % secondsPerDay).toNat
  return Number.natText d.year.toNat ++ "-" ++ padded 2 d.month ++ "-" ++ padded 2 d.day ++ " " ++
    padded 2 (s / 3600) ++ ":" ++ padded 2 (s / 60 % 60) ++ ":" ++ padded 2 (s % 60) ++ " UTC"

end AllowanceProxy.Calendar
