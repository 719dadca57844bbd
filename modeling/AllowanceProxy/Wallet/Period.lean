import AllowanceProxy.Calendar
import AllowanceProxy.Wallet.Basic

/-!
Periods. Days run on from the moment of the reset; months end with the first of a month, at
midnight UTC.
-/
namespace AllowanceProxy.Wallet

/-- A month and a number of months may not sum to more. -/
def maxMonth : Nat := 268

def lastDay : Int := Calendar.yearStart (Calendar.lastYear + 1) - 1

def dueReset (w : Wallet) (now : Int) : Bool := w.nextReset < now

/-- The next reset after a moment. -/
def resetAfter (w : Wallet) (now : Int) : Except Error Int := do
  let d ← Calendar.dateOfSecond now
  match w.unit with
  | .days =>
    if lastDay < Calendar.dayOfSecond now + w.multiple then throw .dayOutOfRange
    else return now + Calendar.secondsPerDay * w.multiple
  | .months =>
    if maxMonth < d.month + w.multiple then throw .monthOutOfRange
    else
      let months := d.month - 1 + w.multiple
      let first : Calendar.Date := ⟨d.year + (months / 12 : Nat), months % 12 + 1, 1⟩
      if Calendar.lastYear < first.year then throw .monthOutOfRange
      else return Calendar.secondOfDay (Calendar.dayOf first)

def setRemaining (w : Wallet) (n : Nat) : Outcome Wallet Unit :=
  match w.limits with
  | [] => (.error .noLimit, w)
  | l :: ls =>
    let (checked, l) := l.setRemaining n
    (Error.ofChecked checked, { w with limits := l :: ls })

def refill (w : Wallet) : Outcome Wallet Unit :=
  match w.limit with
  | .error e => (.error e, w)
  | .ok l => w.setRemaining l.amount

/-- A new period: the limit is full again, and the next reset lies past `now`. -/
def rollOver (w : Wallet) (now : Int) : Outcome Wallet Unit :=
  match w.resetAfter now with
  | .error e => (.error e, w)
  | .ok t =>
    match w.refill with
    | (.error e, w) => (.error e, w)
    | (.ok _, w) => (.ok (), { w with nextReset := t })

end AllowanceProxy.Wallet
