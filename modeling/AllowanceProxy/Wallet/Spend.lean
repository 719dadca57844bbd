import AllowanceProxy.Market.Converter
import AllowanceProxy.Wallet.Period

/-!
Spending. Every coin is priced in the reference denomination and checked before anything is
debited; a list of coins is checked as a whole.
-/
namespace AllowanceProxy.Wallet

variable {σ : Type}

/-- What a spend may use: all of the limit right after a reset, else what is left of it. -/
def available (l : SpendLimit) (reset : Bool) : Nat := if reset then l.amount else l.remaining

/-- The price of one coin, and what would be left after it. -/
def quote (w : Wallet) (c : Converter σ) (spend : Coin) (reset : Bool) :
    Asking σ (Nat × Sourced) := do
  let priced ← c.convert spend false
  let l ← Asking.lift w.limit
  if available l reset < priced.coin.amount then
    throw (Error.aboveLimitOf priced.coin.amount priced.coin.denom)
  return (available l reset - priced.coin.amount, priced)

/-- Debits one coin. -/
def debitCoin (w : Wallet) (c : Converter σ) (spend : Coin) :
    StateM σ (Outcome Wallet Sourced) := do
  match ← (w.quote c spend false).run with
  | .error e => return (.error e, w)
  | .ok (left, priced) =>
    match w.setRemaining left with
    | (.error e, w) => return (.error e, w)
    | (.ok _, w) => return (.ok priced, w)

/-- Debits an amount that is already in the reference denomination. -/
def debitAmount (w : Wallet) (spend : Coin) : Outcome Wallet Unit :=
  match w.limit with
  | .error e => (.error e, w)
  | .ok l =>
    if l.remaining < spend.amount then (.error (Error.aboveLimitOf spend.amount spend.denom), w)
    else w.setRemaining (l.remaining - spend.amount)

/-- The total price of coins on top of a sum, as long as it stays available. -/
def tally (c : Converter σ) (denom : String) (available : Nat) : Sourced → List Coin →
    Asking σ Sourced
  | sum, [] => pure sum
  | sum, spend :: spends => do
    let priced ← c.convert spend false
    let total := sum.coin.amount + priced.coin.amount
    if available < total then
      throw (Error.aboveLimitOf priced.coin.amount priced.coin.denom)
    tally c denom available (sum.merge priced ⟨denom, total⟩) spends

def nothing (denom : String) : Sourced := ⟨⟨denom, 0⟩, []⟩

/-- The total price of coins, nothing being debited. -/
def quoteAll (w : Wallet) (c : Converter σ) (spends : List Coin) (reset : Bool) :
    Asking σ Sourced := do
  let l ← Asking.lift w.limit
  tally c l.denom (available l reset) (nothing l.denom) spends

/-- Debits the total price of coins, or nothing. -/
def debitAll (w : Wallet) (c : Converter σ) (spends : List Coin) :
    StateM σ (Outcome Wallet Sourced) := do
  match ← (w.quoteAll c spends false).run with
  | .error e => return (.error e, w)
  | .ok total =>
    match w.limit with
    | .error e => return (.error e, w)
    | .ok l =>
      match w.setRemaining (l.remaining - total.coin.amount) with
      | (.error e, w) => return (.error e, w)
      | (.ok _, w) => return (.ok total, w)

end AllowanceProxy.Wallet
