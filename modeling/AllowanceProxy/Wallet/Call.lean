import AllowanceProxy.Wallet.Spend

/-! The calls on one wallet, and what each answers. -/
namespace AllowanceProxy.Wallet

variable {σ : Type}

inductive Call where
  | checkValid (reference : String)
  | limit
  | dueReset (now : Int)
  | resetAfter (now : Int)
  | rollOver (now : Int)
  | refill
  | replaceLimit (limit : SpendLimit)
  | assign (assignment : SpendLimit.Assignment)
  | quote (spend : Coin) (reset : Bool)
  | debitCoin (spend : Coin)
  | debitAmount (spend : Coin)
  | quoteAll (spends : List Coin) (reset : Bool)
  | debitAll (spends : List Coin)

inductive Answer where
  | done
  | limit (limit : SpendLimit)
  | flag (value : Bool)
  | time (seconds : Int)
  | priced (remaining : Nat) (price : Sourced)
  | sourced (total : Sourced)
  deriving DecidableEq

def assign (w : Wallet) (a : SpendLimit.Assignment) : Outcome Wallet Unit :=
  match w.limits with
  | [] => (.error .noLimit, w)
  | l :: ls =>
    let (checked, l) := l.assign a
    (Error.ofChecked checked, { w with limits := l :: ls })

def answering {α : Type} (f : α → Answer) (o : Outcome Wallet α) : Outcome Wallet Answer :=
  (o.1.map f, o.2)

/-- Only the calls that debit, refill or assign change the wallet. -/
def perform (c : Converter σ) (w : Wallet) : Call → StateM σ (Outcome Wallet Answer)
  | .checkValid reference => return ((w.checkValid reference).map fun _ => .done, w)
  | .limit => return (w.limit.map .limit, w)
  | .dueReset now => return (.ok (.flag (w.dueReset now)), w)
  | .resetAfter now => return ((w.resetAfter now).map .time, w)
  | .rollOver now => return answering (fun _ => .done) (w.rollOver now)
  | .refill => return answering (fun _ => .done) w.refill
  | .replaceLimit l => return (.ok .done, { w with limits := [l] })
  | .assign a => return answering (fun _ => .done) (w.assign a)
  | .quote spend reset => do
    return ((← (w.quote c spend reset).run).map fun p => .priced p.1 p.2, w)
  | .debitCoin spend => do return answering .sourced (← w.debitCoin c spend)
  | .debitAmount spend => return answering (fun _ => .done) (w.debitAmount spend)
  | .quoteAll spends reset => do return ((← (w.quoteAll c spends reset).run).map .sourced, w)
  | .debitAll spends => do return answering .sourced (← w.debitAll c spends)

end AllowanceProxy.Wallet
