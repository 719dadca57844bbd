import AllowanceProxy.Account.Basic
import AllowanceProxy.Message.Movement
import AllowanceProxy.Rule.Book
import AllowanceProxy.Wallet.Spend

/-!
Execution of messages on behalf of a sender. The owner passes. Another sender passes with a
contract call that a rule covers, and otherwise only with a transfer of value within the limit of
its wallet. A list of messages is executed on a working copy, which is kept only if all pass.
-/
namespace AllowanceProxy

/-- What an account is run with. -/
structure Engine (σ : Type) where
  chain : Chain σ
  reference : String

variable [Json.Nesting] {σ : Type}

namespace Engine

def converter (e : Engine σ) (a : Account) : Converter σ := ⟨a.pools, e.chain, e.reference⟩

end Engine

/-- Who sends, when, and whether messages are forwarded at all. -/
structure Sending where
  sender : String
  now : Int
  simulate : Bool
  deriving DecidableEq

def Sending.forwarded (s : Sending) (ms : List Message) : List Message :=
  if s.simulate then [] else ms

namespace Account

/-- An account with the response built up so far. -/
structure Progress where
  account : Account
  response : Response

/-- Pays the whole fee debt in the denomination of `asset`. -/
def repayDebt (e : Engine σ) (p : Progress) (asset : Coin) : Asking σ (Progress × Message) := do
  let a := p.account
  if !(e.converter a).canConvert asset.denom then throw (Error.debtFirstOf a.feeDebt)
  let repayment ← (e.converter a).convert ⟨asset.denom, a.feeDebt⟩ true
  let response := (p.response.add "note" "repaying one-time fee debt").addSources repayment
  return (⟨{ a with feeDebt := 0 }, response⟩, .bankSend a.feeRepayAddress [repayment.coin])

/-- A native send repays the debt, if there is one and a coin to name the denomination. -/
def repayWith (e : Engine σ) (p : Progress) (c : Movement) :
    Asking σ (Progress × List Message) := do
  match c.kind, c.funds with
  | .bankSend, asset :: _ =>
    if p.account.feeDebt = 0 then return (p, [])
    else
      let (p, repayment) ← repayDebt e p asset
      return (p, [repayment])
  | _, _ => return (p, [])

def executeAsOwner (e : Engine σ) (s : Sending) (p : Progress) (m : Message) (c : Movement) :
    Asking σ Progress := do
  let (p, repayments) ← repayWith e p c
  let response := p.response.add "action" "execute_execute"
  return { p with response := response.forward (s.forwarded (m :: repayments)) }

/-- Whether a rule covers the message; attached funds always go through the limit. -/
def coveredByRule (a : Account) (sender : String) : Message → Except Error Bool
  | .wasmExecute contract msg [] => do
    let own := ((a.wallet? sender).map Wallet.ownRules).getD []
    return (← RuleBook.check a.rules sender contract (.text msg) own).rule?.isSome
  | _ => return false

/-- What cannot go through a limit is refused. -/
def checkPriceable (m : Message) (c : Movement) : Except Error Unit :=
  match m with
  | .chainOperation kind _ => .error (.unpriceableKind kind)
  | _ =>
    if !c.isPriceable then
      .error (if c.instruction.isNone then .noSuchAuthorization else .spendNotAuthorized)
    else if c.funds.all fun coin => coin.amount = 0 then .error .zeroSpend
    else .ok ()

/-- A due period starts anew before the spend. -/
def rollOverIfDue (w : Wallet) (now : Int) : Except Error Wallet :=
  if w.dueReset now then
    match w.rollOver now with
    | (.ok _, w) => .ok w
    | (.error e, _) => .error e
  else .ok w

/-- Debits coins from a wallet, whose period starts anew if it is due. -/
def debit (e : Engine σ) (a : Account) (w : Wallet) (now : Int) (coins : List Coin) :
    Asking σ (Wallet × Sourced) := do
  let w ← Asking.lift (rollOverIfDue w now)
  let (outcome, w) ← ExceptT.lift (w.debitAll (e.converter a) coins)
  match outcome with
  | .ok total => return (w, total)
  | .error err => throw err

/-- Sends value through the limit of the sender's wallet. -/
def executeSpend (e : Engine σ) (s : Sending) (p : Progress) (m : Message) (c : Movement) :
    Asking σ Progress := do
  match p.account.wallet? s.sender with
  | none => throw .walletUnknown
  | some w =>
    Asking.lift (w.checkValid e.reference)
    let (p, repayments) ← repayWith e p c
    let (w, reduction) ← debit e p.account w s.now c.funds
    let amount ← Asking.lift (Error.numeralOf reduction.coin.amount)
    let response := ((p.response.add "action" "execute_spend_limit").add
      "spend_limit_reduction" amount).addSources reduction
    return ⟨p.account.setWallet w, response.forward (s.forwarded (m :: repayments))⟩

def executeAsOther (e : Engine σ) (s : Sending) (p : Progress) (m : Message) (c : Movement) :
    Asking σ Progress := do
  if ← Asking.lift (p.account.coveredByRule s.sender m) then
    let response := p.response.add "action" "execute_authorized_action"
    return { p with response := response.forward (s.forwarded [m]) }
  else
    Asking.lift (checkPriceable m c)
    executeSpend e s p m c

def executeMessage (e : Engine σ) (s : Sending) (p : Progress) (m : Message) :
    Asking σ Progress := do
  let c ← Asking.lift (Movement.ofMessage m)
  if p.account.IsOwner s.sender then executeAsOwner e s p m c
  else executeAsOther e s p m c

def executeAll (e : Engine σ) (s : Sending) : Progress → List Message → Asking σ Progress
  | p, [] => pure p
  | p, m :: ms => do executeAll e s (← executeMessage e s p m) ms

/-- The account changes only if every message passes. -/
def execute (e : Engine σ) (a : Account) (s : Sending) (ms : List Message) :
    StateM σ (Outcome Account Response) := do
  match ← (executeAll e s ⟨a, .empty⟩ ms).run with
  | .ok p => return (.ok p.response, p.account)
  | .error err => return (.error err, a)

/-- Whether a sender could execute messages, and why not. -/
structure SpendVerdict where
  canSpend : Bool
  reason : String
  deriving DecidableEq

/-- A dry run: a refusal is a verdict, any other fault remains one. -/
def canSpend (e : Engine σ) (a : Account) (sender : String) (now : Int) (ms : List Message) :
    Asking σ SpendVerdict := .mk fun s =>
  match (a.execute e ⟨sender, now, true⟩ ms).run s with
  | ((.ok _, _), s) => (.ok ⟨true, ""⟩, s)
  | ((.error err, _), s) =>
    if err.isRefusal then (.ok ⟨false, err.message⟩, s) else (.error err, s)

end Account

end AllowanceProxy
