import AllowanceProxy.Chain.Basic
import AllowanceProxy.Market.Answer
import AllowanceProxy.Money.Sourced

/-!
Conversion to the reference denomination and back, through the one pool of the pair. The
reference denomination converts to itself without a query.
-/
namespace AllowanceProxy

/-- Faults of a chain or of its answer that count as a failed price check. -/
def Error.isPricing (e : Error) : Bool :=
  match e, e.kind with
  | .queryFailed _, _ => true
  | _, .value | _, .shape | _, .field | _, .validation => true
  | _, _ => false

def PriceQuery.fault (q : PriceQuery) (contract : String) (e : Error) : Error :=
  if e.isPricing then .priceCheckFailed q.text contract e.message else e

namespace Chain

variable {σ : Type}

/-- One query to one pool. -/
def price (chain : Chain σ) (p : Pool) (amount : Nat)
    (reversedOrder amountIsTarget reverseMessageType : Bool) : Asking σ Sourced :=
  .mk fun s =>
    match p.priceQuery amount (swapsSides amountIsTarget reverseMessageType reversedOrder)
        amountIsTarget with
    | .error e => (.error e, s)
    | .ok q =>
      let (answer, s) := chain.query p.contract q.wire s
      match answer.bind q.interpret with
      | .error e => (.error (q.fault p.contract e), s)
      | .ok tally => (.ok ⟨⟨q.response, tally⟩, [⟨p.contract, q.text⟩]⟩, s)

end Chain

/-- Prices amounts against a reference denomination. -/
structure Converter (σ : Type) where
  registry : Registry
  chain : Chain σ
  reference : String

namespace Registry

def find (ps : Registry) (x y : String) : Except Error (Pool × Bool) :=
  match ps.find? x y with
  | some found => .ok found
  | none => .error (.poolNotFound x y ps)

end Registry

namespace Converter

variable {σ : Type}

/-- The price of an amount, through the pool of a pair of denominations. -/
def throughPool (c : Converter σ) (x y : String) (amount : Nat) (reverse : Bool) :
    Asking σ Sourced := do
  let (p, reversedOrder) ← Asking.lift (c.registry.find x y)
  c.chain.price p amount reversedOrder reverse reverse

/-- What a coin is worth in the reference denomination; or, with `target`, how much of the coin's
denomination is worth its amount of the reference denomination. -/
def convert (c : Converter σ) (coin : Coin) (target : Bool) : Asking σ Sourced :=
  if coin.denom = c.reference then
    .lift <| match Sourced.identity coin with
      | .ok s => .ok s
      | .error f => .error (.numeral f)
  else if target then c.throughPool c.reference coin.denom coin.amount true
  else c.throughPool coin.denom c.reference coin.amount false

def canConvert (c : Converter σ) (denom : String) : Bool :=
  denom = c.reference || c.registry.has denom c.reference

end Converter

end AllowanceProxy
