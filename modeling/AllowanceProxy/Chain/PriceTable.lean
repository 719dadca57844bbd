import AllowanceProxy.Chain.Basic
import AllowanceProxy.Market.DefaultPools

/-!
A chain that answers price queries from a table: the value of each denomination in reference
units. A simulation splits its amount wanted a return and one percent of commission.
-/
namespace AllowanceProxy

/-- The value of one unit, as a quotient. -/
structure Price where
  numerator : Int
  denominator : Int
  denominator_ne_zero : denominator ≠ 0 := by decide
  deriving DecidableEq

namespace Price

def quotient (numerator denominator : Int) : Except Error Price :=
  if h : denominator = 0 then .error (.divisionByZero numerator)
  else .ok ⟨numerator, denominator, h⟩

/-- A whole number, of which truth is one. -/
def part? : Json → Option Int
  | .int n => some n
  | .bool b => some (if b then 1 else 0)
  | _ => none

def read (numerator denominator : Json) : Except Error Price :=
  match part? numerator, part? denominator with
  | some n, some d => quotient n d
  | _, _ => .error .notRational

end Price

structure PriceTable where
  pools : Registry
  prices : List (String × Price)
  failing : List String
  deriving DecidableEq

namespace PriceTable

def localPrices : List (String × Price) :=
  [(Denom.axlUsdc, { numerator := 1, denominator := 1 }),
    (Denom.testTokens, { numerator := 100, denominator := 1 }),
    (Denom.loop, { numerator := 1, denominator := 100 })]

/-- Of several pools with one address the last counts. -/
def pool? (t : PriceTable) (contract : String) : Option Pool :=
  t.pools.reverse.find? fun p => p.contract = contract

def priceOf (t : PriceTable) (denom : String) : Except Error Price :=
  match t.prices.find? fun p => p.1 = denom with
  | some p => .ok p.2
  | none => .error (.missingField denom)

/-- An amount of one denomination in another, cut off toward zero. -/
def exchange (t : PriceTable) (amount : Nat) (x y : String) : Except Error Int := do
  let offered ← t.priceOf x
  let value : Int := amount * offered.numerator
  let wanted ← t.priceOf y
  if wanted.numerator = 0 then throw (.divisionByZero (value * offered.denominator).sign)
  return (value * wanted.denominator).tdiv (offered.denominator * wanted.numerator)

def amountText (n : Int) : Except Error Json :=
  match Number.numeral n with
  | .ok s => .ok (.str s)
  | .error f => .error (.numeral f)

def withCommission (name : String) (value : Int) : Except Error Json := do
  let commission := value / 100
  let rest ← amountText (value - commission)
  let part ← amountText commission
  return .obj [(name, rest), ("spread_amount", .str "0"), ("commission_amount", part)]

def answerOf (t : PriceTable) (contract : String) (q : WireQuery) : Except Error Json := do
  let unknown : Error := .queryFailed ("contract " ++ contract ++ " not found")
  if t.failing.contains contract then throw unknown
  match t.pool? contract with
  | none => throw unknown
  | some p =>
    match q with
    | .simulation c =>
      withCommission "return_amount" (← t.exchange c.amount c.denom (p.other c.denom))
    | .reverseSimulation c =>
      withCommission "offer_amount" (← t.exchange c.amount c.denom (p.other c.denom))
    | .token1ForToken2 n =>
      return .obj [("token2_amount", ← amountText (← t.exchange n p.denom1 p.denom2))]
    | .token2ForToken1 n =>
      return .obj [("token1_amount", ← amountText (← t.exchange n p.denom2 p.denom1))]

def chain {σ : Type} (t : PriceTable) : Chain σ := ⟨fun contract q s => (t.answerOf contract q, s)⟩

end PriceTable

end AllowanceProxy
