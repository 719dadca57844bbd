import AllowanceProxy.Error
import AllowanceProxy.Json.Writer
import AllowanceProxy.Money.Coin

/-!
Price queries. Pools speak one of two dialects; which side of a pool is offered follows from one
decision, whatever the dialect.
-/
namespace AllowanceProxy

inductive QueryType where
  | simulation
  | reverseSimulation
  | token1ForToken2
  | token2ForToken1
  deriving DecidableEq

namespace QueryType

def all : List QueryType := [.simulation, .reverseSimulation, .token1ForToken2, .token2ForToken1]

def name : QueryType → String
  | .simulation => "simulation"
  | .reverseSimulation => "reverse_simulation"
  | .token1ForToken2 => "token1_for_token2_price"
  | .token2ForToken1 => "token2_for_token1_price"

def reversed : QueryType → QueryType
  | .simulation => .reverseSimulation
  | .reverseSimulation => .simulation
  | .token1ForToken2 => .token2ForToken1
  | .token2ForToken1 => .token1ForToken2

def reversedIf (t : QueryType) (reverse : Bool) : QueryType := if reverse then t.reversed else t

@[simp] theorem reversed_reversed (t : QueryType) : t.reversed.reversed = t := by
  cases t <;> rfl

end QueryType

/-- A query as a pool receives it. -/
inductive WireQuery where
  | simulation (offer : Coin)
  | reverseSimulation (ask : Coin)
  | token1ForToken2 (amount : Nat)
  | token2ForToken1 (amount : Nat)
  deriving DecidableEq

namespace WireQuery

/-- Amounts are texts, as they may have more digits than a number keeps exactly. -/
def asset (c : Coin) : Json :=
  .obj [("amount", .str (Number.natText c.amount)),
    ("info", .obj [("native_token", .obj [("denom", .str c.denom)])])]

def toJson : WireQuery → Json
  | .simulation c => .obj [("simulation", .obj [("offer_asset", asset c)])]
  | .reverseSimulation c => .obj [("reverse_simulation", .obj [("ask_asset", asset c)])]
  | .token1ForToken2 n =>
    .obj [("token1_for_token2_price", .obj [("token1_amount", .str (Number.natText n))])]
  | .token2ForToken1 n =>
    .obj [("token2_for_token1_price", .obj [("token2_amount", .str (Number.natText n))])]

def text (q : WireQuery) : String := q.toJson.compact

end WireQuery

/-- A price request before it takes a pool's wire shape. -/
structure PriceRequest where
  type : QueryType
  coin : Coin
  deriving DecidableEq

namespace PriceRequest

def decode : Decoder PriceRequest := fun v =>
  (Decoder.model v).andThen fun ms =>
    (fun t d n => PriceRequest.mk t ⟨d, n⟩)
      <$> Decoder.required "ty" (Decoder.named QueryType.name QueryType.all) ms
      <*> Decoder.required "denom" Decoder.text ms
      <*> Decoder.required "amount" Decoder.nat ms

def toJson (q : PriceRequest) : Json :=
  .obj [("ty", .str q.type.name), ("denom", .str q.coin.denom), ("amount", .int q.coin.amount)]

def wire (q : PriceRequest) (reverse : Bool) : WireQuery :=
  match q.type.reversedIf reverse with
  | .simulation => .simulation q.coin
  | .reverseSimulation => .reverseSimulation q.coin
  | .token1ForToken2 => .token1ForToken2 q.coin.amount
  | .token2ForToken1 => .token2ForToken1 q.coin.amount

/-- The wire shape, its type reversed if asked for; the amount must have a numeral. -/
def toWire (q : PriceRequest) (reverse : Bool) : Except Error WireQuery := do
  let _ ← Error.numeralOf q.coin.amount
  return q.wire reverse

end PriceRequest

/-- A query ready to send, and the denominations of what it offers and of its answer. -/
structure PriceQuery where
  type : QueryType
  wire : WireQuery
  offered : String
  response : String
  deriving DecidableEq

def PriceQuery.text (q : PriceQuery) : String := q.wire.text

/-- The sides of the pool are swapped if an odd number of the three is. -/
def swapsSides (amountIsTarget reverseMessageType reversedOrder : Bool) : Bool :=
  (amountIsTarget ^^ reverseMessageType) ^^ reversedOrder

namespace Pool

/-- The denominations offered and returned. -/
def sides (p : Pool) (flip : Bool) : String × String :=
  if flip then (p.denom2, p.denom1) else (p.denom1, p.denom2)

/-- A simulation turns round with the target, a price ratio with the sides. -/
def priceQuery (p : Pool) (amount : Nat) (flip target : Bool) : Except Error PriceQuery := do
  let (offered, response) := p.sides flip
  let (forward, reverse) := match p.dialect with
    | .simulation => (QueryType.simulation, target)
    | .priceRatio => (QueryType.token1ForToken2, flip)
  let q : PriceRequest := ⟨forward, ⟨offered, amount⟩⟩
  return ⟨forward.reversedIf reverse, ← q.toWire reverse, offered, response⟩

end Pool

end AllowanceProxy
