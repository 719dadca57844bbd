import AllowanceProxy.Money.Coin

/-! Amounts with the pool queries from which they were derived, in order. -/
namespace AllowanceProxy

/-- Where a query went and what it asked. -/
structure Source where
  contract : String
  query : String
  deriving DecidableEq

structure Sourced where
  coin : Coin
  sources : List Source
  deriving DecidableEq

abbrev Attribute := String × String

namespace Source

def decode : Decoder Source := fun v =>
  (Decoder.model v).andThen fun ms =>
    Source.mk <$> Decoder.required "contract_addr" Decoder.text ms
      <*> Decoder.required "query_msg" Decoder.text ms

def toJson (s : Source) : Json :=
  .obj [("contract_addr", .str s.contract), ("query_msg", .str s.query)]

def toAttribute (s : Source) : Attribute := ("query to contract " ++ s.contract, s.query)

end Source

namespace Sourced

def decode : Decoder Sourced := fun v =>
  (Decoder.model v).andThen fun ms =>
    Sourced.mk <$> Decoder.required "coin" Coin.decode ms
      <*> Decoder.optional "sources" (Decoder.listOf Source.decode) [] ms

def toJson (s : Sourced) : Json :=
  .obj [("coin", s.coin.toJson), ("sources", .arr (s.sources.map Source.toJson))]

def identityContract : String := "identity conversion"

/-- An amount that needed no query. -/
def identity (c : Coin) : Except Number.NumeralFault Sourced := do
  let n ← Number.numeral c.amount
  let side := n ++ " " ++ c.denom
  return ⟨c, [⟨identityContract, "converted " ++ side ++ " to " ++ side⟩]⟩

def append (a b : Sourced) : Sourced := { a with sources := a.sources ++ b.sources }

/-- A new amount derived from both. -/
def merge (a b : Sourced) (c : Coin) : Sourced := ⟨c, a.sources ++ b.sources⟩

def attributes (s : Sourced) : List Attribute := s.sources.map Source.toAttribute

@[simp] theorem attributes_merge (a b : Sourced) (c : Coin) :
    (a.merge b c).attributes = a.attributes ++ b.attributes := by simp [attributes, merge]

end AllowanceProxy.Sourced
