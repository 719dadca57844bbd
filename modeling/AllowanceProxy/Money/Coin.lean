import AllowanceProxy.Schema.Decoder

/-! Coins: an amount of one denomination, in base units. -/
namespace AllowanceProxy

structure Coin where
  denom : String
  amount : Nat
  deriving DecidableEq

namespace Coin

def decode : Decoder Coin := fun v =>
  (Decoder.model v).andThen fun ms =>
    Coin.mk <$> Decoder.required "denom" Decoder.text ms
      <*> Decoder.required "amount" Decoder.nat ms

def toJson (c : Coin) : Json := .obj [("denom", .str c.denom), ("amount", .int c.amount)]

/-- The amount with the denomination right after it. -/
def text (c : Coin) : Except Number.NumeralFault String := do
  return (← Number.numeral c.amount) ++ c.denom

theorem decode_toJson (c : Coin) : decode c.toJson = .ok c := by
  simp [decode, toJson, Decoder.model, Checked.andThen, Decoder.required, Json.lookup?,
    Decoder.text, Decoder.nat, Decoder.int]

end AllowanceProxy.Coin
