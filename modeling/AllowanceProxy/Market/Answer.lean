import AllowanceProxy.Market.Query

/-! Reading a pool's answer: any JSON value may come back, and becomes one amount or a fault. -/
namespace AllowanceProxy

namespace Json

def kindName : Json → String
  | .null => "NoneType"
  | .bool _ => "bool"
  | .int _ => "int"
  | .float _ => "float"
  | .str _ => "str"
  | .arr _ => "list"
  | .obj _ => "dict"

def fieldOf (name : String) : Json → Except Error Json
  | .obj ms =>
    match lookup? name ms with
    | some v => .ok v
    | none => .error (.missingField name)
  | .arr _ => .error .fieldOfList
  | .str _ => .error .fieldOfText
  | v => .error (.noFields v.kindName)

/-- Fractions are cut off, texts are read as numerals, and truth counts as one. -/
def wholeNumber : Json → Except Error Int
  | .int n => .ok n
  | .bool b => .ok (if b then 1 else 0)
  | .float x =>
    match x, x.truncate? with
    | _, some n => .ok n
    | .nan, none => .error .notANumber
    | _, none => .error .infiniteNumber
  | .str s =>
    match Number.readNumeral s with
    | .ok n => .ok n
    | .error f => .error (.numeral f)
  | v => .error (.notNumeric v.kindName)

def amountOf (name : String) (answer : Json) : Except Error Nat := do
  let v ← fieldOf name answer
  let n ← wholeNumber v
  if n < 0 then throw (.negativeAmount name v.literal)
  return n.toNat

end Json

namespace PriceQuery

/-- The commission counts, so that an amount is never below the true cost. -/
def interpret (q : PriceQuery) (answer : Json) : Except Error Nat :=
  match q.type with
  | .simulation =>
    return (← answer.amountOf "return_amount") + (← answer.amountOf "commission_amount")
  | .reverseSimulation =>
    return (← answer.amountOf "offer_amount") + (← answer.amountOf "commission_amount")
  | .token1ForToken2 => answer.amountOf "token2_amount"
  | .token2ForToken1 => answer.amountOf "token1_amount"

end PriceQuery

end AllowanceProxy
