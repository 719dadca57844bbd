import AllowanceProxy.Message.Basic
import AllowanceProxy.Message.Instruction

/-! What a message is and which coins it moves. -/
namespace AllowanceProxy

inductive MessageClass where
  | bankSend
  | bankBurn
  | executeWasm
  | unknown
  deriving DecidableEq

def MessageClass.name : MessageClass → String
  | .bankSend => "bank_send"
  | .bankBurn => "bank_burn"
  | .executeWasm => "execute_wasm"
  | .unknown => "unknown"

structure Movement where
  kind : MessageClass
  funds : List Coin
  instruction : Option Instruction
  contract : Option String
  fields : Members

namespace Movement

def messageName (c : Movement) : Option String := c.instruction.map Instruction.name

/-- The limit accounts for everything that is moved. -/
def isPriceable (c : Movement) : Bool :=
  match c.kind with
  | .bankSend | .bankBurn => true
  | .executeWasm => (c.instruction.map Instruction.movesOwnFunds).getD false
  | .unknown => false

/-- A token contract call moves its attached funds and, where the instruction does, tokens of the
contract. -/
def ofMessage [Json.Nesting] : Message → Except Error Movement
  | .bankSend _ amount => return ⟨.bankSend, amount, none, none, []⟩
  | .bankBurn amount => return ⟨.bankBurn, amount, none, none, []⟩
  | .wasmExecute contract msg funds => do
    match ← Instruction.decode? (.text msg) with
    | none => return ⟨.executeWasm, funds, none, some contract, []⟩
    | some (i, fields) =>
      let moved ← if i.movesOwnFunds then i.amountIn? fields else .ok none
      let tokens := moved.toList.map fun n => (⟨contract, n⟩ : Coin)
      return ⟨.executeWasm, funds ++ tokens, some i, some contract, fields⟩
  | .chainOperation _ _ => return ⟨.unknown, [], none, none, []⟩

end Movement

end AllowanceProxy
