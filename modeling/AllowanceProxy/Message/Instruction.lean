import AllowanceProxy.Message.Payload

/-! Instructions of fungible token contracts, and which of them move the caller's own tokens. -/
namespace AllowanceProxy

inductive Instruction where
  | transfer
  | burn
  | send
  | increaseAllowance
  | decreaseAllowance
  | transferFrom
  | sendFrom
  | burnFrom
  | mint
  | updateMarketing
  | uploadLogo
  deriving DecidableEq

namespace Instruction

def all : List Instruction :=
  [.transfer, .burn, .send, .increaseAllowance, .decreaseAllowance, .transferFrom, .sendFrom,
    .burnFrom, .mint, .updateMarketing, .uploadLogo]

def name : Instruction → String
  | .transfer => "transfer"
  | .burn => "burn"
  | .send => "send"
  | .increaseAllowance => "increase_allowance"
  | .decreaseAllowance => "decrease_allowance"
  | .transferFrom => "transfer_from"
  | .sendFrom => "send_from"
  | .burnFrom => "burn_from"
  | .mint => "mint"
  | .updateMarketing => "update_marketing"
  | .uploadLogo => "upload_logo"

def ofName? (s : String) : Option Instruction := all.find? fun i => i.name = s

/-- The amount comes out of the caller's own balance. -/
def movesOwnFunds : Instruction → Bool
  | .transfer | .burn | .send | .increaseAllowance => true
  | _ => false

def requiredFields : Instruction → List String
  | .transfer => ["recipient", "amount"]
  | .burn => ["amount"]
  | .send => ["contract", "amount", "msg"]
  | .increaseAllowance => ["spender", "amount"]
  | .decreaseAllowance => ["spender", "amount"]
  | .transferFrom => ["owner", "recipient", "amount"]
  | .sendFrom => ["owner", "contract", "amount", "msg"]
  | .burnFrom => ["owner", "amount"]
  | .mint => ["recipient", "amount"]
  | .updateMarketing => []
  | .uploadLogo => []

def isDigits (s : String) : Bool := s ≠ "" && s.toList.all Char.isDigit

/-- A whole number, or a text of ASCII digits alone. -/
def amount? : Json → Except Error (Option Nat)
  | .int n => .ok (if 0 ≤ n then some n.toNat else none)
  | .str (.plain s) =>
    if isDigits s then
      match Number.readDigits s with
      | .ok n => .ok (some n)
      | .error f => .error (.numeral f)
    else .ok none
  | _ => .ok none

/-- The amount among the fields, if the instruction must have one. -/
def amountIn? (i : Instruction) (fields : Members) : Except Error (Option Nat) :=
  match Json.lookup? "amount" fields with
  | some v => if i.requiredFields.contains "amount" then amount? v else .ok none
  | none => .ok none

def hasRequired (i : Instruction) (fields : Members) : Bool :=
  i.requiredFields.all fun f => (Json.lookup? f fields).isSome

/-- Whether the fields are complete, with a well-formed amount where there must be one. -/
def accepts (i : Instruction) (fields : Members) : Except Error Bool :=
  if i.hasRequired fields then
    if i.requiredFields.contains "amount" then return (← i.amountIn? fields).isSome
    else return true
  else return false

/-- The token instruction that a payload is; none for any other payload. -/
def decode? [Json.Nesting] (p : Payload) : Except Error (Option (Instruction × Members)) := do
  match ← p.single? with
  | some (.plain name, .obj fields) =>
    match ofName? name with
    | some i => return if ← i.accepts fields then some (i, fields) else none
    | none => return none
  | _ => return none

end Instruction

end AllowanceProxy
