import AllowanceProxy.Json.Writer
import AllowanceProxy.Money.Coin

/-! Outbound messages. -/
namespace AllowanceProxy

inductive Message where
  | bankSend (toAddress : String) (amount : List Coin)
  | bankBurn (amount : List Coin)
  | wasmExecute (contract msg : String) (funds : List Coin)
  | chainOperation (kind : String) (payload : Members)

namespace Message

inductive Arm where
  | bankSend
  | bankBurn
  | wasmExecute
  | chainOperation
  deriving DecidableEq

def Arm.all : List Arm := [.bankSend, .bankBurn, .wasmExecute, .chainOperation]

def Arm.name : Arm → String
  | .bankSend => "bank_send"
  | .bankBurn => "bank_burn"
  | .wasmExecute => "wasm_execute"
  | .chainOperation => "chain_operation"

def coins : Decoder (List Coin) := Decoder.listOf Coin.decode

def Arm.fields (ms : Members) : Arm → Checked Message
  | .bankSend =>
    Message.bankSend <$> Decoder.required "to_address" Decoder.text ms
      <*> Decoder.required "amount" coins ms
  | .bankBurn => Message.bankBurn <$> Decoder.required "amount" coins ms
  | .wasmExecute =>
    Message.wasmExecute <$> Decoder.required "contract_addr" Decoder.text ms
      <*> Decoder.required "msg" Decoder.text ms
      <*> Decoder.optional "funds" coins [] ms
  | .chainOperation =>
    Message.chainOperation <$> Decoder.required "kind" Decoder.text ms
      <*> Decoder.optional "payload" Decoder.dict [] ms

/-- A message known to be of one arm. -/
def Arm.decode (a : Arm) : Decoder Message := fun v =>
  (Decoder.model v).andThen fun ms =>
    (fun _ m => m) <$> Decoder.constant "type" a.name ms <*> a.fields ms

/-- A message of any arm, told by its tag. -/
def decode : Decoder Message := fun v =>
  match v with
  | .obj ms =>
    match Json.lookup? "type" ms with
    | none => .fail .tagMissing
    | some (.str (.plain tag)) =>
      match Arm.all.find? fun a => a.name = tag with
      | some a => Checked.within (.field tag) (a.decode v)
      | none => .fail .tagUnknown
    | some _ => .fail .tagUnknown
  | _ => .fail .notAttributes

def coinsJson (cs : List Coin) : Json := .arr (cs.map Coin.toJson)

def arm : Message → Arm
  | .bankSend _ _ => .bankSend
  | .bankBurn _ => .bankBurn
  | .wasmExecute _ _ _ => .wasmExecute
  | .chainOperation _ _ => .chainOperation

def toJson (m : Message) : Json :=
  .obj <| ("type", .str m.arm.name) :: match m with
    | .bankSend address amount => [("to_address", .str address), ("amount", coinsJson amount)]
    | .bankBurn amount => [("amount", coinsJson amount)]
    | .wasmExecute contract msg funds =>
      [("contract_addr", .str contract), ("msg", .str msg), ("funds", coinsJson funds)]
    | .chainOperation kind payload => [("kind", .str kind), ("payload", .obj payload)]

/-- A contract call that carries a JSON object. -/
def ofPayload (contract : String) (payload : Members) (funds : List Coin) : Message :=
  .wasmExecute contract (Json.obj payload).compact funds

end Message

end AllowanceProxy
