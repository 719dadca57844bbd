import AllowanceProxy.Market.DefaultPools
import AllowanceProxy.Message.Basic
import AllowanceProxy.Money.Sourced
import AllowanceProxy.Wallet.Basic

/-!
The account behind a proxy: its owner and a possible successor, the wallets that may spend from
it, the rules and pools in force, and the fees it owes.
-/
namespace AllowanceProxy

/-- A member of the group that signs as the owner. -/
structure Signer where
  address : String
  type : String
  deriving DecidableEq

namespace Signer

def decode : Decoder Signer := fun v =>
  (Decoder.model v).andThen fun ms =>
    Signer.mk <$> Decoder.required "address" Decoder.text ms
      <*> Decoder.required "ty" Decoder.text ms

def toJson (s : Signer) : Json := .obj [("address", .str s.address), ("ty", .str s.type)]

end Signer

structure Account where
  owner : String
  pendingOwner : Option String
  pendingSince : Option Int
  updateDelay : Nat
  signers : List Signer
  wallets : List Wallet
  rules : List Rule
  pools : Registry
  feeDebt : Nat
  feeRepayAddress : String
  homeNetwork : String
  deriving DecidableEq

namespace Account

def decode : Decoder Account := fun v =>
  (Decoder.model v).andThen fun ms =>
    Account.mk <$> Decoder.required "owner" Decoder.text ms
      <*> Decoder.optional "pending_owner" (Decoder.nullable Decoder.text) none ms
      <*> Decoder.optional "pending_since" (Decoder.nullable Decoder.int) none ms
      <*> Decoder.optional "update_delay_seconds" Decoder.nat 0 ms
      <*> Decoder.optional "signers" (Decoder.listOf Signer.decode) [] ms
      <*> Decoder.optional "permissioned_addresses" (Decoder.listOf Wallet.decode) [] ms
      <*> Decoder.optional "authorizations" (Decoder.listOf Rule.decode) [] ms
      <*> Decoder.optional "pair_contracts" (Decoder.listOf Pool.decode) [] ms
      <*> Decoder.optional "fee_debt" Decoder.nat 0 ms
      <*> Decoder.required "fee_repay_address" Decoder.text ms
      <*> Decoder.required "home_network" Decoder.text ms

/-- The record without its pools. -/
def fieldsBeforePools (a : Account) : Members :=
  [("owner", .str a.owner), ("pending_owner", (a.pendingOwner.map Json.ofString).getD .null),
    ("pending_since", (a.pendingSince.map .int).getD .null),
    ("update_delay_seconds", .int a.updateDelay),
    ("signers", .arr (a.signers.map Signer.toJson)),
    ("permissioned_addresses", .arr (a.wallets.map Wallet.toJson)),
    ("authorizations", .arr (a.rules.map Rule.toJson))]

def fieldsAfterPools (a : Account) : Members :=
  [("fee_debt", .int a.feeDebt), ("fee_repay_address", .str a.feeRepayAddress),
    ("home_network", .str a.homeNetwork)]

def toJson (a : Account) : Json :=
  .obj (a.fieldsBeforePools ++ (.plain "pair_contracts", a.pools.dump) :: a.fieldsAfterPools)

def toJsonWithoutPools (a : Account) : Json := .obj (a.fieldsBeforePools ++ a.fieldsAfterPools)

def IsOwner (a : Account) (address : String) : Prop := a.owner = address

instance (a : Account) (address : String) : Decidable (a.IsOwner address) :=
  inferInstanceAs (Decidable (_ = _))

def IsPendingOwner (a : Account) (address : String) : Prop := a.pendingOwner = some address

instance (a : Account) (address : String) : Decidable (a.IsPendingOwner address) :=
  inferInstanceAs (Decidable (_ = _))

def wallet? (a : Account) (address : String) : Option Wallet :=
  a.wallets.find? fun w => w.address = address

/-- The first wallet of an address is replaced. -/
def replaceWallet (new : Wallet) : List Wallet → List Wallet
  | [] => []
  | w :: ws => if w.address = new.address then new :: ws else w :: replaceWallet new ws

def setWallet (a : Account) (w : Wallet) : Account :=
  { a with wallets := replaceWallet w a.wallets }

end Account

/-- Messages to forward, and attributes that describe every decision. -/
structure Response where
  messages : List Message
  attributes : List Attribute

namespace Response

def empty : Response := ⟨[], []⟩

def action (name : String) : Response := ⟨[], [("action", name)]⟩

def add (r : Response) (key value : String) : Response :=
  { r with attributes := r.attributes ++ [(key, value)] }

def addSources (r : Response) (s : Sourced) : Response :=
  { r with attributes := r.attributes ++ s.attributes }

def forward (r : Response) (ms : List Message) : Response :=
  { r with messages := r.messages ++ ms }

end Response

end AllowanceProxy
