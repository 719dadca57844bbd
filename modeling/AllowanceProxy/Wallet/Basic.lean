import AllowanceProxy.Error
import AllowanceProxy.Money.SpendLimit
import AllowanceProxy.Rule.Basic

/-!
Wallets: accounts other than the owner's that may spend up to a limit in each period. Records of
an older kind have several limits or none; they are kept, but spend nothing.
-/
namespace AllowanceProxy

inductive PeriodUnit where
  | days
  | months
  deriving DecidableEq

def PeriodUnit.name : PeriodUnit → String
  | .days => "DAYS"
  | .months => "MONTHS"

structure Wallet where
  address : String
  nextReset : Int
  unit : PeriodUnit
  multiple : Nat
  limits : List SpendLimit
  isDefaultLimit : Bool
  rules : Option (List Rule)
  deriving DecidableEq

namespace Wallet

def maxMultiple : Nat := 65535

def decode : Decoder Wallet := fun v =>
  (Decoder.model v).andThen fun ms =>
    (fun address (reset : Nat) unit multiple limits isDefault rules =>
        Wallet.mk address reset unit multiple limits isDefault rules)
      <$> Decoder.required "address" Decoder.text ms
      <*> Decoder.required "current_period_reset" Decoder.nat ms
      <*> Decoder.required "period_type" (Decoder.named PeriodUnit.name [.days, .months]) ms
      <*> Decoder.required "period_multiple" (Decoder.natBetween 1 maxMultiple) ms
      <*> Decoder.required "spend_limits" (Decoder.listOf SpendLimit.decode) ms
      <*> Decoder.optional "is_default_stablecoin_limit" Decoder.bool false ms
      <*> Decoder.optional "authorizations"
        (Decoder.nullable (Decoder.listOf Rule.decode)) none ms

def rulesJson (rules : List Rule) : Json := .arr (rules.map Rule.toJson)

def toJson (w : Wallet) : Json :=
  .obj [("address", .str w.address), ("current_period_reset", .int w.nextReset),
    ("period_type", .str w.unit.name), ("period_multiple", .int w.multiple),
    ("spend_limits", .arr (w.limits.map SpendLimit.toJson)),
    ("is_default_stablecoin_limit", .bool w.isDefaultLimit),
    ("authorizations", (w.rules.map rulesJson).getD .null)]

/-- The one limit is in the reference denomination. -/
def IsValid (reference : String) (w : Wallet) : Prop :=
  w.isDefaultLimit = true ∧ w.limits.map SpendLimit.denom = [reference]

instance (reference : String) (w : Wallet) : Decidable (w.IsValid reference) :=
  inferInstanceAs (Decidable (_ ∧ _))

def checkValid (reference : String) (w : Wallet) : Except Error Unit :=
  if w.IsValid reference then .ok () else .error .severalLimits

def ownRules (w : Wallet) : List Rule := w.rules.getD []

/-- The limit that counts is the first one. -/
def limit (w : Wallet) : Except Error SpendLimit :=
  match w.limits with
  | [] => .error .noLimit
  | l :: _ => .ok l

end Wallet

end AllowanceProxy
