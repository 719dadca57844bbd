import AllowanceProxy.Schema.Decoder

/-! Recurring limits: what may be spent in each period and what is left of it in this one. -/
namespace AllowanceProxy

structure SpendLimit where
  denom : String
  amount : Nat
  remaining : Nat
  deriving DecidableEq

namespace SpendLimit

def WellFormed (l : SpendLimit) : Prop := l.remaining ≤ l.amount

instance (l : SpendLimit) : Decidable l.WellFormed := inferInstanceAs (Decidable (_ ≤ _))

/-- The rule over both amounts, checked once each field is valid by itself. -/
def check (l : SpendLimit) : Checked SpendLimit :=
  if l.WellFormed then .ok l else .fail (.remainingAboveAmount l.remaining l.amount)

def decode : Decoder SpendLimit := fun v =>
  (Decoder.model v).andThen fun ms =>
    (SpendLimit.mk <$> Decoder.required "denom" Decoder.text ms
      <*> Decoder.required "amount" Decoder.nat ms
      <*> Decoder.required "limit_remaining" Decoder.nat ms).andThen check

def toJson (l : SpendLimit) : Json :=
  .obj [("denom", .str l.denom), ("amount", .int l.amount),
    ("limit_remaining", .int l.remaining)]

/-- A new value for one field, not yet checked. -/
inductive Assignment where
  | denom (value : Json)
  | amount (value : Json)
  | remaining (value : Json)

def Assignment.apply (l : SpendLimit) : Assignment → Checked SpendLimit
  | .denom v => Checked.within (.field "denom") <|
      Checked.map (fun d => { l with denom := d }) (Decoder.text v)
  | .amount v => Checked.within (.field "amount") <|
      Checked.map (fun n => { l with amount := n }) (Decoder.nat v)
  | .remaining v => Checked.within (.field "limit_remaining") <|
      Checked.map (fun n => { l with remaining := n }) (Decoder.nat v)

/-- The field is checked before it is stored and the whole limit after, so that a limit which
fails the second check keeps the new value. -/
def assign (l : SpendLimit) (a : Assignment) : Checked Unit × SpendLimit :=
  match a.apply l with
  | .issues is => (.issues is, l)
  | .ok l' => (Checked.map (fun _ => ()) l'.check, l')

def setRemaining (l : SpendLimit) (n : Nat) : Checked Unit × SpendLimit :=
  let l' := { l with remaining := n }
  (Checked.map (fun _ => ()) l'.check, l')

theorem decode_toJson {l : SpendLimit} (h : l.WellFormed) : decode l.toJson = .ok l := by
  simp [decode, toJson, Decoder.model, Checked.andThen, Decoder.required, Json.lookup?,
    Decoder.text, Decoder.nat, Decoder.int, check, h]

end AllowanceProxy.SpendLimit
