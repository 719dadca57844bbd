import AllowanceProxy.Json.Writer
import AllowanceProxy.Schema.Decoder

/-!
Authorization rules: who may send which message to which contract, with some of its fields pinned
to required values.
-/
namespace AllowanceProxy

structure Rule where
  actor : String
  contract : String
  messageName : String
  fields : Option (List (String × String))
  deriving DecidableEq

namespace Rule

def decode : Decoder Rule := fun v =>
  (Decoder.model v).andThen fun ms =>
    Rule.mk <$> Decoder.required "actor" Decoder.text ms
      <*> Decoder.required "contract" Decoder.text ms
      <*> Decoder.required "message_name" Decoder.text ms
      <*> Decoder.optional "fields"
        (Decoder.nullable (Decoder.listOf (Decoder.pair Decoder.text Decoder.text))) none ms

def pinsJson (pins : List (String × String)) : Json :=
  .arr (pins.map fun p => .arr [.str p.1, .str p.2])

def toJson (r : Rule) : Json :=
  .obj [("actor", .str r.actor), ("contract", .str r.contract),
    ("message_name", .str r.messageName), ("fields", (r.fields.map pinsJson).getD .null)]

def pins (r : Rule) : List (String × String) := r.fields.getD []

/-- Rules are told apart by actor, contract, message and the set of their pins. -/
def SameKey (a b : Rule) : Prop :=
  a.actor = b.actor ∧ a.contract = b.contract ∧ a.messageName = b.messageName ∧
    (∀ p ∈ a.pins, p ∈ b.pins) ∧ (∀ p ∈ b.pins, p ∈ a.pins)

instance (a b : Rule) : Decidable (a.SameKey b) := inferInstanceAs (Decidable (_ ∧ _))

/-- A text stands for itself, any other value for its compact form. -/
def fieldText : Json → LooseText
  | .str s => s
  | v => v.compact

def PinHolds (fields : Members) (p : String × String) : Prop :=
  (Json.lookup? p.1 fields).map fieldText = some p.2

instance (fields : Members) (p : String × String) : Decidable (PinHolds fields p) :=
  inferInstanceAs (Decidable (_ = _))

/-- Every pinned field has its required value; other fields do not matter. -/
def Covers (r : Rule) (actor contract : String) (messageName : LooseText) (fields : Members) :
    Prop :=
  (r.actor = actor ∧ r.contract = contract ∧ .plain r.messageName = messageName) ∧
    ∀ p ∈ r.pins, PinHolds fields p

instance (r : Rule) (actor contract : String) (messageName : LooseText) (fields : Members) :
    Decidable (r.Covers actor contract messageName fields) :=
  inferInstanceAs (Decidable (_ ∧ _))

theorem SameKey.refl (a : Rule) : a.SameKey a := ⟨rfl, rfl, rfl, fun _ h => h, fun _ h => h⟩

theorem SameKey.symm {a b : Rule} (h : a.SameKey b) : b.SameKey a :=
  ⟨h.1.symm, h.2.1.symm, h.2.2.1.symm, h.2.2.2.2, h.2.2.2.1⟩

theorem SameKey.trans {a b c : Rule} (h : a.SameKey b) (k : b.SameKey c) : a.SameKey c :=
  ⟨h.1.trans k.1, h.2.1.trans k.2.1, h.2.2.1.trans k.2.2.1,
    fun p hp => k.2.2.2.1 p (h.2.2.2.1 p hp), fun p hp => h.2.2.2.2 p (k.2.2.2.2 p hp)⟩

end Rule

end AllowanceProxy
