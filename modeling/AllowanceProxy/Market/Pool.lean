import AllowanceProxy.Schema.Decoder

/-! Market pools and the registry that prices each pair of denominations by one pool. -/
namespace AllowanceProxy

/-- How a pool is asked for a price. -/
inductive Dialect where
  | simulation
  | priceRatio
  deriving DecidableEq

def Dialect.name : Dialect → String
  | .simulation => "simulation"
  | .priceRatio => "price_ratio"

structure Pool where
  contract : String
  denom1 : String
  denom2 : String
  dialect : Dialect
  deriving DecidableEq

namespace Pool

def decode : Decoder Pool := fun v =>
  (Decoder.model v).andThen fun ms =>
    Pool.mk <$> Decoder.required "contract_addr" Decoder.text ms
      <*> Decoder.required "denom1" Decoder.text ms
      <*> Decoder.required "denom2" Decoder.text ms
      <*> Decoder.required "query_format" (Decoder.named Dialect.name [.simulation, .priceRatio]) ms

def toJson (p : Pool) : Json :=
  .obj [("contract_addr", .str p.contract), ("denom1", .str p.denom1), ("denom2", .str p.denom2),
    ("query_format", .str p.dialect.name)]

def denoms (p : Pool) : String × String := (p.denom1, p.denom2)

/-- The denomination traded against `denom`. -/
def other (p : Pool) (denom : String) : String := if denom = p.denom1 then p.denom2 else p.denom1

/-- The pool's two denominations are the two given ones, as sets. -/
def Trades (p : Pool) (x y : String) : Prop :=
  (p.denom1 = x ∨ p.denom1 = y) ∧ (p.denom2 = x ∨ p.denom2 = y) ∧
    (x = p.denom1 ∨ x = p.denom2) ∧ (y = p.denom1 ∨ y = p.denom2)

instance (p : Pool) (x y : String) : Decidable (p.Trades x y) :=
  inferInstanceAs (Decidable (_ ∧ _))

/-- Whether the pool lists the pair the other way round, if it trades it at all. -/
def reversed? (p : Pool) (x y : String) : Option Bool :=
  if p.denom1 = x ∧ p.denom2 = y then some false
  else if p.denom2 = x ∧ p.denom1 = y then some true
  else none

theorem decode_toJson (p : Pool) : decode p.toJson = .ok p := by
  cases p with
  | mk contract denom1 denom2 dialect =>
    cases dialect <;>
      simp [decode, toJson, Decoder.model, Checked.andThen, Decoder.required, Json.lookup?,
        Decoder.text, Decoder.named, Dialect.name]

end Pool

abbrev Registry := List Pool

namespace Registry

/-- The first pool that trades the pair. -/
def find? : Registry → String → String → Option (Pool × Bool)
  | [], _, _ => none
  | p :: ps, x, y =>
    match p.reversed? x y with
    | some reversed => some (p, reversed)
    | none => find? ps x y

def has (ps : Registry) (x y : String) : Bool := ps.any fun p => p.Trades x y

def dump (ps : Registry) : Json := .arr (ps.map Pool.toJson)

end Registry

end AllowanceProxy
