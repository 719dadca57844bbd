import AllowanceProxy.Market.Converter
import AllowanceProxy.Proofs.Asking
import AllowanceProxy.Proofs.Numeral

/-!
How a price is asked. The first pool of the pair is found in whichever order it lists the pair,
and it is asked about the amount on the side of the denomination that the amount is in.
-/
namespace AllowanceProxy

open Asking Number

variable {σ : Type} {p : Pool} {x y denom : String} {reversed : Bool} {n v : Nat}

namespace Pool

theorem trades_comm : p.Trades x y ↔ p.Trades y x := by
  unfold Trades
  grind

/-- A pool has an order for the pairs that it trades. -/
theorem isSome_reversed? : (p.reversed? x y).isSome ↔ p.Trades x y := by
  unfold reversed? Trades
  grind

theorem sides_of_reversed? (h : p.reversed? x y = some reversed) : p.sides reversed = (x, y) := by
  unfold reversed? at h
  split at h
  next hlisted =>
    obtain ⟨rfl, rfl⟩ := hlisted
    obtain rfl := Option.some.inj h
    rfl
  next =>
    split at h
    next hlisted =>
      obtain ⟨rfl, rfl⟩ := hlisted
      obtain rfl := Option.some.inj h
      rfl
    next => cases h

/-- The denomination against which one of a pair is traded is the other one. -/
theorem other_of_reversed? (h : p.reversed? x y = some reversed) (foreign : x ≠ y) :
    p.other x = y := by
  have hsides := sides_of_reversed? h
  cases reversed with
  | false =>
    obtain ⟨rfl, rfl⟩ := Prod.mk.inj hsides
    exact if_pos rfl
  | true =>
    obtain ⟨rfl, rfl⟩ := Prod.mk.inj hsides
    exact if_neg foreign

end Pool

namespace Registry

theorem find?_eq (ps : Registry) (x y : String) :
    ps.find? x y = (List.find? (fun p => p.Trades x y) ps).bind fun p =>
      (p.reversed? x y).map (Prod.mk p) := by
  induction ps with
  | nil => rfl
  | cons p ps ih =>
    have htrades : decide (p.Trades x y) = (p.reversed? x y).isSome := by
      simp [← Pool.isSome_reversed?]
    rw [find?, List.find?_cons, htrades]
    cases h : p.reversed? x y with
    | none => exact ih
    | some reversed => simp [h]

theorem exists_find?_of_first {ps : Registry}
    (first : List.find? (fun p => p.Trades x y) ps = some p) :
    ∃ reversed, p.reversed? x y = some reversed ∧ ps.find? x y = some (p, reversed) := by
  have htrades : p.Trades x y := by simpa using List.find?_some first
  obtain ⟨reversed, horder⟩ := Option.isSome_iff_exists.mp (Pool.isSome_reversed?.mpr htrades)
  refine ⟨reversed, horder, ?_⟩
  rw [find?_eq, first, Option.bind_some, horder, Option.map_some]

end Registry

/-- The query that asks a pool for a price: a simulation turns round with the target, a price
ratio with the order of the pair. -/
def Dialect.queryType (d : Dialect) (reversed target : Bool) : QueryType :=
  match d with
  | .simulation => QueryType.simulation.reversedIf target
  | .priceRatio => QueryType.token1ForToken2.reversedIf reversed

/-- The question for the worth of an amount of one denomination in another one. -/
def Pool.question (p : Pool) (reversed target : Bool) (amount : Coin) (y : String) : PriceQuery :=
  let type := p.dialect.queryType reversed target
  ⟨type, (PriceRequest.mk type amount).wire false, amount.denom, y⟩

theorem Pool.priceQuery_eq (order : p.reversed? x y = some reversed) (writable : Writable n)
    (target : Bool) :
    p.priceQuery n reversed target = .ok (p.question reversed target ⟨x, n⟩ y) := by
  have hnumeral := numeralOf_natCast writable
  unfold priceQuery question Dialect.queryType
  rw [sides_of_reversed? order]
  cases p.dialect with
  | simulation =>
    cases target <;> simp [PriceRequest.toWire, hnumeral, PriceRequest.wire,
      QueryType.reversedIf, QueryType.reversed, except_ok_bind, except_pure]
  | priceRatio =>
    cases reversed <;> simp [PriceRequest.toWire, hnumeral, PriceRequest.wire,
      QueryType.reversedIf, QueryType.reversed, except_ok_bind, except_pure]

/-- Whether the target is given or not, the sides follow the order of the pair alone. -/
theorem swapsSides_self (target reversed : Bool) : swapsSides target target reversed = reversed := by
  cases target <;> cases reversed <;> rfl

theorem Chain.yields_price {chain : Chain σ} {answer : Json} {s s' : σ}
    (order : p.reversed? x y = some reversed) (writable : Writable n) (target : Bool)
    (answers : chain.query p.contract (p.question reversed target ⟨x, n⟩ y).wire s =
      (.ok answer, s'))
    (reads : (p.question reversed target ⟨x, n⟩ y).interpret answer = .ok v) :
    Yields (chain.price p n reversed target target) s
      ⟨⟨y, v⟩, [⟨p.contract, (p.question reversed target ⟨x, n⟩ y).text⟩]⟩ s' := by
  have hquery := Pool.priceQuery_eq order writable target
  simp only [Yields, price, ask_mk, swapsSides_self, hquery, answers, Except.bind, reads]
  rfl

namespace Converter

variable {c : Converter σ}

theorem convert_value (foreign : denom ≠ c.reference) :
    c.convert ⟨denom, n⟩ false = c.throughPool denom c.reference n false := by
  simp [convert, foreign]

theorem convert_target (foreign : denom ≠ c.reference) :
    c.convert ⟨denom, n⟩ true = c.throughPool c.reference denom n true := by
  simp [convert, foreign]

theorem throughPool_eq (found : c.registry.find? x y = some (p, reversed)) (target : Bool) :
    c.throughPool x y n target = c.chain.price p n reversed target target := by
  have hfind : c.registry.find x y = .ok (p, reversed) := by rw [Registry.find, found]
  rw [throughPool, hfind, lift_ok_bind]

/-- Without a pool nothing is asked. -/
theorem ask_throughPool_of_none (none : c.registry.find? x y = .none) (target : Bool) (s : σ) :
    (c.throughPool x y n target).ask s = (.error (.poolNotFound x y c.registry), s) := by
  have hfind : c.registry.find x y = .error (.poolNotFound x y c.registry) := by
    rw [Registry.find, none]
  rw [throughPool, hfind]
  rfl

end Converter

end AllowanceProxy
