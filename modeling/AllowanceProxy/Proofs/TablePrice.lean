import AllowanceProxy.Chain.PriceTable
import AllowanceProxy.Proofs.Pricing
import Mathlib.Algebra.Order.Floor.Semifield
import Mathlib.Data.Rat.Floor
import Mathlib.Tactic.FieldSimp
import Mathlib.Tactic.NormNum
import Mathlib.Tactic.Positivity
import Mathlib.Tactic.Ring

/-!
Prices from a table. Against a chain that answers from a table of prices an amount converts to
its worth, cut off to a whole number, whatever dialect the pool of the pair speaks and in whichever
order it lists the pair.
-/
namespace AllowanceProxy

open Asking Number

namespace Number

theorem Writable.of_le {m n : Nat} (h : Writable n) (hle : m ≤ n) : Writable m := by
  unfold Writable at *
  rw [Int.natAbs_natCast] at *
  exact Nat.lt_of_le_of_lt hle h

end Number

/-- Division toward zero cuts off a quotient that is not negative. -/
theorem tdiv_eq_floor {a b : Int} (h : 0 ≤ (a : ℚ) / b) : a.tdiv b = ⌊(a : ℚ) / b⌋₊ := by
  have hnat (m n : Nat) : (m : Int).tdiv n = ⌊(m : ℚ) / n⌋₊ := by
    rw [Nat.floor_div_eq_div, Int.ofNat_tdiv]
  rcases div_nonneg_iff.mp h with ⟨ha, hb⟩ | ⟨ha, hb⟩
  · lift a to Nat using by exact_mod_cast ha
    lift b to Nat using by exact_mod_cast hb
    simpa only [Int.cast_natCast] using hnat a b
  · obtain ⟨m, rfl⟩ := Int.exists_eq_neg_ofNat (show a ≤ 0 by exact_mod_cast ha)
    obtain ⟨n, rfl⟩ := Int.exists_eq_neg_ofNat (show b ≤ 0 by exact_mod_cast hb)
    rw [Int.neg_tdiv_neg, Int.cast_neg, Int.cast_neg, neg_div_neg_eq]
    simpa only [Int.cast_natCast] using hnat m n

namespace Price

/-- What one unit is worth. -/
def value (q : Price) : ℚ := q.numerator / q.denominator

theorem numerator_ne_zero {q : Price} (h : 0 < q.value) : q.numerator ≠ 0 := by
  intro hzero
  simp [value, hzero] at h

end Price

namespace PriceTable

variable {t : PriceTable} {p : Pool} {x y : String} {reversed : Bool} {n v : Nat} {answer : Json}

theorem exchange_eq {px py : Price} (offered : t.priceOf x = .ok px) (wanted : t.priceOf y = .ok py)
    (hx : 0 < px.value) (hy : 0 < py.value) :
    t.exchange n x y = .ok ⌊n * px.value / py.value⌋₊ := by
  have hnumerator := Price.numerator_ne_zero hy
  have hquotient : ((n * px.numerator * py.denominator : Int) : ℚ) /
      (px.denominator * py.numerator : Int) = n * px.value / py.value := by
    have hpx := px.denominator_ne_zero
    have hpy := py.denominator_ne_zero
    unfold Price.value
    push_cast
    field_simp
  have hfloor : (n * px.numerator * py.denominator).tdiv (px.denominator * py.numerator) =
      ⌊n * px.value / py.value⌋₊ := by
    rw [← hquotient]
    apply tdiv_eq_floor
    rw [hquotient]
    positivity
  simp [exchange, offered, wanted, hnumerator, hfloor, except_ok_bind, except_pure]

theorem amountText_natCast (writable : Writable n) : amountText n = .ok (.str (natText n)) := by
  unfold amountText
  rw [numeral_natCast writable]

theorem amountText_eq_ok (h : amountText v = .ok answer) :
    Writable v ∧ answer = .str (natText v) := by
  by_cases hwritable : Writable v
  · rw [amountText_natCast hwritable] at h
    exact ⟨hwritable, (Except.ok.inj h).symm⟩
  · unfold amountText numeral at h
    rw [if_neg hwritable] at h
    cases h

/-- What a simulation answers for an amount, of which the commission is a part. -/
def simulated (name : String) (v : Nat) : Json :=
  .obj [(name, .str (natText (v - v / 100))), ("spread_amount", .str "0"),
    ("commission_amount", .str (natText (v / 100)))]

theorem withCommission_natCast (name : String) (writable : Writable v) :
    withCommission name v = .ok (simulated name v) := by
  have hrest : amountText (v - v / 100) = .ok (.str (natText (v - v / 100))) := by
    have hcast : ((v - v / 100 : Nat) : Int) = v - v / 100 := by omega
    rw [← hcast]
    exact amountText_natCast (writable.of_le (Nat.sub_le v _))
  have hpart : amountText (v / 100) = .ok (.str (natText (v / 100))) :=
    amountText_natCast (writable.of_le (Nat.div_le_self v 100))
  simp [withCommission, simulated, hrest, hpart, except_ok_bind, except_pure]

/-- The amount and the commission are counted together again, even where the amount before the split
has too many digits to be written. -/
theorem amountOf_withCommission {name : String} (other : (name : LooseText) ≠ "commission_amount")
    (h : withCommission name v = .ok answer) :
    ∃ rest part, answer.amountOf name = .ok rest ∧
      answer.amountOf "commission_amount" = .ok part ∧ rest + part = v := by
  have hcast : ((v - v / 100 : Nat) : Int) = v - v / 100 := by omega
  obtain ⟨rest, hrest, h⟩ := except_bind_eq_ok.mp h
  obtain ⟨part, hpart, h⟩ := except_bind_eq_ok.mp h
  rw [← hcast] at hrest
  obtain ⟨hwritable, rfl⟩ := amountText_eq_ok hrest
  obtain ⟨hwritable', rfl⟩ := amountText_eq_ok (v := v / 100) hpart
  obtain rfl := Except.ok.inj h
  refine ⟨v - v / 100, v / 100, ?_, ?_, by omega⟩
  · exact Json.amountOf_natText hwritable (by simp [Json.lookup?])
  · exact Json.amountOf_natText hwritable' (by simp [Json.lookup?, other])

theorem amountOf_single (name : String) (writable : Writable v) :
    (Json.obj [(name, .str (natText v))]).amountOf name = .ok v :=
  Json.amountOf_natText writable (by simp [Json.lookup?])

section Table

variable (works : p.contract ∉ t.failing) (known : t.pool? p.contract = some p) (foreign : x ≠ y)
  (exchanged : t.exchange n x y = .ok v) (writable : Writable v)
include works known foreign exchanged writable

/-- What the table answers to the question for the worth of an amount is read as that worth. -/
theorem answerOf_question (order : p.reversed? x y = some reversed) (target : Bool) :
    ∃ answer, t.answerOf p.contract (p.question reversed target ⟨x, n⟩ y).wire = .ok answer ∧
      (p.question reversed target ⟨x, n⟩ y).interpret answer = .ok v := by
  have hworks : t.failing.contains p.contract = false := by simpa using works
  have hsides := Pool.sides_of_reversed? order
  have hother := Pool.other_of_reversed? order foreign
  unfold answerOf Pool.question Dialect.queryType
  simp only [hworks, known]
  cases p.dialect with
  | simulation =>
    -- The denomination asked for is the one that the pool trades against the one offered.
    have hsplit (name : String) : (t.exchange n x (p.other x) >>= withCommission name) =
        .ok (simulated name v) := by
      rw [hother, exchanged, except_ok_bind, withCommission_natCast name writable]
    cases target with
    | false =>
      obtain ⟨rest, part, hrest, hpart, hsum⟩ :=
        amountOf_withCommission (by simp) (withCommission_natCast "return_amount" writable)
      refine ⟨simulated "return_amount" v, hsplit "return_amount", ?_⟩
      simp [QueryType.reversedIf, PriceQuery.interpret, hrest, hpart, hsum, except_ok_bind,
        except_pure]
    | true =>
      obtain ⟨rest, part, hrest, hpart, hsum⟩ :=
        amountOf_withCommission (by simp) (withCommission_natCast "offer_amount" writable)
      refine ⟨simulated "offer_amount" v, hsplit "offer_amount", ?_⟩
      simp [QueryType.reversedIf, QueryType.reversed, PriceQuery.interpret, hrest, hpart, hsum,
        except_ok_bind, except_pure]
  | priceRatio =>
    cases reversed with
    | false =>
      obtain ⟨rfl, rfl⟩ := Prod.mk.inj hsides
      refine ⟨.obj [("token2_amount", .str (natText v))], ?_, amountOf_single _ writable⟩
      simp [QueryType.reversedIf, PriceRequest.wire, exchanged, amountText_natCast writable,
        except_ok_bind, except_pure]
    | true =>
      obtain ⟨rfl, rfl⟩ := Prod.mk.inj hsides
      refine ⟨.obj [("token1_amount", .str (natText v))], ?_, amountOf_single _ writable⟩
      simp [QueryType.reversedIf, QueryType.reversed, PriceRequest.wire, exchanged,
        amountText_natCast writable, except_ok_bind, except_pure]

theorem yields_throughPool {σ : Type} {ps : Registry}
    (first : List.find? (fun p => p.Trades x y) ps = some p) (readable : Writable n)
    (reference : String) (target : Bool) (s : σ) :
    ∃ source, Yields (Converter.throughPool ⟨ps, t.chain, reference⟩ x y n target) s
      ⟨⟨y, v⟩, [⟨p.contract, source⟩]⟩ s := by
  obtain ⟨reversed, horder, hfound⟩ := Registry.exists_find?_of_first first
  obtain ⟨answer, hanswer, hread⟩ :=
    answerOf_question works known foreign exchanged writable horder target
  have hquery : t.chain.query p.contract (p.question reversed target ⟨x, n⟩ y).wire s =
      (.ok answer, s) := Prod.ext hanswer rfl
  rw [Converter.throughPool_eq hfound]
  exact ⟨_, Chain.yields_price horder readable target hquery hread⟩

end Table

/-- Against the table a coin of another denomination than the reference converts to its worth in
the reference denomination, and an amount of that one to what it is worth of the coin's, both cut
off to whole numbers. The prices alone decide: not the dialect of the pool, nor the order in which
it lists the pair, nor the commission that a simulation splits off. -/
theorem convert_worth {σ : Type} {ps : Registry} {denom reference : String} {price unit : Price}
    (foreign : denom ≠ reference) (priced : t.priceOf denom = .ok price)
    (unitPriced : t.priceOf reference = .ok unit) (hprice : 0 < price.value)
    (hunit : 0 < unit.value)
    (first : List.find? (fun p => p.Trades denom reference) ps = some p)
    (works : p.contract ∉ t.failing) (known : t.pool? p.contract = some p) (n : Nat)
    (readable : Writable n) (s : σ) :
    (Writable ⌊n * price.value / unit.value⌋₊ →
      ∃ source, Yields (Converter.convert ⟨ps, t.chain, reference⟩ ⟨denom, n⟩ false) s
        ⟨⟨reference, ⌊n * price.value / unit.value⌋₊⟩, [⟨p.contract, source⟩]⟩ s) ∧
    (Writable ⌊n * unit.value / price.value⌋₊ →
      ∃ source, Yields (Converter.convert ⟨ps, t.chain, reference⟩ ⟨denom, n⟩ true) s
        ⟨⟨denom, ⌊n * unit.value / price.value⌋₊⟩, [⟨p.contract, source⟩]⟩ s) := by
  constructor
  · intro writable
    rw [Converter.convert_value foreign]
    exact yields_throughPool works known foreign (exchange_eq priced unitPriced hprice hunit)
      writable first readable reference false s
  · intro writable
    have hback : List.find? (fun p => p.Trades reference denom) ps = some p := by
      simpa only [Pool.trades_comm] using first
    rw [Converter.convert_target foreign]
    exact yields_throughPool works known foreign.symm
      (exchange_eq unitPriced priced hunit hprice) writable hback readable reference true s

end PriceTable

namespace Sample

/-- Two pools of one pair, in the two dialects and the two orders. -/
def simulating : Pool := ⟨"simulating", "uloop", "uusd", .simulation⟩

def rating : Pool := ⟨"rating", "uusd", "uloop", .priceRatio⟩

def loopPrice : Price := { numerator := 1, denominator := 3 }

def usdPrice : Price := { numerator := 2, denominator := 7 }

def table : PriceTable where
  pools := [simulating, rating]
  prices := [("uloop", loopPrice), ("uusd", usdPrice)]
  failing := []

end Sample

/-- Ten of the one denomination are worth eleven and two thirds of the other, and ten of the other
eight and four sevenths of the one. -/
theorem PriceTable.convert_worth_sample :
    (∃ source, Yields (Converter.convert ⟨[Sample.simulating], Sample.table.chain, "uusd"⟩
      ⟨"uloop", 10⟩ false) () ⟨⟨"uusd", 11⟩, [⟨"simulating", source⟩]⟩ ()) ∧
    ∃ source, Yields (Converter.convert ⟨[Sample.rating], Sample.table.chain, "uusd"⟩
      ⟨"uloop", 10⟩ true) () ⟨⟨"uloop", 8⟩, [⟨"rating", source⟩]⟩ () := by
  have hloop : Sample.loopPrice.value = 1 / 3 := by norm_num [Price.value, Sample.loopPrice]
  have husd : Sample.usdPrice.value = 2 / 7 := by norm_num [Price.value, Sample.usdPrice]
  have hforward : ⌊((10 : Nat) : ℚ) * Sample.loopPrice.value / Sample.usdPrice.value⌋₊ = 11 := by
    rw [hloop, husd, Nat.floor_eq_iff (by norm_num)]
    norm_num
  have hback : ⌊((10 : Nat) : ℚ) * Sample.usdPrice.value / Sample.loopPrice.value⌋₊ = 8 := by
    rw [hloop, husd, Nat.floor_eq_iff (by norm_num)]
    norm_num
  have hprice : 0 < Sample.loopPrice.value := by norm_num [hloop]
  have hunit : 0 < Sample.usdPrice.value := by norm_num [husd]
  constructor
  · have hfirst : List.find? (fun p => p.Trades "uloop" "uusd") [Sample.simulating] =
        some Sample.simulating := by decide
    obtain ⟨hvalue, -⟩ := convert_worth (t := Sample.table) (by decide) rfl rfl hprice hunit
      hfirst (by decide) (by decide) 10 (by decide +kernel) ()
    rw [hforward] at hvalue
    exact hvalue (by decide +kernel)
  · have hfirst : List.find? (fun p => p.Trades "uloop" "uusd") [Sample.rating] =
        some Sample.rating := by decide
    obtain ⟨-, htarget⟩ := convert_worth (t := Sample.table) (by decide) rfl rfl hprice hunit
      hfirst (by decide) (by decide) 10 (by decide +kernel) ()
    rw [hback] at htarget
    exact htarget (by decide +kernel)

end AllowanceProxy
