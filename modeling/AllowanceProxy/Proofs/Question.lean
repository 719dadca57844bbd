import AllowanceProxy.Proofs.Provenance
import Mathlib.Data.Sym.Sym2

/-!
Questions to the pools. A conversion asks the first pool of the pair, once, about the amount on the
side of the denomination that the amount is in, and takes the price from the field of the answer
that belongs to the question. The reference denomination is never asked about.
-/
namespace AllowanceProxy

open Asking Number

variable {σ : Type} {p : Pool} {x y : String} {reversed target : Bool} {n : Nat}

namespace Pool

/-- The pair that a pool trades, in no order. -/
def pair (p : Pool) : Sym2 String := s(p.denom1, p.denom2)

theorem trades_iff : p.Trades x y ↔ p.pair = s(x, y) := by
  rw [pair, Sym2.eq_iff]
  unfold Trades
  grind

/-- The message for the worth of an amount, or with a target for what is worth that amount. A
simulation names the denomination of the amount; a price ratio says by its place in the pool which
of both denominations it is. -/
def request (p : Pool) (target : Bool) (amount : Coin) : Json :=
  match p.dialect with
  | .simulation =>
    if target then .obj [("reverse_simulation", .obj [("ask_asset", WireQuery.asset amount)])]
    else .obj [("simulation", .obj [("offer_asset", WireQuery.asset amount)])]
  | .priceRatio =>
    let text := .str (natText amount.amount)
    if amount.denom = p.denom1 then
      .obj [("token1_for_token2_price", .obj [("token1_amount", text)])]
    else .obj [("token2_for_token1_price", .obj [("token2_amount", text)])]

/-- The price in the answer: with the commission, or the amount of the other denomination. -/
def reading (p : Pool) (target : Bool) (denom : String) (answer : Json) : Except Error Nat :=
  match p.dialect with
  | .simulation => do
    let part ← answer.amountOf (if target then "offer_amount" else "return_amount")
    return part + (← answer.amountOf "commission_amount")
  | .priceRatio => answer.amountOf (if denom = p.denom1 then "token2_amount" else "token1_amount")

/-- A pool lists a pair the other way round unless the first of the pair is its first. -/
theorem reversed_eq (order : p.reversed? x y = some reversed) (foreign : x ≠ y) :
    reversed = !decide (x = p.denom1) := by
  have hsides := sides_of_reversed? order
  cases reversed with
  | false =>
    obtain ⟨rfl, rfl⟩ := Prod.mk.inj hsides
    simp
  | true =>
    obtain ⟨rfl, rfl⟩ := Prod.mk.inj hsides
    simpa using foreign

section Question

variable (order : p.reversed? x y = some reversed) (foreign : x ≠ y)
include order foreign

theorem toJson_question (n : Nat) (target : Bool) :
    (p.question reversed target ⟨x, n⟩ y).wire.toJson = p.request target ⟨x, n⟩ := by
  obtain rfl := reversed_eq order foreign
  unfold question request Dialect.queryType
  cases p.dialect with
  | simulation => cases target <;> rfl
  | priceRatio =>
    by_cases hfirst : x = p.denom1
    · simp only [hfirst]
      rfl
    · simp only [hfirst]
      rfl

theorem interpret_question (n : Nat) (target : Bool) (answer : Json) :
    (p.question reversed target ⟨x, n⟩ y).interpret answer = p.reading target x answer := by
  obtain rfl := reversed_eq order foreign
  unfold question reading Dialect.queryType
  cases p.dialect with
  | simulation => cases target <;> rfl
  | priceRatio =>
    by_cases hfirst : x = p.denom1
    · simp only [hfirst]
      rfl
    · simp only [hfirst]
      rfl

end Question

end Pool

namespace Chain

variable {chain : Chain σ} {s t : σ} {out : Sourced}

/-- The one query moves the chain, whatever comes of it. -/
theorem ask_price (order : p.reversed? x y = some reversed) (writable : Writable n)
    (chain : Chain σ) (target : Bool) (s : σ) :
    let q := p.question reversed target ⟨x, n⟩ y
    let reply := chain.query p.contract q.wire s
    (chain.price p n reversed target target).ask s =
      (match reply.1.bind q.interpret with
        | .error err => .error (q.fault p.contract err)
        | .ok v => .ok ⟨⟨y, v⟩, [⟨p.contract, q.text⟩]⟩, reply.2) := by
  intro q reply
  rw [price, ask_mk, swapsSides_self, Pool.priceQuery_eq order writable]
  change (match reply.1.bind q.interpret with
    | .error err => (Except.error (q.fault p.contract err), reply.2)
    | .ok v => (.ok (⟨⟨y, v⟩, [⟨p.contract, q.text⟩]⟩ : Sourced), reply.2)) = _
  cases reply.1.bind q.interpret <;> rfl

theorem yields_price_iff (order : p.reversed? x y = some reversed) (writable : Writable n)
    (foreign : x ≠ y) :
    Yields (chain.price p n reversed target target) s out t ↔
      ∃ answer v, chain.query p.contract (p.question reversed target ⟨x, n⟩ y).wire s =
          (.ok answer, t) ∧
        p.reading target x answer = .ok v ∧
        out = ⟨⟨y, v⟩, [⟨p.contract, (p.request target ⟨x, n⟩).compact⟩]⟩ := by
  have htext : (p.question reversed target ⟨x, n⟩ y).text = (p.request target ⟨x, n⟩).compact :=
    congrArg Json.compact (Pool.toJson_question order foreign n target)
  have hreading := Pool.interpret_question order foreign n target
  rw [Yields, ask_price order writable, htext]
  rcases chain.query p.contract (p.question reversed target ⟨x, n⟩ y).wire s with
    ⟨err | answer, u⟩
  · simp [Except.bind]
  · simp only [Except.bind, hreading, Prod.mk.injEq, Except.ok.injEq]
    constructor
    · rintro ⟨hout, rfl⟩
      cases hreads : p.reading target x answer with
      | error err =>
        rw [hreads] at hout
        cases hout
      | ok v =>
        rw [hreads] at hout
        exact ⟨answer, v, ⟨rfl, rfl⟩, hreads, (Except.ok.inj hout).symm⟩
    · rintro ⟨_, v, ⟨rfl, rfl⟩, hreads, rfl⟩
      rw [hreads]
      exact ⟨rfl, rfl⟩

end Chain

namespace Registry

/-- The first pool of a pair is found, whichever of the pair is named first. -/
theorem find?_of_pair {ps : Registry} (first : List.find? (fun p => p.pair = s(x, y)) ps = some p) :
    ∃ reversed, p.reversed? x y = some reversed ∧ ps.find? x y = some (p, reversed) := by
  have htrades : List.find? (fun p => p.Trades x y) ps = some p := by
    simpa only [Pool.trades_iff] using first
  exact exists_find?_of_first htrades

end Registry

namespace Converter

variable {c : Converter σ} {coin : Coin}

/-- The amount to convert, in the denomination that it is in. -/
def given (c : Converter σ) (coin : Coin) (target : Bool) : Coin :=
  ⟨if target then c.reference else coin.denom, coin.amount⟩

/-- The denomination of the price. -/
def sought (c : Converter σ) (coin : Coin) (target : Bool) : String :=
  if target then coin.denom else c.reference

/-- The converter on a chain that notes every query. -/
def noting (c : Converter σ) : Converter (σ × List (String × WireQuery)) :=
  { c with chain := c.chain.logged fun _ contract q => some (contract, q) }

/-- The queries of a conversion, in order. -/
def queries (c : Converter σ) (coin : Coin) (target : Bool) (s : σ) : List (String × WireQuery) :=
  ((c.noting.convert coin target).ask (s, [])).2.2

theorem convert_foreign (foreign : coin.denom ≠ c.reference) (target : Bool) :
    c.convert coin target =
      c.throughPool (c.given coin target).denom (c.sought coin target) coin.amount target := by
  cases target with
  | false => exact convert_value foreign
  | true => exact convert_target foreign

theorem pair_given_sought (c : Converter σ) (coin : Coin) (target : Bool) :
    s((c.given coin target).denom, c.sought coin target) = s(coin.denom, c.reference) := by
  cases target with
  | false => rfl
  | true => exact Sym2.eq_swap

theorem given_ne_sought (foreign : coin.denom ≠ c.reference) (target : Bool) :
    (c.given coin target).denom ≠ c.sought coin target := by
  cases target with
  | false => exact foreign
  | true => exact foreign.symm

/-- The reference denomination is its own price; only the text of the source may fail. -/
theorem ask_convert_same (same : coin.denom = c.reference) (target : Bool) (s : σ) :
    (c.convert coin target).ask s =
      (match numeral coin.amount with
        | .error fault => .error (.numeral fault)
        | .ok text => .ok ⟨coin, [⟨Sourced.identityContract, "converted " ++ (text ++ " " ++
            coin.denom) ++ " to " ++ (text ++ " " ++ coin.denom)⟩]⟩, s) := by
  rw [convert, if_pos same, Sourced.identity]
  cases numeral coin.amount <;> rfl

theorem yields_convert_same (same : coin.denom = c.reference) {s t : σ} {out : Sourced}
    (h : Yields (c.convert coin target) s out t) : out.coin = coin ∧ t = s := by
  rw [Yields, ask_convert_same same] at h
  obtain ⟨hout, rfl⟩ := Prod.mk.inj h
  refine ⟨?_, rfl⟩
  cases hnumeral : numeral coin.amount with
  | error fault =>
    rw [hnumeral] at hout
    cases hout
  | ok text =>
    rw [hnumeral] at hout
    rw [← Except.ok.inj hout]

/-- In another denomination than the reference, an amount of at most the digits that can be written
is converted by one query, whatever comes of it: to the first pool of the pair, about the amount in
the denomination that it is in. The answer is read as the price in the other one of both, with the
query as its only source. An amount of the reference denomination stays and is never asked about. -/
theorem convert_asks (c : Converter σ) (coin : Coin) (target : Bool) :
    (∀ p, coin.denom ≠ c.reference → Writable coin.amount →
      List.find? (fun p => p.pair = s(coin.denom, c.reference)) c.registry = some p →
      ∃ q : WireQuery, q.toJson = p.request target (c.given coin target) ∧
        (∀ s, c.queries coin target s = [(p.contract, q)]) ∧
        ∀ s out t, Yields (c.convert coin target) s out t ↔
          ∃ answer v, c.chain.query p.contract q s = (.ok answer, t) ∧
            p.reading target (c.given coin target).denom answer = .ok v ∧
            out = ⟨⟨c.sought coin target, v⟩, [⟨p.contract, q.text⟩]⟩) ∧
    (coin.denom = c.reference →
      (∀ s, c.queries coin target s = []) ∧
      (∀ s out t, Yields (c.convert coin target) s out t → out.coin = coin ∧ t = s) ∧
      (Writable coin.amount → ∀ s, ∃ out, Yields (c.convert coin target) s out s)) := by
  refine ⟨fun p foreign writable first => ?_, fun same =>
    ⟨fun s => ?_, fun s out t h => yields_convert_same same h, fun writable s => ?_⟩⟩
  · have hne := given_ne_sought foreign target
    rw [← pair_given_sought c coin target] at first
    obtain ⟨reversed, horder, hfound⟩ := Registry.find?_of_pair first
    have hjson := Pool.toJson_question horder hne coin.amount target
    refine ⟨_, hjson, fun s => ?_, fun s out t => ?_⟩
    · have hconvert : c.noting.convert coin target = c.noting.throughPool
          (c.given coin target).denom (c.sought coin target) coin.amount target :=
        convert_foreign (c := c.noting) foreign target
      rw [queries, hconvert, throughPool_eq (c := c.noting) hfound,
        Chain.ask_price horder writable]
      rfl
    · rw [convert_foreign foreign, throughPool_eq hfound,
        Chain.yields_price_iff horder writable hne, WireQuery.text, hjson]
  · rw [queries, ask_convert_same (c := c.noting) same]
  · have hask := ask_convert_same same target s
    rw [numeral_natCast writable] at hask
    exact ⟨_, hask⟩

/-- The second of three pools trades the pair and lists the reference first: the worth of 5 tokens is
asked by the second place and answered by the first. -/
theorem convert_asks_second :
    let c : Converter Unit := ⟨[⟨"far", "uatom", "uusd", .simulation⟩,
      ⟨"pool", "uusd", "uloop", .priceRatio⟩, ⟨"later", "uloop", "uusd", .simulation⟩],
      Canned.chain [⟨"pool", none, .response (.obj [("token1_amount", .int 7)])⟩], "uusd"⟩
    ∃ q : WireQuery,
      q.toJson = .obj [("token2_for_token1_price", .obj [("token2_amount", .str "5")])] ∧
      c.queries ⟨"uloop", 5⟩ false () = [("pool", q)] ∧
      Yields (c.convert ⟨"uloop", 5⟩ false) () ⟨⟨"uusd", 7⟩, [⟨"pool", q.text⟩]⟩ () := by
  intro c
  obtain ⟨q, hq, hqueries, hyields⟩ := (convert_asks c ⟨"uloop", 5⟩ false).1
    ⟨"pool", "uusd", "uloop", .priceRatio⟩ (by decide) (by decide +kernel) (by decide +kernel)
  have htext : natText 5 = "5" := by decide +kernel
  refine ⟨q, ?_, hqueries (), (hyields () _ ()).mpr ?_⟩
  · simpa [Pool.request, given, c, htext] using hq
  · exact ⟨.obj [("token1_amount", .int 7)], 7, rfl, by decide +kernel, rfl⟩

end Converter

end AllowanceProxy
