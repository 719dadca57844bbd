import AllowanceProxy.Proofs.Faults
import AllowanceProxy.Proofs.Question

/-!
Failed conversions. Either no pool trades the pair, or the one query is answered with something
that is no price: both are refusals, and the second one tells the query and the pool. The one
exception is an answer that gives an amount of infinite size.
-/
namespace AllowanceProxy

open Asking Number

variable {σ : Type}

namespace Json

variable {answer : Json} {name : String} {names : List String} {err : Error}

/-- The field holds a number of infinite size. -/
def InfiniteAt (answer : Json) (name : String) : Prop :=
  ∃ fields negative, answer = .obj fields ∧
    lookup? name fields = some (.float (.infinite negative))

theorem wholeNumber_eq_infiniteNumber_iff {v : Json} :
    v.wholeNumber = .error .infiniteNumber ↔ ∃ negative, v = .float (.infinite negative) := by
  constructor
  · intro h
    unfold wholeNumber at h
    split at h
    next => cases h
    next => cases h
    next x =>
      cases x with
      | nan => cases h
      | infinite negative => exact ⟨negative, rfl⟩
      | finite negative mantissa exponent => cases h
    next => split at h <;> cases h
    next => cases h
  · rintro ⟨negative, rfl⟩
    rfl

theorem fieldOf_ne_infiniteNumber : answer.fieldOf name ≠ .error .infiniteNumber := by
  intro h
  unfold fieldOf at h
  split at h
  · split at h <;> cases h
  all_goals cases h

theorem amountOf_eq_infiniteNumber_iff :
    answer.amountOf name = .error .infiniteNumber ↔ answer.InfiniteAt name := by
  constructor
  · intro h
    rcases except_bind_eq_error.mp h with h | ⟨v, hfield, h⟩
    · exact absurd h fieldOf_ne_infiniteNumber
    rcases except_bind_eq_error.mp h with h | ⟨n, -, h⟩
    · obtain ⟨negative, rfl⟩ := wholeNumber_eq_infiniteNumber_iff.mp h
      unfold fieldOf at hfield
      split at hfield
      next fields =>
        split at hfield
        next v hv =>
          obtain rfl := Except.ok.inj hfield
          exact ⟨fields, negative, rfl, hv⟩
        next => cases hfield
      all_goals cases hfield
    · split at h <;> cases h
  · rintro ⟨fields, negative, rfl, hv⟩
    simp [amountOf, fieldOf, hv, wholeNumber, Binary64.truncate?, bind, Except.bind]

/-- The sum of fields that are read in order, up to the first that is no amount. -/
def amountsOf (answer : Json) : List String → Except Error Nat
  | [] => .ok 0
  | name :: names => do
    let n ← answer.amountOf name
    return n + (← amountsOf answer names)

/-- What is wrong with the fields is what is wrong with the first one that is no amount. -/
theorem amountsOf_eq_error_iff :
    answer.amountsOf names = .error err ↔ ∃ before name after, names = before ++ name :: after ∧
      (∀ x ∈ before, ∃ n, answer.amountOf x = .ok n) ∧ answer.amountOf name = .error err := by
  induction names with
  | nil => simp [amountsOf]
  | cons x names ih =>
    constructor
    · intro h
      rcases except_bind_eq_error.mp h with h | ⟨n, hn, h⟩
      · exact ⟨[], x, names, rfl, by simp, h⟩
      · rcases except_bind_eq_error.mp h with h | ⟨m, -, h⟩
        · obtain ⟨before, name, after, rfl, hbefore, hname⟩ := ih.mp h
          exact ⟨x :: before, name, after, rfl,
            List.forall_mem_cons.mpr ⟨⟨n, hn⟩, hbefore⟩, hname⟩
        · cases h
    · rintro ⟨before, name, after, hsplit, hbefore, hname⟩
      cases before with
      | nil =>
        obtain ⟨rfl, -⟩ := List.cons.inj hsplit
        exact except_bind_eq_error.mpr (.inl hname)
      | cons y before =>
        obtain ⟨rfl, hrest⟩ := List.cons.inj hsplit
        obtain ⟨⟨n, hn⟩, hbefore⟩ := List.forall_mem_cons.mp hbefore
        have hlater := ih.mpr ⟨before, name, after, hrest, hbefore, hname⟩
        exact except_bind_eq_error.mpr (.inr ⟨n, hn, except_bind_eq_error.mpr (.inl hlater)⟩)

/-- Of the fields, the first that is no amount holds a number of infinite size. -/
def Overflows (answer : Json) (names : List String) : Prop :=
  ∃ before name after, names = before ++ name :: after ∧
    (∀ x ∈ before, ∃ n, answer.amountOf x = .ok n) ∧ answer.InfiniteAt name

theorem amountsOf_eq_infiniteNumber_iff :
    answer.amountsOf names = .error .infiniteNumber ↔ answer.Overflows names := by
  simp only [amountsOf_eq_error_iff, amountOf_eq_infiniteNumber_iff, Overflows]

end Json

namespace Pool

variable {p : Pool} {target : Bool} {denom x y : String} {answer : Json} {err : Error}

/-- The fields of an answer that a price is read from, in order. -/
def priceFields (p : Pool) (target : Bool) (denom : String) : List String :=
  match p.dialect with
  | .simulation => [if target then "offer_amount" else "return_amount", "commission_amount"]
  | .priceRatio => [if denom = p.denom1 then "token2_amount" else "token1_amount"]

theorem reading_eq (p : Pool) (target : Bool) (denom : String) (answer : Json) :
    p.reading target denom answer = answer.amountsOf (p.priceFields target denom) := by
  unfold reading priceFields
  cases p.dialect with
  | simulation =>
    simp only [Json.amountsOf]
    cases answer.amountOf (if target then "offer_amount" else "return_amount") with
    | error err => rfl
    | ok n =>
      simp only [except_ok_bind]
      cases answer.amountOf "commission_amount" <;> rfl
  | priceRatio =>
    simp only [Json.amountsOf]
    cases answer.amountOf (if denom = p.denom1 then "token2_amount" else "token1_amount") <;> rfl

/-- An answer that is no price is a failed price check, unless its amount is infinite. -/
theorem fault_of_reading (h : p.reading target denom answer = .error err) :
    err.isPricing = true ∨ err = .infiniteNumber := by
  rw [reading_eq] at h
  obtain ⟨before, name, after, -, -, hname⟩ := Json.amountsOf_eq_error_iff.mp h
  exact Json.fault_of_amountOf hname

end Pool

/-- The chain fails with nothing but failed queries. -/
def Chain.OnlyFailsQueries (chain : Chain σ) : Prop :=
  ∀ contract q s err, (chain.query contract q s).1 = .error err → ∃ text, err = .queryFailed text

theorem Registry.find?_eq_none {ps : Registry} {x y : String}
    (none : ∀ p ∈ ps, p.pair ≠ s(x, y)) : ps.find? x y = .none := by
  have hfirst : List.find? (fun p => p.Trades x y) ps = .none := by
    simpa only [Pool.trades_iff, List.find?_eq_none, decide_eq_true_eq] using none
  rw [find?_eq, hfirst, Option.bind_none]

namespace Converter

variable {c : Converter σ} {coin : Coin} {target : Bool} {p : Pool} {s : σ}

/-- The first pool that trades the denomination of a coin against the reference. -/
def IsPool (c : Converter σ) (coin : Coin) (p : Pool) : Prop :=
  List.find? (fun p => p.pair = s(coin.denom, c.reference)) c.registry = some p

/-- What a conversion may come to. -/
inductive ComesTo (c : Converter σ) (coin : Coin) (target : Bool) (s : σ) :
    Except Error Sourced → Prop where
  | same {x : Sourced} (reference : coin.denom = c.reference) (itself : x.coin = coin) :
      ComesTo c coin target s (.ok x)
  | unknown (foreign : coin.denom ≠ c.reference)
      (none : ∀ p ∈ c.registry, p.pair ≠ s(coin.denom, c.reference))
      (silent : c.queries coin target s = []) :
      ComesTo c coin target s
        (.error (.poolNotFound (c.given coin target).denom (c.sought coin target) c.registry))
  | priced {p : Pool} {q : WireQuery} {answer : Json} {v : Nat}
      (foreign : coin.denom ≠ c.reference) (first : c.IsPool coin p)
      (asked : c.queries coin target s = [(p.contract, q)])
      (answers : (c.chain.query p.contract q s).1 = .ok answer)
      (reads : p.reading target (c.given coin target).denom answer = .ok v) :
      ComesTo c coin target s (.ok ⟨⟨c.sought coin target, v⟩, [⟨p.contract, q.text⟩]⟩)
  | failed {p : Pool} {q : WireQuery} {cause : Error}
      (foreign : coin.denom ≠ c.reference) (first : c.IsPool coin p)
      (asked : c.queries coin target s = [(p.contract, q)])
      (fails : (c.chain.query p.contract q s).1 = .error cause ∨
        ∃ answer, (c.chain.query p.contract q s).1 = .ok answer ∧
          p.reading target (c.given coin target).denom answer = .error cause) :
      ComesTo c coin target s (.error (.priceCheckFailed q.text p.contract cause.message))
  | overflowed {p : Pool} {q : WireQuery} {answer : Json}
      (foreign : coin.denom ≠ c.reference) (first : c.IsPool coin p)
      (asked : c.queries coin target s = [(p.contract, q)])
      (answers : (c.chain.query p.contract q s).1 = .ok answer)
      (overflows : answer.Overflows (p.priceFields target (c.given coin target).denom)) :
      ComesTo c coin target s (.error .infiniteNumber)

theorem noting_convert_foreign (foreign : coin.denom ≠ c.reference) (target : Bool) :
    c.noting.convert coin target = c.noting.throughPool (c.given coin target).denom
      (c.sought coin target) coin.amount target :=
  convert_foreign (c := c.noting) foreign target

theorem comesTo_same (reference : coin.denom = c.reference) (writable : Writable coin.amount) :
    c.ComesTo coin target s ((c.convert coin target).ask s).1 := by
  rw [ask_convert_same reference, numeral_natCast writable]
  exact .same reference rfl

theorem comesTo_unknown (foreign : coin.denom ≠ c.reference)
    (none : ∀ p ∈ c.registry, p.pair ≠ s(coin.denom, c.reference)) :
    c.ComesTo coin target s ((c.convert coin target).ask s).1 := by
  have hfind : c.registry.find? (c.given coin target).denom (c.sought coin target) = .none := by
    refine Registry.find?_eq_none ?_
    simpa only [pair_given_sought] using none
  rw [convert_foreign foreign, ask_throughPool_of_none hfind]
  refine .unknown foreign none ?_
  rw [queries, noting_convert_foreign foreign, ask_throughPool_of_none (c := c.noting) hfind]

/-- The answer to the one query is read, or its fault is reported. -/
theorem exists_query (writable : Writable coin.amount) (foreign : coin.denom ≠ c.reference)
    (first : c.IsPool coin p) (target : Bool) :
    ∃ q : WireQuery, (∀ s, c.queries coin target s = [(p.contract, q)]) ∧
      ∀ s, ((c.convert coin target).ask s).1 =
        match (c.chain.query p.contract q s).1.bind
          (p.reading target (c.given coin target).denom) with
        | .error err =>
          .error (if err.isPricing then .priceCheckFailed q.text p.contract err.message else err)
        | .ok v => .ok ⟨⟨c.sought coin target, v⟩, [⟨p.contract, q.text⟩]⟩ := by
  have hne := given_ne_sought foreign target
  unfold IsPool at first
  rw [← pair_given_sought c coin target] at first
  obtain ⟨reversed, horder, hfound⟩ := Registry.find?_of_pair first
  have hreading := funext (Pool.interpret_question horder hne coin.amount target)
  refine ⟨(p.question reversed target ⟨(c.given coin target).denom, coin.amount⟩
    (c.sought coin target)).wire, fun s => ?_, fun s => ?_⟩
  · rw [queries, noting_convert_foreign foreign, throughPool_eq (c := c.noting) hfound,
      Chain.ask_price horder writable]
    rfl
  · rw [convert_foreign foreign, throughPool_eq hfound, Chain.ask_price horder writable, hreading]
    rfl

theorem comesTo_asked (only : c.chain.OnlyFailsQueries) (writable : Writable coin.amount)
    (foreign : coin.denom ≠ c.reference) (first : c.IsPool coin p) :
    c.ComesTo coin target s ((c.convert coin target).ask s).1 := by
  obtain ⟨q, hasked, hask⟩ := exists_query writable foreign first target
  rw [hask]
  cases hreply : (c.chain.query p.contract q s).1 with
  | error cause =>
    obtain ⟨text, rfl⟩ := only _ _ _ _ hreply
    exact .failed foreign first (hasked s) (.inl hreply)
  | ok answer =>
    simp only [Except.bind]
    cases hreads : p.reading target (c.given coin target).denom answer with
    | ok v => exact .priced foreign first (hasked s) hreply hreads
    | error cause =>
      rcases Pool.fault_of_reading hreads with hpricing | rfl
      · simp only [if_pos hpricing]
        exact .failed foreign first (hasked s) (.inr ⟨answer, hreply, hreads⟩)
      · rw [Pool.reading_eq, Json.amountsOf_eq_infiniteNumber_iff] at hreads
        exact .overflowed foreign first (hasked s) hreply hreads

/-- The answer to the one query gives an amount of infinite size. -/
def Overflows (c : Converter σ) (coin : Coin) (target : Bool) (s : σ) : Prop :=
  ∃ p q answer, coin.denom ≠ c.reference ∧ c.IsPool coin p ∧
    c.queries coin target s = [(p.contract, q)] ∧
    (c.chain.query p.contract q s).1 = .ok answer ∧
    answer.Overflows (p.priceFields target (c.given coin target).denom)

theorem comesTo (only : c.chain.OnlyFailsQueries) (writable : Writable coin.amount)
    (target : Bool) (s : σ) : c.ComesTo coin target s ((c.convert coin target).ask s).1 := by
  by_cases reference : coin.denom = c.reference
  · exact comesTo_same reference writable
  by_cases none : ∀ p ∈ c.registry, p.pair ≠ s(coin.denom, c.reference)
  · exact comesTo_unknown reference none
  · have hsome : (List.find? (fun p => p.pair = s(coin.denom, c.reference))
        c.registry).isSome := by simpa [List.find?_isSome] using none
    obtain ⟨p, hp⟩ := Option.isSome_iff_exists.mp hsome
    exact comesTo_asked only writable reference hp

theorem convert_of_overflows (writable : Writable coin.amount) (h : c.Overflows coin target s) :
    ((c.convert coin target).ask s).1 = .error .infiniteNumber := by
  obtain ⟨p, q, answer, foreign, first, asked, answers, overflows⟩ := h
  obtain ⟨q', hasked, hask⟩ := exists_query writable foreign first target
  obtain rfl : q = q' := by simpa [asked] using hasked s
  have hreads : p.reading target (c.given coin target).denom answer = .error .infiniteNumber := by
    rw [Pool.reading_eq]
    exact Json.amountsOf_eq_infiniteNumber_iff.mpr overflows
  rw [hask, answers]
  simp only [Except.bind, hreads]
  rfl

/-- A conversion of an amount that can be written, against a chain that fails with nothing but
failed queries, comes to the coin itself or to a price; or no pool trades the pair; or the price
check fails, with the query and the pool to tell. The one other fault is that of an answer whose
amount is infinite, and every such answer has it. -/
theorem convert_comes_to (only : c.chain.OnlyFailsQueries) (writable : Writable coin.amount)
    (target : Bool) (s : σ) :
    c.ComesTo coin target s ((c.convert coin target).ask s).1 ∧
      (((c.convert coin target).ask s).1 = .error .infiniteNumber ↔
        c.Overflows coin target s) := by
  have hcomes := comesTo only writable target s
  refine ⟨hcomes, fun h => ?_, convert_of_overflows writable⟩
  rw [h] at hcomes
  cases hcomes with
  | @overflowed p q answer foreign first asked answers overflows =>
    exact ⟨p, q, answer, foreign, first, asked, answers, overflows⟩

end Converter

theorem Canned.onlyFailsQueries (all : List Canned) :
    (Canned.chain all : Chain σ).OnlyFailsQueries := by
  intro contract q s err h
  change answerOf all contract q = .error err at h
  unfold answerOf at h
  split at h
  · cases h
  · cases h
    exact ⟨_, rfl⟩
  · cases h
    exact ⟨_, rfl⟩

namespace Sample

/-- The local pools, with one answer for all prices between tokens and the reference. -/
def offering (amount : Binary64) : Converter Unit where
  registry := Registry.localPools
  chain := Canned.chain [⟨"local_ujuno_to_usdc_fake", none,
    .response (.obj [("token2_amount", .float amount)])⟩]
  reference := Denom.axlUsdc

def tokens : Coin := ⟨Denom.testTokens, 1000⟩

end Sample

namespace Converter

open Sample

/-- An amount that is not a number is a failed price check. -/
theorem convert_comes_to_nan :
    (offering .nan).chain.OnlyFailsQueries ∧ Writable tokens.amount ∧
      (((offering .nan).convert tokens false).ask ()).1 = .error (.priceCheckFailed
        (WireQuery.token1ForToken2 1000).text "local_ujuno_to_usdc_fake"
        "cannot convert float NaN to integer") ∧
      (offering .nan).ComesTo tokens false () (((offering .nan).convert tokens false).ask ()).1 ∧
      ¬ (offering .nan).Overflows tokens false () := by
  have honly : (offering .nan).chain.OnlyFailsQueries := Canned.onlyFailsQueries _
  have hwritable : Writable tokens.amount := by decide +kernel
  obtain ⟨hcomes, hoverflows⟩ := convert_comes_to honly hwritable false ()
  have hfailed : (((offering .nan).convert tokens false).ask ()).1 = .error (.priceCheckFailed
      (WireQuery.token1ForToken2 1000).text "local_ujuno_to_usdc_fake"
      "cannot convert float NaN to integer") := by decide +kernel
  refine ⟨honly, hwritable, hfailed, hcomes, fun h => ?_⟩
  rw [hfailed] at hoverflows
  cases hoverflows.mpr h

/-- An infinite amount is none. -/
theorem convert_infinite_escapes :
    (offering (.infinite false)).chain.OnlyFailsQueries ∧ Writable tokens.amount ∧
      (((offering (.infinite false)).convert tokens false).ask ()).1 =
        .error .infiniteNumber :=
  ⟨Canned.onlyFailsQueries _, by decide +kernel, by decide +kernel⟩

end Converter

end AllowanceProxy
