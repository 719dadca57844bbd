import AllowanceProxy.Proofs.Forwarding
import AllowanceProxy.Proofs.Question
import AllowanceProxy.Proofs.Reachable
import AllowanceProxy.Proofs.Repayment
import AllowanceProxy.Proofs.TablePrice

/-!
Rounding. Prices are whole numbers, and a price of zero is a price like any other: a spend and a
repayment come to what the pools answer, and nothing is added to it. Against a table of prices they
come to nothing exactly if they are worth less than one unit of what they are counted in.
-/
namespace AllowanceProxy

open Asking Number

variable {σ : Type}

namespace PriceTable

variable {t : PriceTable} {p : Pool} {x y : String} {reversed target : Bool} {n v : Nat}
  {answer : Json}

/-- Every unit that has a price is worth something. -/
def Positive (t : PriceTable) : Prop :=
  ∀ denom price, t.priceOf denom = .ok price → 0 < price.value

/-- Where the table answers under the address of a registered pool, it answers for that pool. -/
def Serves (t : PriceTable) (ps : Registry) : Prop :=
  ∀ p ∈ ps, ∀ q, t.pool? p.contract = some q → q = p

/-- An amount of one denomination is worth less than one unit of another. -/
def BelowUnit (t : PriceTable) (n : Nat) (x y : String) : Prop :=
  (x = y ∧ n = 0) ∨ (x ≠ y ∧ ∃ price unit, t.priceOf x = .ok price ∧ t.priceOf y = .ok unit ∧
    n * price.value < unit.value)

/-- The worth of an amount, cut off to a whole number. -/
def Worth (t : PriceTable) (n : Nat) (x y : String) (v : Nat) : Prop :=
  ∃ price unit, t.priceOf x = .ok price ∧ t.priceOf y = .ok unit ∧ 0 < unit.value ∧
    v = ⌊n * price.value / unit.value⌋₊

theorem Worth.eq_zero_iff (h : t.Worth n x y v) (foreign : x ≠ y) :
    v = 0 ↔ t.BelowUnit n x y := by
  obtain ⟨price, unit, hprice, hunit, hpositive, rfl⟩ := h
  rw [Nat.floor_eq_zero, div_lt_one hpositive]
  constructor
  · exact fun hbelow => .inr ⟨foreign, price, unit, hprice, hunit, hbelow⟩
  · rintro (⟨rfl, -⟩ | ⟨-, price', unit', hprice', hunit', hbelow⟩)
    · exact absurd rfl foreign
    · obtain rfl := Except.ok.inj (hprice.symm.trans hprice')
      obtain rfl := Except.ok.inj (hunit.symm.trans hunit')
      exact hbelow

theorem worth_of_exchange (positive : t.Positive) {w : Int} (h : t.exchange n x y = .ok w) :
    ∃ v : Nat, w = v ∧ t.Worth n x y v := by
  have hexchange := h
  obtain ⟨price, hprice, h⟩ := except_bind_eq_ok.mp h
  obtain ⟨unit, hunit, -⟩ := except_bind_eq_ok.mp h
  have hp := positive x price hprice
  have hu := positive y unit hunit
  rw [exchange_eq hprice hunit hp hu] at hexchange
  exact ⟨_, (Except.ok.inj hexchange).symm, price, unit, hprice, hunit, hu, rfl⟩

theorem pool_of_answer {contract : String} {q : WireQuery}
    (answered : t.answerOf contract q = .ok answer) :
    t.failing.contains contract = false ∧ ∃ p, t.pool? contract = some p := by
  unfold answerOf at answered
  cases hworks : t.failing.contains contract with
  | true =>
    rw [hworks] at answered
    cases answered
  | false =>
    refine ⟨rfl, ?_⟩
    cases hknown : t.pool? contract with
    | none =>
      simp only [hworks, hknown] at answered
      cases answered
    | some p => exact ⟨p, rfl⟩

theorem worth_of_split {name : String} (positive : t.Positive)
    (other : (name : LooseText) ≠ "commission_amount")
    (answered : (t.exchange n x y >>= withCommission name) = .ok answer)
    (read : (do return (← answer.amountOf name) + (← answer.amountOf "commission_amount")) =
      (.ok v : Except Error Nat)) : t.Worth n x y v := by
  obtain ⟨w, hw, hsplit⟩ := except_bind_eq_ok.mp answered
  obtain ⟨m, rfl, hworth⟩ := worth_of_exchange positive hw
  obtain ⟨rest, part, hrest, hpart, rfl⟩ := amountOf_withCommission other hsplit
  obtain rfl : rest + part = v := by
    simpa [hrest, hpart, except_ok_bind, except_pure] using read
  exact hworth

theorem worth_of_single {name : String} (positive : t.Positive)
    (answered : (do return .obj [((name : LooseText), ← amountText (← t.exchange n x y))]) =
      (.ok answer : Except Error Json)) (read : answer.amountOf name = .ok v) :
    t.Worth n x y v := by
  obtain ⟨w, hw, htext⟩ := except_bind_eq_ok.mp answered
  obtain ⟨m, rfl, hworth⟩ := worth_of_exchange positive hw
  obtain ⟨text, hwritten, hanswer⟩ := except_bind_eq_ok.mp htext
  obtain ⟨hwritable, rfl⟩ := amountText_eq_ok hwritten
  obtain rfl := Except.ok.inj hanswer
  obtain rfl := Except.ok.inj ((amountOf_single name hwritable).symm.trans read)
  exact hworth

/-- What the table answers to the question for the worth of an amount is read as its worth. -/
theorem worth_of_answer (positive : t.Positive) (known : t.pool? p.contract = some p)
    (order : p.reversed? x y = some reversed) (foreign : x ≠ y)
    (answered : t.answerOf p.contract (p.question reversed target ⟨x, n⟩ y).wire = .ok answer)
    (read : (p.question reversed target ⟨x, n⟩ y).interpret answer = .ok v) :
    t.Worth n x y v := by
  obtain ⟨hworks, -⟩ := pool_of_answer answered
  have hsides := Pool.sides_of_reversed? order
  have hother := Pool.other_of_reversed? order foreign
  unfold Pool.question Dialect.queryType at answered read
  unfold answerOf at answered
  simp only [hworks, known] at answered
  cases hdialect : p.dialect with
  | simulation =>
    rw [hdialect] at answered read
    cases target with
    | false =>
      change (t.exchange n x (p.other x) >>= withCommission "return_amount") = _ at answered
      rw [hother] at answered
      exact worth_of_split positive (by simp) answered read
    | true =>
      change (t.exchange n x (p.other x) >>= withCommission "offer_amount") = _ at answered
      rw [hother] at answered
      exact worth_of_split positive (by simp) answered read
  | priceRatio =>
    rw [hdialect] at answered read
    cases reversed with
    | false =>
      obtain ⟨rfl, rfl⟩ := Prod.mk.inj hsides
      exact worth_of_single positive answered read
    | true =>
      obtain ⟨rfl, rfl⟩ := Prod.mk.inj hsides
      exact worth_of_single positive answered read

end PriceTable

theorem Chain.writable_of_price {chain : Chain σ} {p : Pool} {n : Nat} {reversed target : Bool}
    {s s' : σ} {out : Sourced} (h : Yields (chain.price p n reversed target target) s out s') :
    Writable n := by
  rw [Yields, price, ask_mk, swapsSides_self] at h
  split at h
  · cases h
  next q hq => exact Pool.writable_of_priceQuery hq

theorem Converter.denom_of_convert {c : Converter σ} {coin : Coin} {target : Bool} {s s' : σ}
    {out : Sourced} (h : Yields (c.convert coin target) s out s') :
    out.coin.denom = c.sought coin target := by
  by_cases hsame : coin.denom = c.reference
  · rw [(yields_convert_same hsame h).1]
    cases target with
    | false => exact hsame
    | true => rfl
  · rw [convert_foreign hsame] at h
    obtain ⟨p, reversed, hfound, -, -, -⟩ := throughPool_yields h
    obtain ⟨-, horder⟩ := Registry.of_find? hfound
    rw [throughPool_eq hfound] at h
    obtain ⟨answer, v, -, -, rfl⟩ := (Chain.yields_price_iff horder (Chain.writable_of_price h)
      (given_ne_sought hsame target)).mp h
    rfl

section Table

variable {c : Converter σ} {t : PriceTable} {coin : Coin} {coins : List Coin}
  {prices : List Sourced} {out : Sourced} {target : Bool} {s s' : σ}
  (table : c.chain = t.chain) (positive : t.Positive) (serves : t.Serves c.registry)
include table positive serves

/-- A conversion that succeeds comes to the worth of its amount. -/
theorem Converter.worth_of_convert (foreign : coin.denom ≠ c.reference)
    (h : Yields (c.convert coin target) s out s') :
    t.Worth coin.amount (c.given coin target).denom (c.sought coin target) out.coin.amount := by
  rw [convert_foreign foreign] at h
  obtain ⟨p, reversed, hfound, hmem, -, -⟩ := throughPool_yields h
  obtain ⟨-, horder⟩ := Registry.of_find? hfound
  have hne := given_ne_sought foreign target
  rw [throughPool_eq hfound] at h
  obtain ⟨answer, v, hquery, hread, rfl⟩ :=
    (Chain.yields_price_iff horder (Chain.writable_of_price h) hne).mp h
  rw [table] at hquery
  obtain ⟨hanswer, -⟩ := Prod.mk.inj hquery
  obtain ⟨-, q, hq⟩ := PriceTable.pool_of_answer hanswer
  obtain rfl := serves p hmem q hq
  rw [← Pool.interpret_question horder hne] at hread
  exact PriceTable.worth_of_answer positive hq horder hne hanswer hread

theorem Converter.convert_eq_zero_iff (h : Yields (c.convert coin target) s out s') :
    out.coin.amount = 0 ↔
      t.BelowUnit coin.amount (c.given coin target).denom (c.sought coin target) := by
  by_cases hsame : coin.denom = c.reference
  · have hboth : (c.given coin target).denom = c.sought coin target := by
      cases target with
      | false => exact hsame
      | true => exact hsame.symm
    rw [(yields_convert_same hsame h).1]
    simp [PriceTable.BelowUnit, hboth]
  · exact (worth_of_convert table positive serves hsame h).eq_zero_iff
      (given_ne_sought hsame target)

/-- A spend comes to nothing exactly if each of its coins does. -/
theorem Converter.Prices.total_eq_zero_iff (h : c.Prices coins s prices s') :
    Sourced.total prices = 0 ↔
      ∀ coin ∈ coins, t.BelowUnit coin.amount coin.denom c.reference := by
  induction h with
  | nil s => simp
  | cons first rest ih =>
    have hfirst := convert_eq_zero_iff table positive serves first
    rw [Sourced.total_cons, Nat.add_eq_zero_iff, List.forall_mem_cons, hfirst, ih]
    rfl

end Table

/-- What a spend comes to is no less than what it moves in the reference denomination. -/
theorem Converter.Prices.le_total {c : Converter σ} {coins : List Coin} {prices : List Sourced}
    {s s' : σ} (h : c.Prices coins s prices s') {coin : Coin} (mem : coin ∈ coins)
    (same : coin.denom = c.reference) : coin.amount ≤ Sourced.total prices := by
  induction h with
  | nil s => cases mem
  | cons first rest ih =>
    rw [Sourced.total_cons]
    rcases List.mem_cons.mp mem with rfl | mem
    · rw [(yields_convert_same same first).1]
      exact Nat.le_add_right _ _
    · exact Nat.le_add_left_of_le (ih mem)

namespace Account

variable {e : Engine σ} {s : Sending} {a b : Account} {ms : List Message} {c d : σ}
  {r : Response}

variable [Json.Nesting]

/-- Of another sender than the owner, each message passes under a rule or is debited exactly what
its coins are priced at, and no less than any of them in the reference denomination. Where a debt
is cleared, what is forwarded repays it in the denomination of the send at its price, which in the
reference denomination is the debt. Nothing is asked of these amounts but that they are prices:
against a table in which every unit is worth something, a debit is zero exactly if each of the coins
is worth less than one unit of the reference denomination, and a repayment is zero exactly if the
debt is worth less than one unit of the denomination that it is paid in. -/
theorem free_only_below_one_unit
    (accepted : ((execute e a s ms).run c).run = ((.ok r, b), d)) :
    (¬ a.IsOwner s.sender → ∀ x ∈ passages e s a c ms, x.Covered a s.sender ∨
      ∃ coins w l prices, x.Debits e s a coins w l prices ∧
        (∀ coin ∈ coins, coin.denom = e.reference → coin.amount ≤ Sourced.total prices) ∧
        ∀ t : PriceTable, e.chain = t.chain → t.Positive → t.Serves a.pools →
          (Sourced.total prices = 0 ↔
            ∀ coin ∈ coins, t.BelowUnit coin.amount coin.denom e.reference)) ∧
    (s.simulate = false → a.feeDebt ≠ 0 → b.feeDebt = 0 →
      ∃ pre m asset post paid, ms = pre ++ m :: post ∧ m.asset? = some asset ∧
        r.messages = pre ++ m :: .bankSend a.feeRepayAddress [paid] :: post ∧
        paid.denom = asset.denom ∧ (asset.denom = e.reference → paid.amount = a.feeDebt) ∧
        (∃ u v out, Yields ((e.converter a).convert ⟨asset.denom, a.feeDebt⟩ true) u out v ∧
          out.coin = paid) ∧
        ∀ t : PriceTable, e.chain = t.chain → t.Positive → t.Serves a.pools →
          (paid.amount = 0 ↔ t.BelowUnit a.feeDebt e.reference asset.denom)) := by
  constructor
  · intro hnotOwner x hx
    obtain ⟨-, -, -, hall⟩ := forwarding_sound hnotOwner accepted
    rcases hall x hx with ⟨hcovered, -⟩ | ⟨⟨coins, w, l, prices, hdebits⟩, -⟩
    · exact .inl hcovered
    · obtain ⟨mv, b', r', repayments, c', -, -, -, hprices⟩ := hdebits.priced
      refine .inr ⟨coins, w, l, prices, hdebits, ?_, ?_⟩
      · exact fun coin hcoin hsame => hprices.le_total hcoin hsame
      · exact fun t htable hpositive hserves =>
          hprices.total_eq_zero_iff htable hpositive hserves
  · intro hreal howed hcleared
    obtain ⟨sender, now, simulate⟩ := s
    obtain rfl : simulate = false := hreal
    have hbusy : ¬ (a.feeDebt = 0 ∨ ∀ m ∈ ms, m.asset? = none) := by
      intro hidle
      rw [(execute_untouched accepted hidle).2] at hcleared
      exact howed hcleared
    obtain ⟨-, pre, m, asset, post, hms, -, hasset, -, -, u, out, v, -, hprice, hmessages⟩ :=
      execute_repaid accepted hbusy
    refine ⟨pre, m, asset, post, out.coin, hms, hasset, hmessages, Converter.denom_of_convert hprice,
      ?_, ⟨u, v, out, hprice, rfl⟩, ?_⟩
    · intro hsame
      rw [(Converter.yields_convert_same hsame hprice).1]
    · exact fun t htable hpositive hserves =>
        Converter.convert_eq_zero_iff htable hpositive hserves hprice

end Account

/-! A local network whose pools answer from its table of prices, and an account that owes more than
nothing, but less than one of the tokens that its owner sends. -/
namespace Sample

open Account

def localTable : PriceTable := ⟨Registry.localPools, PriceTable.localPrices, []⟩

def localEngine : Engine Unit := ⟨localTable.chain, Denom.axlUsdc⟩

def localWallet : Wallet := { wallet with limits := [⟨Denom.axlUsdc, 50, 20⟩] }

def indebted : Account := { founded with wallets := [localWallet], feeDebt := 50 }

def paidUp : Account := { indebted with feeDebt := 0 }

def tokenSend : Message := .bankSend "shop" [⟨Denom.testTokens, 3⟩]

def dustSend : Message := .bankSend "shop" [⟨Denom.loop, 99⟩]

def payer : Sending := ⟨"owner", 50, false⟩

def spender : Sending := ⟨"spender", 50, false⟩

theorem admissible_localWallet : localWallet.Admissible :=
  ⟨⟨by decide, by decide, by decide⟩, by decide⟩

theorem reachable_indebted : Reachable localEngine indebted := by
  have hfound : found localEngine.reference
      { founding with wallets := [localWallet], feeDebt := .int 50 } =
        .ok (indebted, (Response.action "instantiate").add "signer" "signer") := by rfl
  exact .founded (by simp [admissible_localWallet]) hfound

theorem reachable_paidUp : Reachable localEngine paidUp := by
  have hafter : (Call.mk (.execute payer [tokenSend]) ()).after localEngine indebted = paidUp := by
    decide +kernel
  rw [← hafter]
  exact .called _ reachable_indebted trivial

theorem positive_localTable : localTable.Positive := by
  intro denom price h
  unfold PriceTable.priceOf at h
  split at h
  next entry hentry =>
    obtain rfl := Except.ok.inj h
    have hmem := List.mem_of_find?_eq_some hentry
    simp only [localTable, PriceTable.localPrices, List.mem_cons, List.not_mem_nil, or_false] at hmem
    rcases hmem with rfl | rfl | rfl <;> norm_num [Price.value]
  next => cases h

theorem serves_localTable : localTable.Serves Registry.localPools := by
  have hself : ∀ p ∈ Registry.localPools, localTable.pool? p.contract = some p := by decide
  intro p hp q hq
  rw [hself p hp] at hq
  exact (Option.some.inj hq).symm

/-- The coins that a forwarded message moves. -/
def moved (m : Message) : Option (List Coin) :=
  (Movement.ofMessage m).toOption.map Movement.funds

end Sample

namespace Account

variable [Json.Nesting]

theorem exists_accepted_with {α : Type} {f : Response → α} {v : α}
    (response : ((execute e a s ms).run c).run.1.1.toOption.map f = some v)
    (after : ((execute e a s ms).run c).run.1.2 = b) :
    ∃ r d, ((execute e a s ms).run c).run = ((.ok r, b), d) ∧ f r = v := by
  have hsome : ((execute e a s ms).run c).run.1.1.toOption.isSome := by
    rw [← Option.isSome_map (f := f), response]
    rfl
  obtain ⟨r, b', d, hrun⟩ := exists_accepted hsome
  rw [hrun] at response after
  obtain rfl : b' = b := after
  exact ⟨r, d, hrun, Option.some.inj response⟩

end Account

namespace Sample

open Account

/-- The owner's send clears the debt with no token at all. -/
theorem accepted_tokenSend :
    ∃ r, ((execute localEngine indebted payer [tokenSend]).run ()).run = ((.ok r, paidUp), ()) ∧
      r.messages.map moved = [some [⟨Denom.testTokens, 3⟩], some [⟨Denom.testTokens, 0⟩]] := by
  obtain ⟨r, ⟨⟩, hrun, hmoved⟩ :
      ∃ r d, ((execute localEngine indebted payer [tokenSend]).run ()).run = ((.ok r, paidUp), d) ∧
        r.messages.map moved = [some [⟨Denom.testTokens, 3⟩], some [⟨Denom.testTokens, 0⟩]] :=
    exists_accepted_with (by decide +kernel) (by decide +kernel)
  exact ⟨r, hrun, hmoved⟩

/-- Coins that are worth less than one unit pass the limit and leave it as it was. -/
theorem accepted_dustSend :
    ∃ r, ((execute localEngine paidUp spender [dustSend]).run ()).run = ((.ok r, paidUp), ()) ∧
      r.reductions = [0] ∧ r.messages.map moved = [some [⟨Denom.loop, 99⟩]] := by
  obtain ⟨r, ⟨⟩, hrun, hr⟩ :
      ∃ r d, ((execute localEngine paidUp spender [dustSend]).run ()).run = ((.ok r, paidUp), d) ∧
        (r.reductions, r.messages.map moved) = ([0], [some [⟨Denom.loop, 99⟩]]) :=
    exists_accepted_with (f := fun r => (r.reductions, r.messages.map moved))
      (by decide +kernel) (by decide +kernel)
  obtain ⟨hreductions, hmoved⟩ := Prod.mk.inj hr
  exact ⟨r, hrun, hreductions, hmoved⟩

end Sample

namespace Account

/-- A debt of fifty is cleared with a repayment of nothing, and ninety-nine of the cheapest
denomination pass through a limit without a debit. -/
theorem dust_moves_free :
    Reachable Sample.localEngine Sample.indebted ∧ Reachable Sample.localEngine Sample.paidUp ∧
      Sample.indebted.feeDebt = 50 ∧ Sample.paidUp.feeDebt = 0 ∧
      ¬ Sample.paidUp.IsOwner Sample.spender.sender ∧
      (∃ r, ((execute Sample.localEngine Sample.indebted Sample.payer [Sample.tokenSend]).run
          ()).run = ((.ok r, Sample.paidUp), ()) ∧
        r.messages.map Sample.moved =
          [some [⟨Denom.testTokens, 3⟩], some [⟨Denom.testTokens, 0⟩]]) ∧
      ∃ r, ((execute Sample.localEngine Sample.paidUp Sample.spender [Sample.dustSend]).run
          ()).run = ((.ok r, Sample.paidUp), ()) ∧
        r.reductions = [0] ∧ r.messages.map Sample.moved = [some [⟨Denom.loop, 99⟩]] :=
  ⟨Sample.reachable_indebted, Sample.reachable_paidUp, rfl, rfl, by decide, Sample.accepted_tokenSend,
    Sample.accepted_dustSend⟩

/-- Half a token is owed, and none is paid; the dust is debited nothing, each of its coins being
worth less than one unit. -/
theorem free_only_below_one_unit_sample :
    (∃ r pre m post paid,
      ((execute Sample.localEngine Sample.indebted Sample.payer [Sample.tokenSend]).run ()).run =
        ((.ok r, Sample.paidUp), ()) ∧
      [Sample.tokenSend] = pre ++ m :: post ∧
      r.messages = pre ++ m :: .bankSend "fees" [paid] :: post ∧ paid.amount = 0) ∧
    ∃ r, ((execute Sample.localEngine Sample.paidUp Sample.spender [Sample.dustSend]).run ()).run =
        ((.ok r, Sample.paidUp), ()) ∧
      ∀ x ∈ passages Sample.localEngine Sample.spender Sample.paidUp () [Sample.dustSend],
        x.Covered Sample.paidUp "spender" ∨ ∃ coins w l prices,
          x.Debits Sample.localEngine Sample.spender Sample.paidUp coins w l prices ∧
          (Sourced.total prices = 0 ↔ ∀ coin ∈ coins,
            Sample.localTable.BelowUnit coin.amount coin.denom Denom.axlUsdc) := by
  constructor
  · obtain ⟨r, haccepted, -⟩ := Sample.accepted_tokenSend
    obtain ⟨-, hrepaid⟩ := free_only_below_one_unit haccepted
    obtain ⟨pre, m, asset, post, paid, hms, hasset, hmessages, -, -, -, hzero⟩ :=
      hrepaid rfl (by decide) rfl
    obtain rfl : m = Sample.tokenSend :=
      List.mem_singleton.mp (hms ▸ List.mem_append_right pre List.mem_cons_self)
    obtain rfl : ⟨Denom.testTokens, 3⟩ = asset := Option.some.inj hasset
    have hbelow : Sample.localTable.BelowUnit 50 Denom.axlUsdc Denom.testTokens :=
      .inr ⟨by decide, { numerator := 1, denominator := 1 }, { numerator := 100, denominator := 1 },
        rfl, rfl, by norm_num [Price.value]⟩
    have hpaid := (hzero Sample.localTable rfl Sample.positive_localTable
      Sample.serves_localTable).mpr hbelow
    exact ⟨r, pre, Sample.tokenSend, post, paid, haccepted, hms, hmessages, hpaid⟩
  · obtain ⟨r, haccepted, -⟩ := Sample.accepted_dustSend
    obtain ⟨hpasses, -⟩ := free_only_below_one_unit haccepted
    refine ⟨r, haccepted, fun x hx => (hpasses (by decide) x hx).imp_right ?_⟩
    rintro ⟨coins, w, l, prices, hdebits, -, hzero⟩
    exact ⟨coins, w, l, prices, hdebits, hzero Sample.localTable rfl Sample.positive_localTable
      Sample.serves_localTable⟩

end Account

end AllowanceProxy
