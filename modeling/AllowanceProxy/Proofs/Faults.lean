import AllowanceProxy.Proofs.Invariant

/-!
Faults. Which faults may come out of a computation is found along its steps, as its success is:
refusals, what a query fails with, numbers too long to be written, messages that cannot be read and
moments without a next reset. An account that keeps the invariant never meets a wallet without a
limit, nor a limit that is above its total.
-/
namespace AllowanceProxy

variable {σ α β : Type}

namespace Asking

variable {P : Error → Prop}

/-- Every fault of the computation, against whatever chain, is of a kind. -/
def FaultsIn (P : Error → Prop) (x : Asking σ α) : Prop :=
  ∀ s err t, x.ask s = (.error err, t) → P err

theorem faultsIn_pure (a : α) : FaultsIn P (pure a : Asking σ α) := by
  intro s err t h
  cases h

theorem faultsIn_throw {err : Error} (h : P err) : FaultsIn P (throw err : Asking σ α) := by
  rintro s err' t ⟨⟩
  exact h

theorem faultsIn_lift {x : Except Error α} (h : ∀ err, x = .error err → P err) :
    FaultsIn P (lift x : Asking σ α) := by
  intro s err t hx
  exact h err (congrArg Prod.fst hx)

theorem faultsIn_exceptT_lift (x : StateM σ α) : FaultsIn P (ExceptT.lift x) := by
  intro s err t h
  cases congrArg Prod.fst h

/-- The later steps only matter for what the earlier ones may come to. -/
theorem faultsIn_bind {x : Asking σ α} {f : α → Asking σ β} (hx : FaultsIn P x)
    (hf : ∀ s a t, Yields x s a t → FaultsIn P (f a)) : FaultsIn P (x >>= f) := by
  intro s err u h
  rw [ask_bind] at h
  split at h
  next a v ha => exact hf s a v ha v err u h
  next herr =>
    cases h
    exact hx s _ _ herr

theorem faultsIn_map {f : α → β} {x : Asking σ α} (h : FaultsIn P x) : FaultsIn P (f <$> x) := by
  rw [← bind_pure_comp]
  exact faultsIn_bind h fun _ _ _ _ => faultsIn_pure _

end Asking

namespace Error

attribute [simp] kind

/-- What a wallet without a limit, or a limit above its total, is reported as. -/
@[simp] def OfLimit (err : Error) : Prop := err.kind = .position ∨ err.kind = .validation

variable {err : Error}

theorem not_ofLimit_of_kind {k : Kind} (h : err.kind = k)
    (other : k ≠ .position ∧ k ≠ .validation) : ¬ err.OfLimit := by
  rintro (hp | hv)
  · exact other.1 (h ▸ hp)
  · exact other.2 (h ▸ hv)

theorem numeralOf_eq_error {n : Nat} (h : numeralOf n = .error err) :
    ¬ Number.Writable n ∧ err = .numeral .unwritable := by
  unfold numeralOf Number.numeral at h
  split at h
  next => cases h
  next fault hfault =>
    cases h
    split at hfault
    next => cases hfault
    next hlong =>
      cases hfault
      exact ⟨hlong, rfl⟩

variable {P : Error → Prop}

theorem of_aboveLimitOf {n : Nat} {denom : String} (refused : ∀ err, err.isRefusal = true → P err)
    (unwritable : ¬ Number.Writable n → P (.numeral .unwritable)) : P (aboveLimitOf n denom) := by
  unfold aboveLimitOf
  split
  next => exact refused _ rfl
  next err h =>
    obtain ⟨hlong, rfl⟩ := numeralOf_eq_error h
    exact unwritable hlong

theorem of_debtFirstOf {n : Nat} (refused : ∀ err, err.isRefusal = true → P err)
    (unwritable : ¬ Number.Writable n → P (.numeral .unwritable)) : P (debtFirstOf n) := by
  unfold debtFirstOf
  split
  next => exact refused _ rfl
  next err h =>
    obtain ⟨hlong, rfl⟩ := numeralOf_eq_error h
    exact unwritable hlong

end Error

open Asking Error

section Messages

variable {err : Error}

theorem Payload.kind_of_single? [Json.Nesting] {p : Payload} (h : p.single? = .error err) :
    err.kind = .depth := by
  unfold single? at h
  split at h
  · cases h
  · cases h
    rfl
  · cases h

namespace Instruction

theorem kind_of_amount? {v : Json} (h : amount? v = .error err) : err.kind = .value := by
  unfold amount? at h
  split at h
  · cases h
  · split at h
    · split at h
      · cases h
      · cases h
        rfl
    · cases h
  · cases h

theorem kind_of_amountIn? {i : Instruction} {fields : Members}
    (h : i.amountIn? fields = .error err) : err.kind = .value := by
  unfold amountIn? at h
  split at h
  · split at h
    · exact kind_of_amount? h
    · cases h
  · cases h

theorem kind_of_accepts {i : Instruction} {fields : Members}
    (h : i.accepts fields = .error err) : err.kind = .value := by
  unfold accepts at h
  split at h
  · split at h
    · rcases except_bind_eq_error.mp h with h | ⟨n, -, h⟩
      · exact kind_of_amountIn? h
      · cases h
    · cases h
  · cases h

variable [Json.Nesting]

theorem not_ofLimit_of_decode? {p : Payload} (h : decode? p = .error err) : ¬ err.OfLimit := by
  rcases except_bind_eq_error.mp h with h | ⟨single, -, h⟩
  · exact not_ofLimit_of_kind (Payload.kind_of_single? h) (by decide)
  · split at h
    · split at h
      · rcases except_bind_eq_error.mp h with h | ⟨accepted, -, h⟩
        · exact not_ofLimit_of_kind (kind_of_accepts h) (by decide)
        · split at h <;> cases h
      · cases h
    · cases h

end Instruction

section

variable [Json.Nesting]

theorem Movement.not_ofLimit_of_ofMessage {m : Message} (h : ofMessage m = .error err) :
    ¬ err.OfLimit := by
  cases m with
  | bankSend address coins => cases h
  | bankBurn coins => cases h
  | chainOperation kind payload => cases h
  | wasmExecute contract msg funds =>
    rcases except_bind_eq_error.mp h with h | ⟨decoded, -, h⟩
    · exact Instruction.not_ofLimit_of_decode? h
    · split at h
      · cases h
      · split at h
        · rcases except_bind_eq_error.mp h with h | ⟨moved, -, h⟩
          · exact not_ofLimit_of_kind (Instruction.kind_of_amountIn? h) (by decide)
          · cases h
        · cases h

/-- Whether a rule covers a message can be told, once its payload can be read. -/
theorem Account.single?_of_coveredByRule {a : Account} {sender : String} {m : Message}
    (h : a.coveredByRule sender m = .error err) :
    ∃ contract msg, m = .wasmExecute contract msg [] ∧ (Payload.text msg).single? = .error err := by
  unfold coveredByRule at h
  split at h
  next contract msg =>
    rcases except_bind_eq_error.mp h with h | ⟨verdict, -, h⟩
    · rcases except_bind_eq_error.mp h with h | ⟨named, -, h⟩
      · rcases except_bind_eq_error.mp h with h | ⟨single, -, h⟩
        · exact ⟨contract, msg, rfl, h⟩
        · split at h <;> cases h
      · split at h
        · cases h
        · split at h <;> cases h
    · cases h
  next => cases h

theorem Account.not_ofLimit_of_coveredByRule {a : Account} {sender : String} {m : Message}
    (h : a.coveredByRule sender m = .error err) : ¬ err.OfLimit := by
  obtain ⟨contract, msg, -, hsingle⟩ := single?_of_coveredByRule h
  exact not_ofLimit_of_kind (Payload.kind_of_single? hsingle) (by decide)

end

theorem Account.kind_of_checkPriceable {m : Message} {mv : Movement}
    (h : checkPriceable m mv = .error err) : err.kind = .refusal := by
  unfold checkPriceable at h
  split at h
  · cases h
    rfl
  · split at h
    · cases h
      split <;> rfl
    · split at h
      · cases h
        rfl
      · cases h

end Messages

section Prices

variable {P : Error → Prop} {err : Error}

/-- An answer without a usable amount is a failed price check, unless the amount is infinite. -/
theorem Json.fault_of_amountOf {name : String} {answer : Json}
    (h : amountOf name answer = .error err) : err.isPricing = true ∨ err = .infiniteNumber := by
  rcases except_bind_eq_error.mp h with h | ⟨v, -, h⟩
  · unfold fieldOf at h
    split at h
    · split at h
      · cases h
      · cases h
        exact .inl rfl
    all_goals
      cases h
      exact .inl rfl
  · rcases except_bind_eq_error.mp h with h | ⟨n, -, h⟩
    · unfold wholeNumber at h
      split at h
      · cases h
      · cases h
      · split at h
        · cases h
        · cases h
          exact .inl rfl
        · cases h
          exact .inr rfl
      · split at h
        · cases h
        · cases h
          exact .inl rfl
      · cases h
        exact .inl rfl
    · split at h
      · cases h
        exact .inl rfl
      · cases h

theorem PriceQuery.fault_of_interpret {q : PriceQuery} {answer : Json}
    (h : q.interpret answer = .error err) : err.isPricing = true ∨ err = .infiniteNumber := by
  unfold interpret at h
  split at h
  · rcases except_bind_eq_error.mp h with h | ⟨n, -, h⟩
    · exact Json.fault_of_amountOf h
    · rcases except_bind_eq_error.mp h with h | ⟨k, -, h⟩
      · exact Json.fault_of_amountOf h
      · cases h
  · rcases except_bind_eq_error.mp h with h | ⟨n, -, h⟩
    · exact Json.fault_of_amountOf h
    · rcases except_bind_eq_error.mp h with h | ⟨k, -, h⟩
      · exact Json.fault_of_amountOf h
      · cases h
  · exact Json.fault_of_amountOf h
  · exact Json.fault_of_amountOf h

theorem Pool.priceQuery_eq_error {p : Pool} {amount : Nat} {flip target : Bool}
    (h : p.priceQuery amount flip target = .error err) :
    ¬ Number.Writable amount ∧ err = .numeral .unwritable := by
  rcases except_bind_eq_error.mp h with h | ⟨q, -, h⟩
  · rcases except_bind_eq_error.mp h with h | ⟨n, -, h⟩
    · exact numeralOf_eq_error h
    · cases h
  · cases h

/-- Of a kind are all refusals, and whatever a query or its answer fails with. -/
structure Chain.FailsIn (chain : Chain σ) (P : Error → Prop) : Prop where
  refused : ∀ err, err.isRefusal = true → P err
  queried : ∀ contract (q : PriceQuery) s err,
    (chain.query contract q.wire s).1.bind q.interpret = .error err → P (q.fault contract err)

/-- A price fails with what its one query or the answer fails with, or its amount is too long. -/
theorem Chain.faultsIn_price {chain : Chain σ}
    (queried : ∀ contract (q : PriceQuery) s err,
      (chain.query contract q.wire s).1.bind q.interpret = .error err → P (q.fault contract err))
    {amount : Nat} (unwritable : ¬ Number.Writable amount → P (.numeral .unwritable)) (p : Pool)
    (reversedOrder target reverse : Bool) :
    FaultsIn P (chain.price p amount reversedOrder target reverse) := by
  intro s err t hprice
  rw [Chain.price, ask_mk] at hprice
  split at hprice
  next hq =>
    cases hprice
    obtain ⟨hlong, rfl⟩ := Pool.priceQuery_eq_error hq
    exact unwritable hlong
  next q hq =>
    simp only at hprice
    split at hprice
    next cause hcause =>
      cases hprice
      exact queried p.contract q s cause hcause
    next => cases hprice

theorem Sourced.identity_eq_error {coin : Coin} {fault : Number.NumeralFault}
    (h : Sourced.identity coin = .error fault) :
    ¬ Number.Writable coin.amount ∧ fault = .unwritable := by
  unfold identity Number.numeral at h
  by_cases hwritable : Number.Writable coin.amount
  · simp [hwritable, bind, Except.bind, pure, Except.pure] at h
  · simp only [hwritable, ↓reduceIte, bind, Except.bind, Except.error.injEq] at h
    exact ⟨hwritable, h.symm⟩

variable {c : Converter σ} {coin : Coin} {coins : List Coin}

theorem Chain.FailsIn.convert (h : c.chain.FailsIn P)
    (unwritable : ¬ Number.Writable coin.amount → P (.numeral .unwritable)) (target : Bool) :
    FaultsIn P (c.convert coin target) := by
  have hpool (x y : String) (reverse : Bool) :
      FaultsIn P (c.throughPool x y coin.amount reverse) := by
    apply faultsIn_bind
    · refine faultsIn_lift fun err herr => ?_
      unfold Registry.find at herr
      split at herr
      next => cases herr
      next =>
        cases herr
        exact h.refused _ rfl
    · intro s found t _
      exact Chain.faultsIn_price h.queried unwritable _ _ _ _
  unfold Converter.convert
  split
  next =>
    refine faultsIn_lift fun err herr => ?_
    split at herr
    next => cases herr
    next fault hfault =>
      cases herr
      obtain ⟨hlong, rfl⟩ := Sourced.identity_eq_error hfault
      exact unwritable hlong
  next =>
    split
    · exact hpool _ _ _
    · exact hpool _ _ _

/-- The numbers that a debit of coins may have to write down: their amounts, their prices, and what
these come to together. -/
inductive Converter.Written (c : Converter σ) (coins : List Coin) : Nat → Prop where
  | amount {coin : Coin} (mem : coin ∈ coins) : Written c coins coin.amount
  | price {coin : Coin} {s t : σ} {x : Sourced} (mem : coin ∈ coins)
      (priced : Yields (c.convert coin false) s x t) : Written c coins x.coin.amount
  | total {s t : σ} {xs : List Sourced} (priced : c.Prices coins s xs t) :
      Written c coins (Sourced.total xs)

/-- A debit of coins fails with faults of a kind, as long as its limit is sound. -/
structure Converter.PricesIn (c : Converter σ) (coins : List Coin) (P : Error → Prop) : Prop where
  fails : c.chain.FailsIn P
  unwritable : ∀ n, c.Written coins n → ¬ Number.Writable n → P (.numeral .unwritable)

end Prices

namespace Wallet

variable {P : Error → Prop} {w w' : Wallet} {l : SpendLimit} {ls : List SpendLimit} {now : Int}
  {n : Nat} {err : Error} {c : Converter σ} {coin : Coin} {coins : List Coin}

theorem faultsIn_quote (h : c.PricesIn [coin] P) (hl : w.limits = l :: ls) (reset : Bool) :
    FaultsIn P (w.quote c coin reset) := by
  have hmem := List.mem_singleton_self coin
  have hlimit : w.limit = .ok l := limit_eq_ok.mpr ⟨ls, hl⟩
  refine faultsIn_bind (h.fails.convert (h.unwritable _ (.amount hmem)) false) ?_
  intro s priced t hpriced
  rw [hlimit, lift_ok_bind]
  simp only
  split
  · refine faultsIn_throw (of_aboveLimitOf h.fails.refused ?_)
    exact h.unwritable _ (.price hmem hpriced)
  · exact faultsIn_pure _

theorem faultsIn_tally (h : c.PricesIn coins P) (denom : String) (available : Nat) (sum : Sourced)
    {rest : List Coin} (hrest : rest ⊆ coins) :
    FaultsIn P (tally c denom available sum rest) := by
  induction rest generalizing sum with
  | nil => exact faultsIn_pure sum
  | cons coin rest ih =>
    obtain ⟨hcoin, hrest⟩ := List.cons_subset.mp hrest
    refine faultsIn_bind (h.fails.convert (h.unwritable _ (.amount hcoin)) false) ?_
    intro s priced t hpriced
    simp only
    split
    · refine faultsIn_throw (of_aboveLimitOf h.fails.refused ?_)
      exact h.unwritable _ (.price hcoin hpriced)
    · exact ih _ hrest

theorem faultsIn_quoteAll (h : c.PricesIn coins P) (hl : w.limits = l :: ls) (reset : Bool) :
    FaultsIn P (w.quoteAll c coins reset) := by
  have hlimit : w.limit = .ok l := limit_eq_ok.mpr ⟨ls, hl⟩
  unfold quoteAll
  rw [hlimit, lift_ok_bind]
  exact faultsIn_tally h _ _ _ (List.Subset.refl coins)

theorem of_debitAll {s t : σ} (h : c.PricesIn coins P) (hl : w.limits = l :: ls)
    (wellFormed : l.WellFormed)
    (failed : ((w.debitAll c coins).run s).run = ((.error err, w'), t)) : P err := by
  rcases hq : (w.quoteAll c coins false).ask s with ⟨cause | total, u⟩
  · rw [run_debitAll_of_error hq] at failed
    cases failed
    exact faultsIn_quoteAll h hl false s _ _ hq
  · rw [run_debitAll_of_ok hl wellFormed hq] at failed
    cases failed

/-- Only the next reset may fail, as the limit can always be refilled. -/
theorem resetAfter_of_rollOver (hl : w.limits = l :: ls)
    (h : w.rollOver now = (.error err, w')) : w.resetAfter now = .error err := by
  rw [rollOver_eq hl] at h
  split at h
  next hreset =>
    cases h
    exact hreset
  next => cases h

end Wallet

namespace Account

variable {P : Error → Prop} {e : Engine σ} {s : Sending} {a b : Account} {p : Progress}
  {m : Message} {mv : Movement} {ms : List Message} {w : Wallet} {err : Error}

/-- The numbers that a message may have to write down: the debt that it repays first, and those of
its debit. -/
inductive Written [Json.Nesting] (e : Engine σ) (a : Account) (m : Message) : Nat → Prop where
  | debt : Written e a m a.feeDebt
  | spend {mv : Movement} {n : Nat} (movement : Movement.ofMessage m = .ok mv)
      (written : (e.converter a).Written mv.funds n) : Written e a m n

/-- Whatever may go wrong with a message on an account is of a kind: a refusal or a failed price
check, a message that cannot be read, a number that cannot be written, and a period that is over
at a moment with no next reset. -/
structure MayFail [Json.Nesting] (e : Engine σ) (s : Sending) (a : Account) (m : Message)
    (P : Error → Prop) : Prop where
  fails : e.chain.FailsIn P
  unread : ∀ err, Movement.ofMessage m = .error err ∨ a.coveredByRule s.sender m = .error err →
    P err
  unwritable : ∀ n, Written e a m n → ¬ Number.Writable n → P (.numeral .unwritable)
  undated : ∀ w err, ¬ a.IsOwner s.sender → a.wallet? s.sender = some w → w.nextReset < s.now →
    w.resetAfter s.now = .error err → P err

theorem faultsIn_repayWith (fails : e.chain.FailsIn P)
    (unwritable : ¬ Number.Writable p.account.feeDebt → P (.numeral .unwritable))
    (mv : Movement) : FaultsIn P (repayWith e p mv) := by
  have hfails : (e.converter p.account).chain.FailsIn P := fails
  unfold repayWith
  split
  · split
    · exact faultsIn_pure _
    · refine faultsIn_bind ?_ fun _ _ _ _ => faultsIn_pure _
      unfold repayDebt
      simp only
      split
      · exact faultsIn_throw (of_debtFirstOf fails.refused unwritable)
      · exact faultsIn_bind (hfails.convert unwritable true) fun _ _ _ _ => faultsIn_pure _
  · exact faultsIn_pure _

theorem faultsIn_debit {now : Int} {coins : List Coin}
    (prices : (e.converter a).PricesIn coins P) (valid : w.IsValid e.reference)
    (admissible : w.Admissible)
    (undated : ∀ err, w.nextReset < now → w.resetAfter now = .error err → P err) :
    FaultsIn P (debit e a w now coins) := by
  obtain ⟨l, hl, -⟩ := valid.limits_eq
  have hwellFormed : l.WellFormed := admissible.limits l (hl ▸ List.mem_singleton_self l)
  refine faultsIn_bind (faultsIn_lift ?_) ?_
  · intro err herr
    unfold rollOverIfDue at herr
    split at herr
    next hdue =>
      split at herr
      next => cases herr
      next hrollOver =>
        cases herr
        exact undated _ (of_decide_eq_true hdue) (Wallet.resetAfter_of_rollOver hl hrollOver)
    · cases herr
  · intro s v t hv
    obtain ⟨hrolled, -⟩ := yields_lift.mp hv
    -- Whether or not a new period starts, the wallet has one limit that keeps to its total.
    have hlimits : ∃ k, v.limits = [k] ∧ k.WellFormed := by
      rcases rollOverIfDue_ok hrolled with ⟨-, rfl⟩ | ⟨r, k, ks, -, -, hk, rfl⟩
      · exact ⟨l, hl, hwellFormed⟩
      · rw [hl] at hk
        obtain ⟨rfl, rfl⟩ := List.cons.inj hk
        exact ⟨_, Wallet.limits_withStanding hl _ _, Nat.le_refl _⟩
    obtain ⟨k, hk, hkeeps⟩ := hlimits
    refine faultsIn_bind (faultsIn_exceptT_lift _) ?_
    rintro s ⟨outcome, u⟩ t hrun
    cases outcome with
    | ok total => exact faultsIn_pure _
    | error err =>
      have hdebit := yields_exceptT_lift.mp hrun
      exact faultsIn_throw (Wallet.of_debitAll prices hk hkeeps hdebit)

variable [Json.Nesting]

theorem faultsIn_executeSpend (may : MayFail e s a m P) (notOwner : ¬ a.IsOwner s.sender)
    (movement : Movement.ofMessage m = .ok mv) (admissible : ∀ w ∈ a.wallets, w.Admissible) :
    FaultsIn P (executeSpend e s ⟨a, .empty⟩ m mv) := by
  unfold executeSpend
  split
  next => exact faultsIn_throw (may.fails.refused _ rfl)
  next w hw =>
    refine faultsIn_bind (faultsIn_lift ?_) ?_
    · intro err herr
      unfold Wallet.checkValid at herr
      split at herr
      · cases herr
      · cases herr
        exact may.fails.refused _ rfl
    · intro c _ d hvalid
      have hv := Wallet.checkValid_ok (yields_lift.mp hvalid).1
      refine faultsIn_bind (faultsIn_repayWith may.fails (may.unwritable _ .debt) mv) ?_
      rintro c ⟨q, repayments⟩ d hrepaid
      -- The repayment leaves the pools as they are.
      have hconverter : e.converter q.account = e.converter a := by
        obtain ⟨n, hn⟩ := (repayWith_yields hrepaid).eq_setDebt
        rw [hn]
        rfl
      have hprices : (e.converter q.account).PricesIn mv.funds P := by
        rw [hconverter]
        exact ⟨may.fails, fun n hn => may.unwritable n (.spend movement hn)⟩
      refine faultsIn_bind (faultsIn_debit hprices hv (admissible w (List.mem_of_find?_eq_some hw))
        fun err => may.undated w err notOwner hw) ?_
      rintro c ⟨v, reduction⟩ d hdebited
      refine faultsIn_bind (faultsIn_lift fun err herr => ?_) fun _ _ _ _ => faultsIn_pure _
      obtain ⟨xs, htotal, -, hreduction, -⟩ := debit_yields hdebited
      obtain ⟨hlong, rfl⟩ := numeralOf_eq_error herr
      exact hprices.unwritable _ (.total htotal) (hreduction ▸ hlong)

theorem faultsIn_executeMessage (may : MayFail e s p.account m P)
    (admissible : ∀ w ∈ p.account.wallets, w.Admissible) :
    FaultsIn P (executeMessage e s p m) := by
  have hrepay (mv : Movement) := faultsIn_repayWith (p := ⟨p.account, .empty⟩) may.fails
    (may.unwritable p.account.feeDebt .debt) mv
  have hp : p = Progress.behind p.response ⟨p.account, .empty⟩ := by simp [Progress.behind]
  rw [hp, executeMessage_behind]
  refine faultsIn_map (faultsIn_bind (faultsIn_lift fun err herr => ?_) fun c mv d hmv => ?_)
  · exact may.unread err (.inl herr)
  split
  · exact faultsIn_bind (hrepay mv) fun _ _ _ _ => faultsIn_pure _
  next notOwner =>
    refine faultsIn_bind (faultsIn_lift fun err herr => ?_) fun c covered d _ => ?_
    · exact may.unread err (.inr herr)
    split
    · exact faultsIn_pure _
    · refine faultsIn_bind (faultsIn_lift fun err herr => ?_) fun c _ d _ => ?_
      · exact may.fails.refused err (decide_eq_true (kind_of_checkPriceable herr))
      exact faultsIn_executeSpend may notOwner (yields_lift.mp hmv).1 admissible

/-- What every message keeps true of the account, every message of a batch finds. -/
theorem faultsIn_executeAll {R : Account → Prop} (sound : ∀ a, R a → a.Sound e.reference)
    (may : ∀ a, R a → ∀ m ∈ ms, MayFail e s a m P)
    (keeps : ∀ a b m c r d, R a → Passes e s a m c b r d → R b) (start : R p.account) :
    FaultsIn P (executeAll e s p ms) := by
  induction ms generalizing p with
  | nil => exact faultsIn_pure p
  | cons m ms ih =>
    refine faultsIn_bind (faultsIn_executeMessage (may _ start m List.mem_cons_self)
      (sound _ start).admissible) fun c q d hq => ?_
    obtain ⟨r, hpasses⟩ := passes_of_yields hq
    refine ih ?_ (keeps _ _ m c r d start hpasses)
    exact fun b hb m' hm' => may b hb m' (List.mem_cons_of_mem m hm')

end Account

/-! What a wallet without a limit, or a limit above its total, would be reported as comes from the
chain alone. -/

namespace Chain

variable {chain : Chain σ} {err : Error}

/-- The chain answers some query with the fault. -/
def Raises (chain : Chain σ) (err : Error) : Prop :=
  ∃ contract q s, (chain.query contract q s).1 = .error err

/-- A fault of a limit is one of the chain's own. -/
def Excuses (chain : Chain σ) (err : Error) : Prop := err.OfLimit → chain.Raises err

theorem excuses_of_not_ofLimit (h : ¬ err.OfLimit) : chain.Excuses err := fun hl => absurd hl h

theorem failsIn_excuses (chain : Chain σ) : chain.FailsIn chain.Excuses where
  refused err h := excuses_of_not_ofLimit (not_ofLimit_of_kind (of_decide_eq_true h) (by decide))
  queried contract q s err h := by
    unfold PriceQuery.fault
    split
    next => exact excuses_of_not_ofLimit (by simp)
    next hfault =>
      rcases except_bind_eq_error.mp h with hraised | ⟨answer, -, hinterpret⟩
      · exact fun _ => ⟨contract, q.wire, s, hraised⟩
      · rcases PriceQuery.fault_of_interpret hinterpret with hpricing | rfl
        · exact absurd hpricing hfault
        · exact excuses_of_not_ofLimit (by simp)

end Chain

theorem Converter.pricesIn_excuses (c : Converter σ) (coins : List Coin) :
    c.PricesIn coins c.chain.Excuses :=
  ⟨c.chain.failsIn_excuses, fun _ _ _ => Chain.excuses_of_not_ofLimit (by simp)⟩

theorem Wallet.not_ofLimit_of_resetAfter {w : Wallet} {now : Int} {err : Error}
    (h : w.resetAfter now = .error err) : ¬ err.OfLimit := by
  rcases except_bind_eq_error.mp h with h | ⟨d, -, h⟩
  · unfold Calendar.dateOfSecond at h
    split at h
    · cases h
      simp
    · simp only at h
      split at h
      · cases h
        simp
      · split at h
        · cases h
          simp
        · cases h
  · split at h
    · split at h
      · cases h
        simp
      · cases h
    · split at h
      · cases h
        simp
      · simp only at h
        split at h
        · cases h
          simp
        · cases h

namespace Account

variable {e : Engine σ} {s : Sending} {p : Progress} {m : Message} {ms : List Message}

variable [Json.Nesting]

theorem mayFail_excuses (e : Engine σ) (s : Sending) (a : Account) (m : Message) :
    MayFail e s a m e.chain.Excuses where
  fails := e.chain.failsIn_excuses
  unread err h := Chain.excuses_of_not_ofLimit <|
    h.elim Movement.not_ofLimit_of_ofMessage not_ofLimit_of_coveredByRule
  unwritable _ _ _ := Chain.excuses_of_not_ofLimit (by simp)
  undated _ _ _ _ _ h := Chain.excuses_of_not_ofLimit (Wallet.not_ofLimit_of_resetAfter h)

/-- Every message of a batch finds an account that keeps the invariant. -/
theorem excuses_executeAll (sound : p.account.Sound e.reference) :
    FaultsIn e.chain.Excuses (executeAll e s p ms) := by
  refine faultsIn_executeAll (R := fun a => a.Sound e.reference) (fun _ h => h)
    (fun a _ m _ => mayFail_excuses e s a m) ?_ sound
  exact fun _ _ _ _ _ _ ha hpasses => hpasses.sound ha

end Account

end AllowanceProxy
