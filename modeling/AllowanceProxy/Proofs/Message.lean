import AllowanceProxy.Proofs.Debit
import AllowanceProxy.Proofs.Frame
import AllowanceProxy.Proofs.Progress

/-!
How one message passes. The owner's messages pass, those of another sender pass under a rule or
against the limit of its wallet; a native send first repays the debt of the account.
-/
namespace AllowanceProxy

open Asking

variable {σ : Type}

/-- The coins that a message moves out of the account: those of a native send or burn, and for a
token contract those attached and the tokens that the instruction itself moves. -/
inductive Message.Moves [Json.Nesting] : Message → List Coin → Prop where
  | bankSend (address : String) (coins : List Coin) : Moves (.bankSend address coins) coins
  | bankBurn (coins : List Coin) : Moves (.bankBurn coins) coins
  | token {contract msg : String} {funds : List Coin} {i : Instruction} {fields : Members}
      {v : Json} {n : Nat} (decoded : Instruction.decode? (.text msg) = .ok (some (i, fields)))
      (moving : i ∈ [.transfer, .burn, .send, .increaseAllowance])
      (amount : Json.lookup? "amount" fields = some v)
      (read : Instruction.amount? v = .ok (some n)) :
      Moves (.wasmExecute contract msg funds) (funds ++ [⟨contract, n⟩])

/-- A rule of the account or of the sender's own wallet covers the named message that a contract
call without attached coins holds. -/
def Message.Covered [Json.Nesting] (a : Account) (sender : String) (m : Message) : Prop :=
  ∃ contract msg name fields rule, m = .wasmExecute contract msg [] ∧
    (Payload.text msg).named? = .ok (some (name, fields)) ∧
    rule ∈ a.rules ++ ((a.wallet? sender).map Wallet.ownRules).getD [] ∧
    rule.Covers sender contract name fields

namespace Instruction

theorem mem_of_movesOwnFunds {i : Instruction} (h : i.movesOwnFunds = true) :
    i ∈ [.transfer, .burn, .send, .increaseAllowance] := by
  cases i <;> simp_all [movesOwnFunds]

theorem amount_required {i : Instruction} (h : i.movesOwnFunds = true) :
    i.requiredFields.contains "amount" = true := by
  cases i <;> simp_all [movesOwnFunds, requiredFields]

/-- Only complete fields are accepted. -/
theorem accepts_of_decode? [Json.Nesting] {p : Payload} {i : Instruction} {fields : Members}
    (h : decode? p = .ok (some (i, fields))) : i.accepts fields = .ok true := by
  obtain ⟨single, -, h⟩ := except_bind_eq_ok.mp h
  split at h
  next name body =>
    split at h
    next j hj =>
      obtain ⟨accepted, ha, h⟩ := except_bind_eq_ok.mp h
      cases accepted with
      | false => cases h
      | true =>
        cases h
        exact ha
    · cases h
  · cases h

theorem amountIn?_of_accepts {i : Instruction} {fields : Members} (hi : i.movesOwnFunds = true)
    (h : i.accepts fields = .ok true) :
    ∃ v n, Json.lookup? "amount" fields = some v ∧ amount? v = .ok (some n) ∧
      i.amountIn? fields = .ok (some n) := by
  unfold accepts at h
  split at h
  next =>
    rw [if_pos (amount_required hi)] at h
    obtain ⟨read, hr, h⟩ := except_bind_eq_ok.mp h
    cases read with
    | none => cases h
    | some n =>
      have hread := hr
      unfold amountIn? at hr
      split at hr
      next v hv =>
        rw [if_pos (amount_required hi)] at hr
        exact ⟨v, n, hv, hr, hread⟩
      next => cases hr
  · cases h

end Instruction

theorem Movement.moves_of_priceable [Json.Nesting] {m : Message} {mv : Movement}
    (hm : Movement.ofMessage m = .ok mv) (hp : Account.checkPriceable m mv = .ok ()) :
    m.Moves mv.funds ∧ ∃ coin ∈ mv.funds, coin.amount ≠ 0 := by
  have hguard : mv.isPriceable = true ∧ ∃ coin ∈ mv.funds, coin.amount ≠ 0 := by
    unfold Account.checkPriceable at hp
    split at hp
    · cases hp
    · split at hp
      · cases hp
      next hprice =>
        split at hp
        · cases hp
        next hzero => exact ⟨by simpa using hprice, by simpa using hzero⟩
  refine ⟨?_, hguard.2⟩
  cases m with
  | bankSend address coins =>
    obtain rfl := Except.ok.inj hm
    exact .bankSend address coins
  | bankBurn coins =>
    obtain rfl := Except.ok.inj hm
    exact .bankBurn coins
  | chainOperation kind payload => cases hp
  | wasmExecute contract msg funds =>
    obtain ⟨decoded, hd, hm⟩ := except_bind_eq_ok.mp hm
    split at hm
    next =>
      obtain rfl := Except.ok.inj hm
      cases hguard.1
    next i fields =>
      have hi : i.movesOwnFunds = true := by
        by_contra hi
        rw [if_neg hi] at hm
        obtain rfl := Except.ok.inj hm
        exact hi hguard.1
      obtain ⟨v, n, hv, hn, hread⟩ :=
        Instruction.amountIn?_of_accepts hi (Instruction.accepts_of_decode? hd)
      rw [if_pos hi, hread] at hm
      obtain rfl := Except.ok.inj hm
      exact .token hd (Instruction.mem_of_movesOwnFunds hi) hv hn

theorem Wallet.checkValid_ok {reference : String} {w : Wallet}
    (h : w.checkValid reference = .ok ()) : w.IsValid reference := by
  unfold checkValid at h
  split at h
  next hv => exact hv
  · cases h

namespace Account

open Wallet

variable {e : Engine σ} {s : Sending} {a b : Account} {m : Message} {mv : Movement}

section

variable [Json.Nesting]

theorem covered_of_coveredByRule {sender : String} (h : a.coveredByRule sender m = .ok true) :
    m.Covered a sender := by
  unfold coveredByRule at h
  split at h
  next contract msg =>
    obtain ⟨verdict, hv, h⟩ := except_bind_eq_ok.mp h
    obtain ⟨named, hn, hv⟩ := except_bind_eq_ok.mp hv
    have hsome : verdict.rule?.isSome = true := Except.ok.inj h
    split at hv
    next =>
      obtain rfl := Except.ok.inj hv
      cases hsome
    next name fields =>
      split at hv
      next rule hr =>
        have hcovers := List.find?_some hr
        exact ⟨contract, msg, name, fields, rule, rfl, hn, List.mem_of_find?_eq_some hr,
          of_decide_eq_true hcovers⟩
      next =>
        obtain rfl := Except.ok.inj hv
        cases hsome
  · cases h

theorem coveredByRule_of_covered {sender : String} (h : m.Covered a sender) :
    a.coveredByRule sender m = .ok true := by
  obtain ⟨contract, msg, name, fields, rule, rfl, hnamed, hmem, hcovers⟩ := h
  have hsome : (RuleBook.covering? a.rules sender contract name fields
      (((a.wallet? sender).map ownRules).getD [])).isSome :=
    List.find?_isSome.mpr ⟨rule, hmem, decide_eq_true hcovers⟩
  obtain ⟨found, hfound⟩ := Option.isSome_iff_exists.mp hsome
  simp [coveredByRule, RuleBook.check, hnamed, hfound, except_ok_bind, except_pure,
    RuleBook.Verdict.rule?]

/-- Whether a call is covered can be told whatever the rules are, if it can be told at all. -/
theorem exists_coveredByRule {sender : String} {u : Bool} (h : a.coveredByRule sender m = .ok u)
    (b : Account) : ∃ v, b.coveredByRule sender m = .ok v := by
  unfold coveredByRule at *
  split at h
  next contract msg =>
    obtain ⟨verdict, hv, -⟩ := except_bind_eq_ok.mp h
    obtain ⟨named, hn, -⟩ := except_bind_eq_ok.mp hv
    simp only [RuleBook.check, hn, except_ok_bind]
    split
    · exact ⟨_, rfl⟩
    · split <;> exact ⟨_, rfl⟩
  next => exact ⟨false, rfl⟩

/-- What comes of the debt before a movement: a native send of some coin pays the whole of it, in
the denomination of that coin. -/
inductive Repays (e : Engine σ) (a : Account) (mv : Movement) (c : σ) :
    Account → Response → List Message → σ → Prop where
  | nothing (idle : ¬ (mv.kind = .bankSend ∧ mv.funds ≠ [] ∧ a.feeDebt ≠ 0)) :
      Repays e a mv c a .empty [] c
  | debt {asset : Coin} {coins : List Coin} {paid : Sourced} {d : σ}
      (kind : mv.kind = .bankSend) (funds : mv.funds = asset :: coins) (owed : a.feeDebt ≠ 0)
      (convertible : (e.converter a).canConvert asset.denom = true)
      (price : Yields ((e.converter a).convert ⟨asset.denom, a.feeDebt⟩ true) c paid d) :
      Repays e a mv c { a with feeDebt := 0 }
        ((Response.empty.add "note" "repaying one-time fee debt").addSources paid)
        [.bankSend a.feeRepayAddress [paid.coin]] d

end

theorem repayDebt_yields {asset : Coin} {c d : σ} {p : Progress} {repayment : Message}
    (h : Yields (repayDebt e ⟨a, .empty⟩ asset) c (p, repayment) d) :
    ∃ paid, (e.converter a).canConvert asset.denom = true ∧
      Yields ((e.converter a).convert ⟨asset.denom, a.feeDebt⟩ true) c paid d ∧
      p.account = { a with feeDebt := 0 } ∧
      p.response = (Response.empty.add "note" "repaying one-time fee debt").addSources paid ∧
      repayment = .bankSend a.feeRepayAddress [paid.coin] := by
  simp only [repayDebt] at h
  split at h
  next => simp at h
  next hc =>
    obtain ⟨paid, u, hp, h⟩ := yields_bind.mp h
    obtain ⟨he, rfl⟩ := yields_pure.mp h
    obtain ⟨rfl, rfl⟩ := Prod.mk.inj he
    exact ⟨paid, by simpa using hc, hp, rfl, rfl, rfl⟩

theorem repayWith_yields {c d : σ} {p : Progress} {repayments : List Message}
    (h : Yields (repayWith e ⟨a, .empty⟩ mv) c (p, repayments) d) :
    Repays e a mv c p.account p.response repayments d := by
  unfold repayWith at h
  split at h
  next asset coins hk hf =>
    split at h
    next hz =>
      obtain ⟨he, rfl⟩ := yields_pure.mp h
      obtain ⟨rfl, rfl⟩ := Prod.mk.inj he
      exact .nothing fun hall => hall.2.2 hz
    next hz =>
      obtain ⟨⟨q, repayment⟩, u, hr, h⟩ := yields_bind.mp h
      obtain ⟨he, rfl⟩ := yields_pure.mp h
      obtain ⟨rfl, rfl⟩ := Prod.mk.inj he
      obtain ⟨paid, hc, hp, ha, hresp, rfl⟩ := repayDebt_yields hr
      rw [ha, hresp]
      exact .debt hk hf hz hc hp
  next hno =>
    obtain ⟨he, rfl⟩ := yields_pure.mp h
    obtain ⟨rfl, rfl⟩ := Prod.mk.inj he
    refine .nothing fun ⟨hk, hf, _⟩ => ?_
    obtain ⟨asset, coins, hcons⟩ := List.exists_cons_of_ne_nil hf
    exact hno asset coins hk hcons

section

variable [Json.Nesting]

/-- How a message passes, with what it makes of the account and what it adds to the response. -/
inductive Passes (e : Engine σ) (s : Sending) (a : Account) (m : Message) (c : σ) :
    Account → Response → σ → Prop where
  | owner {mv : Movement} {b : Account} {r : Response} {repayments : List Message} {d : σ}
      (isOwner : a.IsOwner s.sender) (movement : Movement.ofMessage m = .ok mv)
      (repays : Repays e a mv c b r repayments d) :
      Passes e s a m c b
        ((r.add "action" "execute_execute").forward (s.forwarded (m :: repayments))) d
  | covered (notOwner : ¬ a.IsOwner s.sender) (covered : a.coveredByRule s.sender m = .ok true) :
      Passes e s a m c a
        ((Response.empty.add "action" "execute_authorized_action").forward (s.forwarded [m])) c
  | spent {mv : Movement} {w w' : Wallet} {b : Account} {r : Response}
      {repayments : List Message} {d d' : σ} {out : Sourced} {amount : String}
      (notOwner : ¬ a.IsOwner s.sender) (movement : Movement.ofMessage m = .ok mv)
      (uncovered : a.coveredByRule s.sender m = .ok false)
      (priceable : checkPriceable m mv = .ok ()) (found : a.wallet? s.sender = some w)
      (valid : w.IsValid e.reference) (repays : Repays e a mv c b r repayments d)
      (debited : Yields (debit e b w s.now mv.funds) d (w', out) d')
      (numeral : Error.numeralOf out.coin.amount = .ok amount) :
      Passes e s a m c (b.setWallet w')
        ((((r.add "action" "execute_spend_limit").add "spend_limit_reduction" amount).addSources
          out).forward (s.forwarded (m :: repayments))) d'

theorem executeSpend_yields {c d : σ} {p : Progress} (notOwner : ¬ a.IsOwner s.sender)
    (movement : Movement.ofMessage m = .ok mv) (uncovered : a.coveredByRule s.sender m = .ok false)
    (priceable : checkPriceable m mv = .ok ())
    (h : Yields (executeSpend e s ⟨a, .empty⟩ m mv) c p d) :
    Passes e s a m c p.account p.response d := by
  unfold executeSpend at h
  split at h
  next => simp at h
  next w hw =>
    obtain ⟨⟨⟩, u, hvalid, h⟩ := yields_bind.mp h
    obtain ⟨hv, rfl⟩ := yields_lift.mp hvalid
    obtain ⟨⟨q, repayments⟩, d', hr, h⟩ := yields_bind.mp h
    obtain ⟨⟨w', out⟩, v, hd, h⟩ := yields_bind.mp h
    obtain ⟨amount, v, hnumeral, h⟩ := yields_bind.mp h
    obtain ⟨hn, rfl⟩ := yields_lift.mp hnumeral
    obtain ⟨rfl, rfl⟩ := yields_pure.mp h
    exact .spent notOwner movement uncovered priceable hw (checkValid_ok hv)
      (repayWith_yields hr) hd hn

theorem executeMessage_yields {c d : σ} {p : Progress}
    (h : Yields (executeMessage e s ⟨a, .empty⟩ m) c p d) :
    Passes e s a m c p.account p.response d := by
  obtain ⟨mv, u, hlift, h⟩ := yields_bind.mp h
  obtain ⟨hm, rfl⟩ := yields_lift.mp hlift
  split at h
  next howner =>
    obtain ⟨⟨q, repayments⟩, u, hr, h⟩ := yields_bind.mp h
    obtain ⟨rfl, rfl⟩ := yields_pure.mp h
    exact .owner howner hm (repayWith_yields hr)
  next howner =>
    obtain ⟨covered, u, hcovered, h⟩ := yields_bind.mp h
    obtain ⟨hc, rfl⟩ := yields_lift.mp hcovered
    cases covered with
    | true =>
      obtain ⟨rfl, rfl⟩ := yields_pure.mp h
      exact .covered howner hc
    | false =>
      obtain ⟨⟨⟩, u, hpriceable, h⟩ := yields_bind.mp h
      obtain ⟨hp, rfl⟩ := yields_lift.mp hpriceable
      exact executeSpend_yields howner hm hc hp h

/-- A message passes alike whatever response there is already. -/
theorem passes_of_yields {c d : σ} {p q : Progress} (h : Yields (executeMessage e s p m) c q d) :
    ∃ r, Passes e s p.account m c q.account r d := by
  have hp : p = Progress.behind p.response ⟨p.account, .empty⟩ := by simp [Progress.behind]
  rw [hp, executeMessage_behind] at h
  obtain ⟨q', hq', rfl⟩ := yields_map.mp h
  exact ⟨q'.response, executeMessage_yields hq'⟩

end

theorem yields_repayDebt {asset : Coin} {paid : Sourced} {c d : σ}
    (convertible : (e.converter a).canConvert asset.denom = true)
    (price : Yields ((e.converter a).convert ⟨asset.denom, a.feeDebt⟩ true) c paid d) :
    Yields (repayDebt e ⟨a, .empty⟩ asset) c (⟨{ a with feeDebt := 0 },
      (Response.empty.add "note" "repaying one-time fee debt").addSources paid⟩,
      .bankSend a.feeRepayAddress [paid.coin]) d := by
  simp only [repayDebt, convertible, Bool.not_true, Bool.false_eq_true, ↓reduceIte]
  exact yields_bind.mpr ⟨paid, d, price, yields_pure.mpr ⟨rfl, rfl⟩⟩

theorem repayWith_idle {p : Progress}
    (idle : ¬ (mv.kind = .bankSend ∧ mv.funds ≠ [] ∧ p.account.feeDebt ≠ 0)) :
    repayWith e p mv = pure (p, []) := by
  unfold repayWith
  split
  next asset coins hkind hfunds =>
    have hzero : p.account.feeDebt = 0 := by
      by_contra howed
      exact idle ⟨hkind, by simp [hfunds], howed⟩
    rw [if_pos hzero]
  next => rfl

theorem yields_repayWith {c d : σ} {r : Response} {repayments : List Message}
    (h : Repays e a mv c b r repayments d) :
    Yields (repayWith e ⟨a, .empty⟩ mv) c (⟨b, r⟩, repayments) d := by
  cases h with
  | nothing idle =>
    rw [repayWith_idle idle]
    exact yields_pure.mpr ⟨rfl, rfl⟩
  | debt kind funds owed convertible price =>
    simp only [repayWith, kind, funds, if_neg owed]
    exact yields_bind.mpr ⟨_, _, yields_repayDebt convertible price, yields_pure.mpr ⟨rfl, rfl⟩⟩

variable [Json.Nesting]

/-- A message that can be read passes in every way that it may. -/
theorem yields_executeMessage {c d : σ} {r : Response} (movement : Movement.ofMessage m = .ok mv)
    (h : Passes e s a m c b r d) : Yields (executeMessage e s ⟨a, .empty⟩ m) c ⟨b, r⟩ d := by
  refine yields_bind.mpr ⟨mv, c, yields_lift.mpr ⟨movement, rfl⟩, ?_⟩
  cases h with
  | owner isOwner movement' repays =>
    obtain rfl := Except.ok.inj (movement.symm.trans movement')
    simp only [isOwner, ↓reduceIte]
    exact yields_bind.mpr ⟨_, _, yields_repayWith repays, yields_pure.mpr ⟨rfl, rfl⟩⟩
  | covered notOwner covered =>
    simp only [notOwner, ↓reduceIte]
    refine yields_bind.mpr ⟨true, c, yields_lift.mpr ⟨covered, rfl⟩, ?_⟩
    exact yields_pure.mpr ⟨rfl, rfl⟩
  | spent notOwner movement' uncovered priceable found valid repays debited numeral =>
    obtain rfl := Except.ok.inj (movement.symm.trans movement')
    simp only [notOwner, ↓reduceIte]
    refine yields_bind.mpr ⟨false, c, yields_lift.mpr ⟨uncovered, rfl⟩, ?_⟩
    refine yields_bind.mpr ⟨(), c, yields_lift.mpr ⟨priceable, rfl⟩, ?_⟩
    simp only [executeSpend, found]
    refine yields_bind.mpr ⟨(), c, yields_lift.mpr ⟨if_pos valid, rfl⟩, ?_⟩
    refine yields_bind.mpr ⟨_, _, yields_repayWith repays, ?_⟩
    refine yields_bind.mpr ⟨_, _, debited, ?_⟩
    exact yields_bind.mpr ⟨_, _, yields_lift.mpr ⟨numeral, rfl⟩, yields_pure.mpr ⟨rfl, rfl⟩⟩

end Account

end AllowanceProxy
