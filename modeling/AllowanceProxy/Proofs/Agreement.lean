import AllowanceProxy.Proofs.Debit
import AllowanceProxy.Proofs.Frame
import AllowanceProxy.Proofs.Operation

/-!
Two runs side by side. A batch reads of an account only what is in force for its sender, and of
the chain only the answers. So where these are the same for two accounts and two chains, the
outcome is the same, fault or not.
-/
namespace AllowanceProxy

variable {σ τ α β γ δ : Type}

namespace Asking

/-- Both fail with the same fault, or both succeed with related results. -/
inductive SameOutcome (R : α → β → Prop) : Except Error α → Except Error β → Prop where
  | ok {a : α} {b : β} (related : R a b) : SameOutcome R (.ok a) (.ok b)
  | error (err : Error) : SameOutcome R (.error err) (.error err)

theorem SameOutcome.eq {x y : Except Error α} (h : SameOutcome Eq x y) : x = y := by
  cases h with
  | ok related => rw [related]
  | error err => rfl

/-- Against related chains the two computations have the same outcome, up to a relation of their
results, and they leave related chains. -/
def Agree (S : σ → τ → Prop) (R : α → β → Prop) (x : Asking σ α) (y : Asking τ β) : Prop :=
  ∀ c d, S c d → SameOutcome R (x.ask c).1 (y.ask d).1 ∧ S (x.ask c).2 (y.ask d).2

section Agree

variable {S : σ → τ → Prop} {R : α → β → Prop} {Q : γ → δ → Prop} {x : Asking σ α}
  {y : Asking τ β}

theorem agree_pure {a : α} {b : β} (h : R a b) : Agree S R (pure a) (pure b) :=
  fun _ _ hs => ⟨.ok h, hs⟩

theorem agree_throw (err : Error) : Agree S R (throw err) (throw err) :=
  fun _ _ hs => ⟨.error err, hs⟩

theorem agree_lift (v : Except Error α) : Agree S Eq (lift v) (lift v) := by
  intro c d hs
  cases v with
  | error err => exact ⟨.error err, hs⟩
  | ok a => exact ⟨.ok rfl, hs⟩

theorem Agree.outcomes {c : σ} {d : τ} (h : Agree S R x y) (hs : S c d) :
    (∃ err c' d', x.ask c = (.error err, c') ∧ y.ask d = (.error err, d') ∧ S c' d') ∨
      ∃ a b c' d', x.ask c = (.ok a, c') ∧ y.ask d = (.ok b, d') ∧ R a b ∧ S c' d' := by
  have hxy := h c d hs
  rcases hx : x.ask c with ⟨v, c'⟩
  rcases hy : y.ask d with ⟨w, d'⟩
  rw [hx, hy] at hxy
  obtain ⟨hout, hs'⟩ := hxy
  cases hout with
  | error err => exact .inl ⟨err, c', d', rfl, rfl, hs'⟩
  | ok related => exact .inr ⟨_, _, c', d', rfl, rfl, related, hs'⟩

theorem agree_bind {f : α → Asking σ γ} {g : β → Asking τ δ} (h : Agree S R x y)
    (k : ∀ a b, R a b → Agree S Q (f a) (g b)) : Agree S Q (x >>= f) (y >>= g) := by
  intro c d hs
  rw [ask_bind, ask_bind]
  rcases h.outcomes hs with ⟨err, c', d', hx, hy, hs'⟩ | ⟨a, b, c', d', hx, hy, related, hs'⟩
  · rw [hx, hy]
    exact ⟨.error err, hs'⟩
  · rw [hx, hy]
    exact k a b related c' d' hs'

theorem agree_lift_bind (v : Except Error α) {f : α → Asking σ γ} {g : α → Asking τ δ}
    (k : ∀ a, Agree S Q (f a) (g a)) : Agree S Q (lift v >>= f) (lift v >>= g) := by
  refine agree_bind (agree_lift v) ?_
  rintro a _ rfl
  exact k a

/-- A success on one side is a success on the other. -/
theorem Agree.yields {c c' : σ} {d : τ} {a : α} (h : Agree S R x y) (hs : S c d)
    (hx : Yields x c a c') : ∃ b d', Yields y d b d' ∧ R a b ∧ S c' d' := by
  rcases h.outcomes hs with ⟨err, u, d', hx', -⟩ | ⟨a', b, u, d', hx', hy, related, hs'⟩
  · cases hx.symm.trans hx'
  · cases hx.symm.trans hx'
    exact ⟨b, d', hy, related, hs'⟩

end Agree

end Asking

open Asking

section Prices

variable {S : σ → τ → Prop}

/-- The chains answer alike as long as they are related, and they stay so. -/
structure Chain.Alike (S : σ → τ → Prop) (chain : Chain σ) (chain' : Chain τ) : Prop where
  answer : ∀ contract q c d, S c d →
    (chain'.query contract q d).1 = (chain.query contract q c).1
  next : ∀ contract q c d, S c d →
    S (chain.query contract q c).2 (chain'.query contract q d).2

/-- A steady chain answers alike at any two times. -/
theorem Chain.Steady.alike {chain : Chain σ} (h : chain.Steady) :
    chain.Alike (fun _ _ => True) chain where
  answer contract q c d _ := by
    obtain ⟨answer, hanswer⟩ := h
    rw [hanswer, hanswer]
  next _ _ _ _ _ := trivial

theorem Chain.Alike.agree_price {chain : Chain σ} {chain' : Chain τ} (h : chain.Alike S chain')
    (p : Pool) (n : Nat) (reversed target reverse : Bool) :
    Agree S Eq (chain.price p n reversed target reverse)
      (chain'.price p n reversed target reverse) := by
  intro c d hs
  rw [Chain.price, Chain.price, ask_mk, ask_mk]
  split
  next err hq => exact ⟨.error err, hs⟩
  next q hq =>
    have hnext := h.next p.contract q.wire c d hs
    simp only [h.answer p.contract q.wire c d hs]
    cases (chain.query p.contract q.wire c).1.bind q.interpret with
    | error err => exact ⟨.error _, hnext⟩
    | ok tally => exact ⟨.ok rfl, hnext⟩

/-- The converters have the same pools and the same reference, and their chains answer alike. -/
structure Converter.Alike (S : σ → τ → Prop) (c : Converter σ) (c' : Converter τ) : Prop where
  registry : c'.registry = c.registry
  reference : c'.reference = c.reference
  chain : c.chain.Alike S c'.chain

namespace Converter.Alike

variable {c : Converter σ} {c' : Converter τ} (h : c.Alike S c')
include h

theorem canConvert (denom : String) : c'.canConvert denom = c.canConvert denom := by
  unfold Converter.canConvert
  rw [h.registry, h.reference]

theorem agree_throughPool (x y : String) (n : Nat) (reverse : Bool) :
    Agree S Eq (c.throughPool x y n reverse) (c'.throughPool x y n reverse) := by
  unfold Converter.throughPool
  rw [h.registry]
  exact agree_lift_bind _ fun found => h.chain.agree_price _ _ _ _ _

theorem agree_convert (coin : Coin) (target : Bool) :
    Agree S Eq (c.convert coin target) (c'.convert coin target) := by
  unfold Converter.convert
  rw [h.reference]
  split
  · exact agree_lift _
  · split
    · exact h.agree_throughPool _ _ _ _
    · exact h.agree_throughPool _ _ _ _

/-- Coins have the same prices on both chains. -/
theorem prices {coins : List Coin} {xs : List Sourced} {s s' : σ} {t : τ}
    (hp : c.Prices coins s xs s') (hs : S s t) : ∃ t', c'.Prices coins t xs t' ∧ S s' t' := by
  induction hp generalizing t with
  | nil s => exact ⟨t, .nil t, hs⟩
  | cons first rest ih =>
    obtain ⟨x, u, hfirst, rfl, hu⟩ := (h.agree_convert _ false).yields hs first
    obtain ⟨t', hrest, ht'⟩ := ih hu
    exact ⟨t', .cons hfirst hrest, ht'⟩

theorem agree_tally (denom : String) (available : Nat) (sum : Sourced) (coins : List Coin) :
    Agree S Eq (Wallet.tally c denom available sum coins)
      (Wallet.tally c' denom available sum coins) := by
  induction coins generalizing sum with
  | nil => exact agree_pure rfl
  | cons coin coins ih =>
    refine agree_bind (h.agree_convert coin false) ?_
    rintro priced _ rfl
    simp only
    split
    · exact agree_throw _
    · exact ih _

theorem agree_quoteAll (w : Wallet) (coins : List Coin) (reset : Bool) :
    Agree S Eq (w.quoteAll c coins reset) (w.quoteAll c' coins reset) :=
  agree_lift_bind _ fun _ => h.agree_tally _ _ _ _

end Converter.Alike

end Prices

/-- The engines price in the same denomination, on chains that answer alike. -/
structure Engine.Alike (S : σ → τ → Prop) (e : Engine σ) (e' : Engine τ) : Prop where
  reference : e'.reference = e.reference
  chain : e.chain.Alike S e'.chain

namespace Account

/-- The accounts are the same in all that a batch of the sender `x` reads or writes. -/
structure LikeFor (x : String) (a b : Account) : Prop where
  owner : b.owner = a.owner
  rules : b.rules = a.rules
  pools : b.pools = a.pools
  feeDebt : b.feeDebt = a.feeDebt
  feeRepayAddress : b.feeRepayAddress = a.feeRepayAddress
  wallet : b.wallet? x = a.wallet? x

namespace LikeFor

variable {x : String} {a b : Account}

theorem refl (x : String) (a : Account) : LikeFor x a a := ⟨rfl, rfl, rfl, rfl, rfl, rfl⟩

variable (h : LikeFor x a b)
include h

theorem setDebt (n : Nat) : LikeFor x { a with feeDebt := n } { b with feeDebt := n } :=
  { h with feeDebt := rfl }

theorem setWallet (w : Wallet) : LikeFor x (a.setWallet w) (b.setWallet w) where
  owner := h.owner
  rules := h.rules
  pools := h.pools
  feeDebt := h.feeDebt
  feeRepayAddress := h.feeRepayAddress
  wallet := by
    by_cases hw : w.address = x
    · rw [wallet?_setWallet hw, wallet?_setWallet hw, h.wallet]
    · rw [wallet?_setWallet_of_ne hw, wallet?_setWallet_of_ne hw, h.wallet]

theorem coveredByRule [Json.Nesting] (m : Message) : b.coveredByRule x m = a.coveredByRule x m := by
  unfold Account.coveredByRule
  rw [h.rules, h.wallet]

theorem isOwner_iff (y : String) : b.IsOwner y ↔ a.IsOwner y := by
  unfold IsOwner
  rw [h.owner]

theorem converter {S : σ → τ → Prop} {e : Engine σ} {e' : Engine τ} (he : e.Alike S e') :
    (e.converter a).Alike S (e'.converter b) := ⟨h.pools, he.reference, he.chain⟩

end LikeFor

/-- The same response with accounts that are alike for a sender. -/
structure Progress.LikeFor (x : String) (p q : Progress) : Prop where
  account : p.account.LikeFor x q.account
  response : q.response = p.response

section Execution

variable {S : σ → τ → Prop} {e : Engine σ} {e' : Engine τ} {s : Sending} {p q : Progress}
  {m : Message} {mv : Movement}

theorem agree_repayDebt {x : String} (he : e.Alike S e') (hp : p.LikeFor x q) (asset : Coin) :
    Agree S (fun (p, m) (q, n) => p.LikeFor x q ∧ n = m) (repayDebt e p asset)
      (repayDebt e' q asset) := by
  have hconverter := hp.account.converter he
  simp only [repayDebt, hconverter.canConvert, hp.account.feeDebt, hp.response]
  split
  · exact agree_throw _
  · refine agree_bind (hconverter.agree_convert _ _) ?_
    rintro repayment _ rfl
    exact agree_pure ⟨⟨hp.account.setDebt 0, rfl⟩, by rw [hp.account.feeRepayAddress]⟩

theorem agree_repayWith {x : String} (he : e.Alike S e') (hp : p.LikeFor x q) (mv : Movement) :
    Agree S (fun (p, ms) (q, ns) => p.LikeFor x q ∧ ns = ms) (repayWith e p mv)
      (repayWith e' q mv) := by
  unfold repayWith
  rw [hp.account.feeDebt]
  split
  next asset coins hkind hfunds =>
    split
    · exact agree_pure ⟨hp, rfl⟩
    · refine agree_bind (agree_repayDebt he hp asset) ?_
      rintro ⟨p', repayment⟩ ⟨q', _⟩ ⟨hp', rfl⟩
      exact agree_pure ⟨hp', rfl⟩
  next => exact agree_pure ⟨hp, rfl⟩

theorem agree_executeAsOwner {x : String} (he : e.Alike S e') (hp : p.LikeFor x q) :
    Agree S (Progress.LikeFor x) (executeAsOwner e s p m mv) (executeAsOwner e' s q m mv) := by
  refine agree_bind (agree_repayWith he hp mv) ?_
  rintro ⟨p', repayments⟩ ⟨q', _⟩ ⟨hp', rfl⟩
  exact agree_pure ⟨hp'.account, by simp only [hp'.response]⟩

theorem agree_debit {x : String} {a b : Account} (he : e.Alike S e') (ha : a.LikeFor x b)
    (w : Wallet) (now : Int) (coins : List Coin) :
    Agree S Eq (debit e a w now coins) (debit e' b w now coins) := by
  rw [debit_eq, debit_eq]
  refine agree_lift_bind _ fun v => agree_bind ((ha.converter he).agree_quoteAll v coins false) ?_
  rintro total _ rfl
  exact agree_lift _

theorem agree_executeSpend (he : e.Alike S e') (hp : p.LikeFor s.sender q) :
    Agree S (Progress.LikeFor s.sender) (executeSpend e s p m mv)
      (executeSpend e' s q m mv) := by
  unfold executeSpend
  rw [hp.account.wallet, he.reference]
  split
  next => exact agree_throw _
  next w hw =>
    refine agree_lift_bind _ fun _ => agree_bind (agree_repayWith he hp mv) ?_
    rintro ⟨p', repayments⟩ ⟨q', _⟩ ⟨hp', rfl⟩
    refine agree_bind (agree_debit he hp'.account w s.now mv.funds) ?_
    rintro ⟨v, reduction⟩ _ rfl
    refine agree_lift_bind _ fun amount => agree_pure ⟨hp'.account.setWallet v, ?_⟩
    simp only [hp'.response]

variable [Json.Nesting]

theorem agree_executeAsOther (he : e.Alike S e') (hp : p.LikeFor s.sender q) :
    Agree S (Progress.LikeFor s.sender) (executeAsOther e s p m mv)
      (executeAsOther e' s q m mv) := by
  unfold executeAsOther
  rw [hp.account.coveredByRule]
  refine agree_lift_bind _ fun covered => ?_
  split
  · exact agree_pure ⟨hp.account, by simp only [hp.response]⟩
  · exact agree_lift_bind _ fun _ => agree_executeSpend he hp

theorem agree_executeMessage (he : e.Alike S e') (hp : p.LikeFor s.sender q) :
    Agree S (Progress.LikeFor s.sender) (executeMessage e s p m) (executeMessage e' s q m) := by
  refine agree_lift_bind _ fun mv => ?_
  simp only [hp.account.isOwner_iff]
  split
  · exact agree_executeAsOwner he hp
  · exact agree_executeAsOther he hp

theorem agree_executeAll (he : e.Alike S e') (hp : p.LikeFor s.sender q) (ms : List Message) :
    Agree S (Progress.LikeFor s.sender) (executeAll e s p ms) (executeAll e' s q ms) := by
  induction ms generalizing p q with
  | nil => exact agree_pure hp
  | cons m ms ih => exact agree_bind (agree_executeMessage he hp) fun _ _ hp' => ih hp'

/-- A batch of a sender has the same outcome on accounts that are alike for that sender, and it
leaves them so. -/
theorem LikeFor.run_execute {a b : Account} {c : σ} {d : τ} (ha : a.LikeFor s.sender b)
    (he : e.Alike S e') (hs : S c d) (ms : List Message) :
    ((execute e' b s ms).run d).run.1.1 = ((execute e a s ms).run c).run.1.1 ∧
      ((execute e a s ms).run c).run.1.2.LikeFor s.sender
        ((execute e' b s ms).run d).run.1.2 ∧
      S ((execute e a s ms).run c).run.2 ((execute e' b s ms).run d).run.2 := by
  have hall := agree_executeAll he (p := ⟨a, .empty⟩) (q := ⟨b, .empty⟩) ⟨ha, rfl⟩ ms
  rw [Account.run_execute, Account.run_execute]
  rcases hall.outcomes hs with ⟨err, c', d', hp, hq, hs'⟩ | ⟨p, q, c', d', hp, hq, related, hs'⟩
  · rw [hp, hq]
    exact ⟨rfl, ha, hs'⟩
  · rw [hp, hq]
    exact ⟨congrArg Except.ok related.response, related.account, hs'⟩

end Execution

end Account

end AllowanceProxy
