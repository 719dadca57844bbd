import AllowanceProxy.Proofs.Agreement
import AllowanceProxy.Proofs.Repayment
import AllowanceProxy.Proofs.Spacing

/-!
Permissions are monotone. More rules, or more to spend, never turn an accepted batch into a
refused one. A call that a new rule covers is no longer debited, so that the two wallets part, also
in when they are refilled; what stays is that one of them can use at least as much as the other.
-/
namespace AllowanceProxy

open Asking Account

variable {σ : Type}

namespace Wallet

variable {v v' w w' : Wallet} {l : SpendLimit} {ls : List SpendLimit} {now t : Int} {n : Nat}

/-- What a debit leaves, with the debit itself, is all that could be used at that moment. -/
theorem Books.available (h : w.Books now n w') (hl : w.limits = l :: ls) :
    ∃ left, w'.limits = { l with remaining := left } :: ls ∧
      left + n = Wallet.available l (w.dueReset now) := by
  obtain ⟨left, hl', hsum⟩ := h.limits hl
  exact ⟨left, hl', by simpa [Wallet.available, dueReset] using hsum⟩

/-- A period that just started is not due. -/
theorem Books.dueReset (h : w.Books now n w') (positive : 1 ≤ w.multiple) :
    w'.dueReset now = false := by
  have hle : now ≤ w'.nextReset := by
    rcases h.nextReset with ⟨hearly, hsame⟩ | ⟨-, hnext⟩
    · omega
    · have hlt := lt_resetAfter positive hnext
      omega
  simpa [Wallet.dueReset] using hle

/-- Whatever can be used can be debited, if a period that is due has a next reset. -/
theorem exists_books (hl : w.limits = l :: ls) (fits : n ≤ Wallet.available l (w.dueReset now))
    (next : w.dueReset now = true → ∃ t, w.resetAfter now = .ok t) :
    ∃ w', w.Books now n w' := by
  cases hdue : w.dueReset now with
  | false =>
    rw [hdue] at fits
    exact ⟨_, .within hl (by simpa [Wallet.dueReset] using hdue) fits⟩
  | true =>
    obtain ⟨t, ht⟩ := next hdue
    rw [hdue] at fits
    exact ⟨_, .anew hl (by simpa [Wallet.dueReset] using hdue) ht fits⟩

theorem resetAfter_congr (unit : w.unit = v.unit) (multiple : w.multiple = v.multiple)
    (now : Int) : w.resetAfter now = v.resetAfter now := by
  unfold resetAfter
  rw [unit, multiple]

/-- At a moment, `w` can be debited whatever `v` can. Both have one limit and the same period, but
one of them may have been refilled while the other one is still due. -/
structure Affords (now : Int) (v w : Wallet) : Prop where
  wellFormed : w.WellFormed
  unit : w.unit = v.unit
  multiple : w.multiple = v.multiple
  limits : ∃ k l, v.limits = [k] ∧ w.limits = [l] ∧ k.amount ≤ l.amount ∧
    Wallet.available k (v.dueReset now) ≤ Wallet.available l (w.dueReset now)
  next : w.dueReset now = true → v.dueReset now = true ∨ ∃ t, v.resetAfter now = .ok t

namespace Affords

theorem exists_resetAfter (h : Affords now v w) (hv : v.Books now n v')
    (due : w.dueReset now = true) : ∃ t, w.resetAfter now = .ok t := by
  rw [resetAfter_congr h.unit h.multiple now]
  rcases h.next due with hdue | hnext
  · cases hv with
    | within limits early fits =>
      simp only [dueReset, decide_eq_true_eq] at hdue
      omega
    | anew limits late next fits => exact ⟨_, next⟩
  · exact hnext

/-- The second wallet still affords it if nothing is debited from it. -/
theorem spares (h : Affords now v w) (hv : v.Books now n v') : Affords now v' w := by
  obtain ⟨left, hstanding⟩ := hv.eq_withStanding
  have hunit : v'.unit = v.unit := by rw [hstanding, unit_withStanding]
  have hmultiple : v'.multiple = v.multiple := by rw [hstanding, multiple_withStanding]
  obtain ⟨k, l, hk, hl, hamount, havailable⟩ := h.limits
  obtain ⟨rest, hk', hsum⟩ := hv.available hk
  have hdue := hv.dueReset (h.multiple ▸ h.wellFormed.multiple_pos)
  refine ⟨h.wellFormed, h.unit.trans hunit.symm, h.multiple.trans hmultiple.symm,
    ⟨_, l, hk', hl, hamount, ?_⟩, fun due => .inr ?_⟩
  · rw [hdue]
    simp only [Wallet.available, Bool.false_eq_true, ↓reduceIte] at *
    omega
  · obtain ⟨t, ht⟩ := h.exists_resetAfter hv due
    exact ⟨t, by rw [resetAfter_congr hunit hmultiple, ← resetAfter_congr h.unit h.multiple, ht]⟩

/-- The second wallet can be debited the same, and afterwards it affords as much as before. -/
theorem spends (h : Affords now v w) (hv : v.Books now n v') :
    ∃ w', w.Books now n w' ∧ Affords now v' w' := by
  obtain ⟨k, l, hk, hl, hamount, havailable⟩ := h.limits
  obtain ⟨rest, hk', hsum⟩ := hv.available hk
  obtain ⟨w', hw⟩ := exists_books (n := n) hl (by omega) (h.exists_resetAfter hv)
  obtain ⟨left, hstanding⟩ := hw.eq_withStanding
  obtain ⟨rest', hl', hsum'⟩ := hw.available hl
  have hlike := h.spares hv
  have hdue := hw.dueReset h.wellFormed.multiple_pos
  have hdue' := hv.dueReset (h.multiple ▸ h.wellFormed.multiple_pos)
  refine ⟨w', hw, hw.wellFormed h.wellFormed, ?_, ?_, ⟨_, _, hk', hl', hamount, ?_⟩, ?_⟩
  · rw [hstanding, unit_withStanding, hlike.unit]
  · rw [hstanding, multiple_withStanding, hlike.multiple]
  · rw [hdue, hdue']
    simp only [Wallet.available, Bool.false_eq_true, ↓reduceIte] at *
    omega
  · intro due
    rw [hdue] at due
    cases due

end Affords

/-- `w` is `v` with more rules of its own and, if `v` is valid, with a limit that is at least as
high and of which at least as much is left. -/
structure Widened (reference : String) (v w : Wallet) : Prop where
  nextReset : w.nextReset = v.nextReset
  unit : w.unit = v.unit
  multiple : w.multiple = v.multiple
  isDefaultLimit : w.isDefaultLimit = v.isDefaultLimit
  rules : v.ownRules ⊆ w.ownRules
  limits : v.IsValid reference → ∃ k l, v.limits = [k] ∧ w.limits = [l] ∧ l.denom = k.denom ∧
    k.amount ≤ l.amount ∧ k.remaining ≤ l.remaining

namespace Widened

variable {reference : String} (h : v.Widened reference w) (valid : v.IsValid reference)
include h valid

theorem isValid : w.IsValid reference := by
  obtain ⟨k, l, hk, hl, hdenom, -⟩ := h.limits valid
  have hdenoms := valid.2
  rw [hk] at hdenoms
  refine ⟨h.isDefaultLimit.trans valid.1, ?_⟩
  rw [hl, List.map_cons, hdenom]
  exact hdenoms

theorem affords (wellFormed : w.WellFormed) (now : Int) : v.Affords now w := by
  obtain ⟨k, l, hk, hl, -, hamount, hremaining⟩ := h.limits valid
  have hdue : w.dueReset now = v.dueReset now := by rw [dueReset, dueReset, h.nextReset]
  refine ⟨wellFormed, h.unit, h.multiple, ⟨k, l, hk, hl, hamount, ?_⟩, fun due => .inl ?_⟩
  · rw [hdue]
    unfold Wallet.available
    split
    · exact hamount
    · exact hremaining
  · rw [← hdue, due]

end Widened

end Wallet

namespace Account

/-- `b` has the pools, the debt and the owner of `a`, at least its rules, and a wallet of the sender
that is widened. Whatever else there is in them may differ. -/
structure Widened (reference sender : String) (a b : Account) : Prop where
  owner : b.owner = a.owner
  pools : b.pools = a.pools
  feeDebt : b.feeDebt = a.feeDebt
  feeRepayAddress : b.feeRepayAddress = a.feeRepayAddress
  rules : a.rules ⊆ b.rules
  wallet : ∀ v, a.wallet? sender = some v →
    ∃ w, b.wallet? sender = some w ∧ v.Widened reference w

variable [Json.Nesting]

/-- In the course of a batch at a moment, `b` lets the sender do whatever `a` does. -/
structure Supports (reference sender : String) (now : Int) (a b : Account) : Prop where
  owner : b.owner = a.owner
  pools : b.pools = a.pools
  feeDebt : b.feeDebt = a.feeDebt
  feeRepayAddress : b.feeRepayAddress = a.feeRepayAddress
  covers : ∀ m : Message, m.Covered a sender → m.Covered b sender
  wallet : ∀ v, a.wallet? sender = some v → v.IsValid reference →
    ∃ w, b.wallet? sender = some w ∧ w.IsValid reference ∧ v.Affords now w

section Supports

variable {reference sender : String} {now : Int} {a a' b b' : Account} {m : Message}

theorem Widened.covers (h : Widened reference sender a b) (hm : m.Covered a sender) :
    m.Covered b sender := by
  obtain ⟨contract, msg, name, fields, rule, rfl, hnamed, hmem, hcovers⟩ := hm
  refine ⟨contract, msg, name, fields, rule, rfl, hnamed, ?_, hcovers⟩
  rw [List.mem_append] at hmem ⊢
  refine hmem.imp (fun hrule => h.rules hrule) fun hown => ?_
  cases hv : a.wallet? sender with
  | none => simp [hv] at hown
  | some v =>
    obtain ⟨w, hw, hwidened⟩ := h.wallet v hv
    rw [hv] at hown
    rw [hw]
    exact hwidened.rules hown

theorem Widened.supports (h : Widened reference sender a b)
    (wellFormed : ∀ w, b.wallet? sender = some w → w.WellFormed) (now : Int) :
    Supports reference sender now a b where
  owner := h.owner
  pools := h.pools
  feeDebt := h.feeDebt
  feeRepayAddress := h.feeRepayAddress
  covers _ hm := h.covers hm
  wallet v hv valid := by
    obtain ⟨w, hw, hwidened⟩ := h.wallet v hv
    exact ⟨w, hw, hwidened.isValid valid, hwidened.affords valid (wellFormed w hw) now⟩

/-- What spending leaves, as long as the debts and the wallets keep up. -/
theorem Supports.after (h : Supports reference sender now a b) (ha : SpentBy sender a a')
    (hb : SpentBy sender b b') (debt : b'.feeDebt = a'.feeDebt)
    (wallet : ∀ v, a'.wallet? sender = some v → v.IsValid reference →
      ∃ w, b'.wallet? sender = some w ∧ w.IsValid reference ∧ v.Affords now w) :
    Supports reference sender now a' b' where
  owner := by rw [hb.owner, ha.owner, h.owner]
  pools := by rw [hb.pools, ha.pools, h.pools]
  feeDebt := debt
  feeRepayAddress := by
    rw [hb.frame, ha.frame]
    exact h.feeRepayAddress
  covers _ hm := hb.covered_iff.mpr (h.covers _ (ha.covered_iff.mp hm))
  wallet := wallet

end Supports

section Execution

variable {e : Engine σ} {s : Sending} {a a' b : Account} {m : Message} {ms : List Message}
  {mv : Movement} {r : Response} {repayments : List Message} {c d : σ}

theorem Supports.converter (h : Supports e.reference s.sender s.now a b)
    (steady : e.chain.Steady) : (e.converter a).Alike (fun _ _ => True) (e.converter b) :=
  ⟨h.pools, rfl, steady.alike⟩

/-- The same debt is repaid by the same message. -/
theorem Repays.supported (h : Repays e a mv c a' r repayments d) (steady : e.chain.Steady)
    (hb : Supports e.reference s.sender s.now a b) (c' : σ) :
    ∃ d', Repays e b mv c' { b with feeDebt := a'.feeDebt } r repayments d' := by
  have hconverter := hb.converter steady
  cases h with
  | nothing idle =>
    rw [← hb.feeDebt] at idle ⊢
    exact ⟨c', .nothing idle⟩
  | debt kind funds owed convertible price =>
    rw [← hconverter.canConvert] at convertible
    obtain ⟨paid, d', hprice, rfl, -⟩ :=
      (hconverter.agree_convert _ true).yields (d := c') trivial price
    rw [← hb.feeDebt] at owed hprice
    rw [← hb.feeRepayAddress]
    exact ⟨d', .debt kind funds owed convertible hprice⟩

/-- A message that passes also passes for the account that supports it, and it forwards the same;
the sender is then still supported. -/
theorem Passes.supported (h : Passes e s a m c a' r d) (movement : Movement.ofMessage m = .ok mv)
    (steady : e.chain.Steady) (hb : Supports e.reference s.sender s.now a b) (c' : σ) :
    ∃ b' r' d', Passes e s b m c' b' r' d' ∧ r'.messages = r.messages ∧
      Supports e.reference s.sender s.now a' b' := by
  have hspent := h.spentBy
  have howner : b.IsOwner s.sender ↔ a.IsOwner s.sender := by rw [IsOwner, IsOwner, hb.owner]
  cases h with
  | owner isOwner movement' repays =>
    obtain ⟨d', hrepays⟩ := repays.supported steady hb c'
    have hpasses := Passes.owner (s := s) (howner.mpr isOwner) movement' hrepays
    refine ⟨_, _, d', hpasses, rfl, hb.after hspent hpasses.spentBy rfl ?_⟩
    obtain ⟨n, rfl⟩ := repays.eq_setDebt
    exact hb.wallet
  | covered notOwner covered =>
    have hcovered := coveredByRule_of_covered (hb.covers m (covered_of_coveredByRule covered))
    exact ⟨b, _, c', .covered (howner.not.mpr notOwner) hcovered, rfl, hb⟩
  | @spent mv' v v' a₁ r repayments d d' out amount notOwner movement' uncovered priceable found
      valid repays debited numeral =>
    obtain ⟨xs, hprices, hbooks, hout, -⟩ := debit_yields debited
    obtain ⟨w, hw, hvalid, haffords⟩ := hb.wallet v found valid
    have hfound := repays.wallet?_setWallet found hbooks
    have honly : ∀ u, (a₁.setWallet v').wallet? s.sender = some u → u = v' := fun u hu =>
      Option.some.inj (hu.symm.trans hfound)
    obtain ⟨covered, hcovered⟩ := exists_coveredByRule uncovered b
    cases covered with
    | true =>
      -- A call that a rule covers repays nothing, and only the first account is debited.
      obtain ⟨contract, msg, -, -, -, rfl, -⟩ := covered_of_coveredByRule hcovered
      obtain ⟨rfl, hdebt⟩ := repays.untouched movement' (.inr rfl)
      have hpasses := Passes.covered (e := e) (c := c') (howner.not.mpr notOwner) hcovered
      refine ⟨b, _, c', hpasses, ?_, hb.after hspent (.refl s.sender b) ?_ ?_⟩
      · simp [repays.messages, Response.empty]
      · exact hb.feeDebt.trans hdebt.symm
      · intro u hu _
        obtain rfl := honly u hu
        exact ⟨w, hw, hvalid, haffords.spares hbooks⟩
    | false =>
      obtain ⟨u, hrepays⟩ := repays.supported steady hb c'
      obtain ⟨w', hbooks', haffords'⟩ := haffords.spends hbooks
      rw [(repays.spentBy s.sender).converter] at hprices
      obtain ⟨u', hprices', -⟩ := (hb.converter steady).prices (t := u) hprices trivial
      obtain ⟨out', hdebited, hamount, -⟩ :=
        yields_debit haffords.wellFormed.limits hprices' hbooks'
      have hnumeral : Error.numeralOf out'.coin.amount = .ok amount := by
        rw [hamount, ← hout, numeral]
      have hpasses := Passes.spent (howner.not.mpr notOwner) movement' hcovered priceable hw hvalid
        hrepays hdebited hnumeral
      refine ⟨_, _, u', hpasses, rfl, hb.after hspent hpasses.spentBy rfl ?_⟩
      intro x hx _
      obtain rfl := honly x hx
      obtain ⟨left, hstanding⟩ := hbooks'.eq_withStanding
      refine ⟨w', hrepays.wallet?_setWallet hw hbooks', ?_, haffords'⟩
      rw [hstanding]
      exact (w.isValid_withStanding _ _ _).mpr hvalid

theorem executeMessage_supported (steady : e.chain.Steady)
    (hb : Supports e.reference s.sender s.now a b)
    (h : Yields (executeMessage e s ⟨a, .empty⟩ m) c ⟨a', r⟩ d) (c' : σ) :
    ∃ b' r' d', Yields (executeMessage e s ⟨b, .empty⟩ m) c' ⟨b', r'⟩ d' ∧
      r'.messages = r.messages ∧ Supports e.reference s.sender s.now a' b' := by
  obtain ⟨mv, u, hlift, -⟩ := yields_bind.mp h
  obtain ⟨hmovement, -⟩ := yields_lift.mp hlift
  obtain ⟨b', r', d', hpasses, hmessages, hb'⟩ :=
    (executeMessage_yields h).supported hmovement steady hb c'
  exact ⟨b', r', d', yields_executeMessage hmovement hpasses, hmessages, hb'⟩

theorem executeAll_supported (steady : e.chain.Steady)
    (hb : Supports e.reference s.sender s.now a b)
    (h : Yields (executeAll e s ⟨a, .empty⟩ ms) c ⟨a', r⟩ d) (c' : σ) :
    ∃ b' r' d', Yields (executeAll e s ⟨b, .empty⟩ ms) c' ⟨b', r'⟩ d' ∧
      r'.messages = r.messages := by
  induction ms generalizing a b r c c' with
  | nil =>
    obtain ⟨hp, -⟩ := yields_pure.mp h
    obtain ⟨rfl, rfl⟩ := Progress.mk.inj hp
    exact ⟨b, .empty, c', yields_pure.mpr ⟨rfl, rfl⟩, rfl⟩
  | cons m ms ih =>
    rw [← List.singleton_append] at h ⊢
    obtain ⟨r₁, a₁, c₁, r₂, hfirst, hrest, rfl⟩ := yields_executeAll_append.mp h
    rw [executeAll_singleton] at hfirst
    obtain ⟨b₁, r₁', u, hfirst', hmessages₁, hb₁⟩ :=
      executeMessage_supported steady hb hfirst c'
    obtain ⟨b', r₂', d', hrest', hmessages₂⟩ := ih hb₁ hrest u
    rw [← executeAll_singleton] at hfirst'
    refine ⟨b', r₁' ++ r₂', d', ?_, ?_⟩
    · exact yields_executeAll_append.mpr ⟨r₁', b₁, u, r₂', hfirst', hrest', rfl⟩
    · rw [Response.messages_append, Response.messages_append, hmessages₁, hmessages₂]

/-- On a steady chain, a batch that is accepted is also accepted by an account with more rules for
its sender and a wider wallet, at any time of the chain. The same messages are forwarded. -/
theorem execute_monotone (steady : e.chain.Steady) (widened : Widened e.reference s.sender a b)
    (wellFormed : ∀ w, b.wallet? s.sender = some w → w.WellFormed)
    (accepted : ((execute e a s ms).run c).run = ((.ok r, a'), d)) (c' : σ) :
    ∃ r' b' d', ((execute e b s ms).run c').run = ((.ok r', b'), d') ∧
      r'.messages = r.messages := by
  have hb := widened.supports wellFormed s.now
  obtain ⟨b', r', d', hyields, hmessages⟩ :=
    executeAll_supported steady hb (run_execute_eq_ok.mp accepted) c'
  exact ⟨r', b', d', run_execute_eq_ok.mpr hyields, hmessages⟩

end Execution

end Account

namespace Sample

/-- A transfer of tokens that are as good as the reference denomination. -/
def transfer : Message :=
  .wasmExecute "uusd" "\x7b\"transfer\": \x7b\"recipient\": \"shop\", \"amount\": \"10\"\x7d\x7d" []

/-- The account with a rule for the transfer, and with a wider wallet. -/
def wider : Account :=
  { account with
    wallets := [{ wallet with limits := [⟨"uusd", 60, 25⟩], rules := some [] }]
    rules := account.rules ++ [⟨"spender", "uusd", "transfer", none⟩] }

theorem widened : Account.Widened "uusd" "spender" account wider where
  owner := rfl
  pools := rfl
  feeDebt := rfl
  feeRepayAddress := rfl
  rules := List.subset_append_left _ _
  wallet v hv := by
    obtain rfl : wallet = v := Option.some.inj hv
    refine ⟨_, rfl, rfl, rfl, rfl, rfl, List.Subset.refl [], fun _ => ?_⟩
    exact ⟨_, _, rfl, rfl, rfl, by decide, by decide⟩

end Sample

/-- The first transfer is debited from one wallet only, which is refilled earlier than the other. -/
theorem Account.execute_monotone_wider :
    ∃ r a r' b, ((execute Sample.engine Sample.account Sample.late
        [Sample.transfer, Sample.send 30]).run ()).run = ((.ok r, a), ()) ∧
      ((execute Sample.engine Sample.wider Sample.late
        [Sample.transfer, Sample.send 30]).run ()).run = ((.ok r', b), ()) ∧
      r'.messages = r.messages ∧ r.reductions = [10, 30] ∧ r'.reductions = [30] := by
  have hnarrow : ((execute Sample.engine Sample.account Sample.late
      [Sample.transfer, Sample.send 30]).run ()).run.1.1.toOption.map Response.reductions =
        some [10, 30] := by decide +kernel
  have hwide : ((execute Sample.engine Sample.wider Sample.late
      [Sample.transfer, Sample.send 30]).run ()).run.1.1.toOption.map Response.reductions =
        some [30] := by decide +kernel
  have hwellFormed : ∀ w, Sample.wider.wallet? "spender" = some w → w.WellFormed := by
    intro w hw
    obtain rfl := Option.some.inj hw
    exact ⟨by decide, by decide, by decide⟩
  rcases h : ((execute Sample.engine Sample.account Sample.late
    [Sample.transfer, Sample.send 30]).run ()).run with ⟨⟨_ | r, a⟩, ⟨⟩⟩
  · rw [h] at hnarrow
    cases hnarrow
  · obtain ⟨r', b, ⟨⟩, h', hmessages⟩ :=
      execute_monotone Chain.steady_silent Sample.widened hwellFormed h ()
    rw [h] at hnarrow
    rw [h'] at hwide
    exact ⟨r, a, r', b, rfl, h', hmessages, Option.some.inj hnarrow, Option.some.inj hwide⟩

end AllowanceProxy
