import AllowanceProxy.Proofs.Period

/-!
Debits. The coins of a spend are priced one after another, and the wallet is debited the sum of
the prices: from what is left of its limit or, past its reset, from the full limit of a new
period.
-/
namespace AllowanceProxy

open Asking

variable {σ : Type}

/-- What amounts come to together. -/
def Sourced.total : List Sourced → Nat
  | [] => 0
  | x :: xs => x.coin.amount + Sourced.total xs

@[simp] theorem Sourced.total_nil : Sourced.total [] = 0 := rfl

@[simp] theorem Sourced.total_cons (x : Sourced) (xs : List Sourced) :
    Sourced.total (x :: xs) = x.coin.amount + Sourced.total xs := rfl

/-- What the coins are worth in the reference denomination: every one of them is converted, in
order, and the chain moves on from one conversion to the next. -/
inductive Converter.Prices (c : Converter σ) : List Coin → σ → List Sourced → σ → Prop where
  | nil (s : σ) : Prices c [] s [] s
  | cons {coin : Coin} {coins : List Coin} {s t u : σ} {x : Sourced} {xs : List Sourced}
      (first : Yields (c.convert coin false) s x t) (rest : Prices c coins t xs u) :
      Prices c (coin :: coins) s (x :: xs) u

namespace Wallet

variable {w w' : Wallet} {c : Converter σ} {coins : List Coin} {s t : σ} {out : Sourced}

theorem tally_yields {denom : String} {available : Nat} {sum : Sourced}
    (hd : sum.coin.denom = denom) (hs : sum.coin.amount ≤ available)
    (h : Yields (tally c denom available sum coins) s out t) :
    ∃ xs, c.Prices coins s xs t ∧ sum.coin.amount + Sourced.total xs ≤ available ∧
      out = ⟨⟨denom, sum.coin.amount + Sourced.total xs⟩,
        sum.sources ++ xs.flatMap Sourced.sources⟩ := by
  induction coins generalizing sum s with
  | nil =>
    obtain ⟨rfl, rfl⟩ := yields_pure.mp h
    subst hd
    exact ⟨[], .nil s, hs, by simp⟩
  | cons coin coins ih =>
    obtain ⟨x, u, hx, h⟩ := yields_bind.mp h
    simp only at h
    split at h
    next => simp at h
    next hle =>
      have hsum : (sum.merge x ⟨denom, sum.coin.amount + x.coin.amount⟩).coin.amount ≤
          available := Nat.not_lt.mp hle
      obtain ⟨xs, hp, hb, rfl⟩ := ih rfl hsum h
      simp only [Sourced.merge, Nat.add_assoc] at hb
      exact ⟨x :: xs, .cons hx hp, hb, by simp [Sourced.merge, Nat.add_assoc]⟩

theorem quoteAll_yields (h : Yields (w.quoteAll c coins false) s out t) :
    ∃ l ls xs, w.limits = l :: ls ∧ c.Prices coins s xs t ∧ Sourced.total xs ≤ l.remaining ∧
      out = ⟨⟨l.denom, Sourced.total xs⟩, xs.flatMap Sourced.sources⟩ := by
  obtain ⟨l, u, hlift, h⟩ := yields_bind.mp h
  obtain ⟨hl, rfl⟩ := yields_lift.mp hlift
  obtain ⟨ls, hls⟩ := limit_eq_ok.mp hl
  have hd : (nothing l.denom).coin.denom = l.denom := rfl
  obtain ⟨xs, hp, hb, rfl⟩ := tally_yields hd (Nat.zero_le _) h
  refine ⟨l, ls, xs, hls, hp, ?_, by simp [nothing]⟩
  simpa [nothing, available] using hb

theorem run_debitAll_of_error {err : Error}
    (failed : (w.quoteAll c coins false).ask s = (.error err, t)) :
    ((w.debitAll c coins).run s).run = ((.error err, w), t) := by
  rw [debitAll, run_bind_ask, failed]
  rfl

theorem run_debitAll_of_ok {l : SpendLimit} {ls : List SpendLimit} {x : Sourced}
    (limits : w.limits = l :: ls) (wellFormed : l.WellFormed)
    (priced : Yields (w.quoteAll c coins false) s x t) :
    ((w.debitAll c coins).run s).run =
      ((.ok x, w.withStanding w.nextReset (l.remaining - x.coin.amount)), t) := by
  have hquote : (w.quoteAll c coins false).ask s = (.ok x, t) := priced
  have hset := setRemaining_of_le limits (wellFormed.sub_le x.coin.amount)
  rw [debitAll, run_bind_ask, hquote]
  simp only [limit_eq_ok.mpr ⟨ls, limits⟩, hset]
  rfl

theorem debitAll_ok (h : ((w.debitAll c coins).run s).run = ((.ok out, w'), t)) :
    ∃ l ls xs, w.limits = l :: ls ∧ c.Prices coins s xs t ∧ Sourced.total xs ≤ l.remaining ∧
      out = ⟨⟨l.denom, Sourced.total xs⟩, xs.flatMap Sourced.sources⟩ ∧
      w' = w.withStanding w.nextReset (l.remaining - Sourced.total xs) := by
  rcases hq : (w.quoteAll c coins false).ask s with ⟨_ | total, u⟩
  · rw [run_debitAll_of_error hq] at h
    cases h
  · obtain ⟨l, ls, xs, hl, hp, hb, rfl⟩ := quoteAll_yields hq
    rw [debitAll, run_bind_ask, hq] at h
    simp only [limit, hl] at h
    split at h
    · cases h
    next v hv =>
      obtain ⟨-, -, -, -, rfl⟩ := setRemaining_ok hv
      cases h
      exact ⟨l, ls, xs, hl, hp, hb, rfl, rfl⟩

/-- Debits a total from what is left of the limit. -/
def deduct (w : Wallet) (total : Sourced) : Except Error (Wallet × Sourced) :=
  match w.limit with
  | .error err => .error err
  | .ok l =>
    match w.setRemaining (l.remaining - total.coin.amount) with
    | (.ok _, w) => .ok (w, total)
    | (.error err, _) => .error err

/-- A total of prices that stays available is reached. -/
theorem yields_tally {xs : List Sourced} {denom : String} {available : Nat} {sum : Sourced}
    (hd : sum.coin.denom = denom) (h : c.Prices coins s xs t)
    (fits : sum.coin.amount + Sourced.total xs ≤ available) :
    Yields (tally c denom available sum coins) s ⟨⟨denom, sum.coin.amount + Sourced.total xs⟩,
      sum.sources ++ xs.flatMap Sourced.sources⟩ t := by
  induction h generalizing sum with
  | nil s =>
    subst hd
    exact yields_pure.mpr ⟨by simp, rfl⟩
  | @cons coin coins s t u x xs first rest ih =>
    rw [Sourced.total_cons] at fits
    refine yields_bind.mpr ⟨x, t, first, ?_⟩
    have hnow : ¬ available < sum.coin.amount + x.coin.amount := by omega
    have hlater : (sum.merge x ⟨denom, sum.coin.amount + x.coin.amount⟩).coin.amount +
        Sourced.total xs ≤ available := by
      simp only [Sourced.merge]
      omega
    simpa [hnow, Sourced.merge, Nat.add_assoc] using ih rfl hlater

theorem yields_quoteAll {xs : List Sourced} {l : SpendLimit} {ls : List SpendLimit}
    (limits : w.limits = l :: ls) (h : c.Prices coins s xs t)
    (fits : Sourced.total xs ≤ l.remaining) :
    Yields (w.quoteAll c coins false) s
      ⟨⟨l.denom, Sourced.total xs⟩, xs.flatMap Sourced.sources⟩ t := by
  refine yields_bind.mpr ⟨l, s, yields_lift.mpr ⟨limit_eq_ok.mpr ⟨ls, limits⟩, rfl⟩, ?_⟩
  have hfits : (nothing l.denom).coin.amount + Sourced.total xs ≤ l.remaining := by
    simpa [nothing] using fits
  simpa [nothing, available] using yields_tally rfl h hfits

/-- A debit of an amount at a moment: from what is left of the limit, or past the reset from the
full limit of a new period. Nothing else of the wallet changes. -/
inductive Books (now : Int) (amount : Nat) (w : Wallet) : Wallet → Prop where
  | within {l : SpendLimit} {ls : List SpendLimit} (limits : w.limits = l :: ls)
      (early : now ≤ w.nextReset) (fits : amount ≤ l.remaining) :
      Books now amount w (w.withStanding w.nextReset (l.remaining - amount))
  | anew {l : SpendLimit} {ls : List SpendLimit} {t : Int} (limits : w.limits = l :: ls)
      (late : w.nextReset < now) (next : w.resetAfter now = .ok t) (fits : amount ≤ l.amount) :
      Books now amount w (w.withStanding t (l.amount - amount))

end Wallet

namespace Account

open Wallet

variable {w w' : Wallet} {now : Int} {coins : List Coin} {s t : σ} {out : Sourced}

theorem rollOverIfDue_ok (h : rollOverIfDue w now = .ok w') :
    now ≤ w.nextReset ∧ w' = w ∨
      ∃ t l ls, w.nextReset < now ∧ w.resetAfter now = .ok t ∧ w.limits = l :: ls ∧
        w' = w.withStanding t l.amount := by
  unfold rollOverIfDue at h
  split at h
  next hdue =>
    split at h
    next v hv =>
      obtain rfl := Except.ok.inj h
      obtain ⟨t, l, ls, ht, hl, rfl⟩ := rollOver_ok hv
      exact .inr ⟨t, l, ls, of_decide_eq_true hdue, ht, hl, rfl⟩
    · cases h
  next hdue =>
    have hle : now ≤ w.nextReset := by simpa [dueReset] using hdue
    exact .inl ⟨hle, (Except.ok.inj h).symm⟩

/-- A debit that succeeds books the sum of the prices of all the coins. -/
theorem debit_yields {e : Engine σ} {a : Account}
    (h : Yields (debit e a w now coins) s (w', out) t) :
    ∃ xs, (e.converter a).Prices coins s xs t ∧ w.Books now (Sourced.total xs) w' ∧
      out.coin.amount = Sourced.total xs ∧ out.sources = xs.flatMap Sourced.sources := by
  obtain ⟨v, u, hlift, h⟩ := yields_bind.mp h
  obtain ⟨hv, rfl⟩ := yields_lift.mp hlift
  obtain ⟨⟨outcome, w₁⟩, u, hrun, h⟩ := yields_bind.mp h
  have hd := yields_exceptT_lift.mp hrun
  cases outcome with
  | error err => simp at h
  | ok total =>
    obtain ⟨he, rfl⟩ := yields_pure.mp h
    obtain ⟨rfl, rfl⟩ := Prod.mk.inj he
    obtain ⟨l, ls, xs, hl, hp, hb, rfl, rfl⟩ := debitAll_ok hd
    refine ⟨xs, hp, ?_, rfl, rfl⟩
    rcases rollOverIfDue_ok hv with ⟨hle, rfl⟩ | ⟨r, k, ks, hlt, hr, hk, rfl⟩
    · exact .within hl hle hb
    · rw [limits_withStanding hk] at hl
      obtain ⟨rfl, rfl⟩ := List.cons.inj hl
      simpa using Books.anew hk hlt hr hb

theorem debit_eq (e : Engine σ) (a : Account) (w : Wallet) (now : Int) (coins : List Coin) :
    debit e a w now coins = (Asking.lift (rollOverIfDue w now) >>= fun v =>
      v.quoteAll (e.converter a) coins false >>= fun total => Asking.lift (v.deduct total)) := by
  unfold debit
  cases hv : rollOverIfDue w now with
  | error err => rfl
  | ok v =>
    rw [lift_ok_bind, lift_ok_bind]
    refine ext_ask fun s => ?_
    rw [ask_exceptT_lift_bind, ask_bind, debitAll, run_bind_ask]
    rcases (v.quoteAll (e.converter a) coins false).ask s with ⟨_ | total, t⟩
    · rfl
    · simp only [ask_lift, deduct]
      cases hl : v.limit with
      | error err => rfl
      | ok l =>
        simp only
        rcases v.setRemaining (l.remaining - total.coin.amount) with ⟨_ | ⟨⟩, u⟩ <;> rfl

theorem rollOverIfDue_of_le (h : now ≤ w.nextReset) : rollOverIfDue w now = .ok w := by
  simp [rollOverIfDue, dueReset, Int.not_lt.mpr h]

theorem rollOverIfDue_of_lt {r : Int} {l : SpendLimit} {ls : List SpendLimit}
    (limits : w.limits = l :: ls) (late : w.nextReset < now) (next : w.resetAfter now = .ok r) :
    rollOverIfDue w now = .ok (w.withStanding r l.amount) := by
  simp [rollOverIfDue, dueReset, late, rollOver_eq limits, next]

/-- A debit that can be booked succeeds, once all the coins have a price. -/
theorem yields_debit {e : Engine σ} {a : Account} {xs : List Sourced}
    (sound : ∀ l ∈ w.limits, l.WellFormed) (prices : (e.converter a).Prices coins s xs t)
    (books : w.Books now (Sourced.total xs) w') :
    ∃ out, Yields (debit e a w now coins) s (w', out) t ∧ out.coin.amount = Sourced.total xs ∧
      out.sources = xs.flatMap Sourced.sources := by
  rw [debit_eq]
  cases books with
  | @within l ls limits early fits =>
    refine ⟨⟨⟨l.denom, Sourced.total xs⟩, xs.flatMap Sourced.sources⟩, ?_, rfl, rfl⟩
    refine yields_bind.mpr ⟨w, s, ?_, yields_bind.mpr
      ⟨_, t, yields_quoteAll limits prices fits, ?_⟩⟩
    · exact yields_lift.mpr ⟨rollOverIfDue_of_le early, rfl⟩
    · have hl := sound l (by simp [limits])
      unfold SpendLimit.WellFormed at hl
      have hset := setRemaining_of_le limits (n := l.remaining - Sourced.total xs) (by omega)
      simp [deduct, limit_eq_ok.mpr ⟨ls, limits⟩, hset]
  | @anew l ls r limits late next fits =>
    have hrefilled := limits_withStanding limits r l.amount
    refine ⟨⟨⟨l.denom, Sourced.total xs⟩, xs.flatMap Sourced.sources⟩, ?_, rfl, rfl⟩
    refine yields_bind.mpr ⟨_, s, ?_, yields_bind.mpr
      ⟨_, t, yields_quoteAll hrefilled prices fits, ?_⟩⟩
    · exact yields_lift.mpr ⟨rollOverIfDue_of_lt limits late next, rfl⟩
    · have hset := setRemaining_of_le hrefilled (n := l.amount - Sourced.total xs) (by simp)
      simp [deduct, limit_eq_ok.mpr ⟨ls, hrefilled⟩, hset]

end Account

end AllowanceProxy
