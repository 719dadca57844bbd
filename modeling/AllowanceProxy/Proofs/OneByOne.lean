import AllowanceProxy.Proofs.Agreement
import AllowanceProxy.Proofs.Passage
import AllowanceProxy.Wallet.Call

/-!
Coins debited one by one. A list of coins is debited as a whole exactly if its coins can be debited
one after another, and the wallet is then debited the same. But the coins before one that fails
stay debited one by one, and do not as a list.
-/
namespace AllowanceProxy

open Asking

variable {σ : Type}

namespace Wallet

variable {w w' : Wallet} {l : SpendLimit} {ls : List SpendLimit} {c : Converter σ} {spend : Coin}
  {spends : List Coin} {s t : σ} {x : Sourced} {xs : List Sourced} {err : Error}

/-- Debits coins one after another, each from what the one before has left, up to the first that
fails. The prices are those of the single coins. -/
def debitEach (c : Converter σ) : Wallet → List Coin → StateM σ (Outcome Wallet (List Sourced))
  | w, [] => return (.ok [], w)
  | w, spend :: spends => do
    match ← w.debitCoin c spend with
    | (.error e, w) => return (.error e, w)
    | (.ok priced, w) =>
      let (others, w) ← debitEach c w spends
      return (others.map (priced :: ·), w)

section Coin

theorem run_debitCoin_of_error
    (failed : (c.convert spend false).ask s = (.error err, t)) :
    ((w.debitCoin c spend).run s).run = ((.error err, w), t) := by
  have hquote : (w.quote c spend false).ask s = (.error err, t) := by
    rw [quote, ask_bind, failed]
  rw [debitCoin, run_bind_ask, hquote]
  rfl

theorem run_debitCoin_of_lt (limits : w.limits = l :: ls)
    (priced : Yields (c.convert spend false) s x t) (above : l.remaining < x.coin.amount) :
    ((w.debitCoin c spend).run s).run =
      ((.error (Error.aboveLimitOf x.coin.amount x.coin.denom), w), t) := by
  have hconvert : (c.convert spend false).ask s = (.ok x, t) := priced
  have hquote : (w.quote c spend false).ask s =
      (.error (Error.aboveLimitOf x.coin.amount x.coin.denom), t) := by
    rw [quote, ask_bind, hconvert]
    simp [limit_eq_ok.mpr ⟨ls, limits⟩, lift_ok_bind, available, above]
  rw [debitCoin, run_bind_ask, hquote]
  rfl

theorem run_debitCoin_of_le (limits : w.limits = l :: ls) (wellFormed : l.WellFormed)
    (priced : Yields (c.convert spend false) s x t) (within : x.coin.amount ≤ l.remaining) :
    ((w.debitCoin c spend).run s).run =
      ((.ok x, w.withStanding w.nextReset (l.remaining - x.coin.amount)), t) := by
  have hconvert : (c.convert spend false).ask s = (.ok x, t) := priced
  have hquote : (w.quote c spend false).ask s = (.ok (l.remaining - x.coin.amount, x), t) := by
    rw [quote, ask_bind, hconvert]
    simp [limit_eq_ok.mpr ⟨ls, limits⟩, lift_ok_bind, available, Nat.not_lt.mpr within]
  have hset := setRemaining_of_le limits (wellFormed.sub_le x.coin.amount)
  rw [debitCoin, run_bind_ask, hquote]
  simp only [hset]
  rfl

theorem debitCoin_ok (limits : w.limits = l :: ls) (wellFormed : l.WellFormed)
    (h : ((w.debitCoin c spend).run s).run = ((.ok x, w'), t)) :
    Yields (c.convert spend false) s x t ∧ x.coin.amount ≤ l.remaining ∧
      w' = w.withStanding w.nextReset (l.remaining - x.coin.amount) := by
  rcases hconvert : (c.convert spend false).ask s with ⟨err | y, u⟩
  · rw [run_debitCoin_of_error hconvert] at h
    cases h
  · by_cases habove : l.remaining < y.coin.amount
    · rw [run_debitCoin_of_lt limits hconvert habove] at h
      cases h
    · have hwithin := Nat.not_lt.mp habove
      rw [run_debitCoin_of_le limits wellFormed hconvert hwithin] at h
      cases h
      exact ⟨hconvert, hwithin, rfl⟩

end Coin

section Each

theorem run_debitEach_of_error (first : ((w.debitCoin c spend).run s).run = ((.error err, w'), t)) :
    ((debitEach c w (spend :: spends)).run s).run = ((.error err, w'), t) := by
  rw [debitEach, StateT.run_bind, Id.run_bind, first]
  rfl

theorem run_debitEach_of_ok {v : Wallet}
    (first : ((w.debitCoin c spend).run s).run = ((.ok x, v), t)) :
    ((debitEach c w (spend :: spends)).run s).run =
      (((((debitEach c v spends).run t).run.1.1.map (x :: ·)),
        ((debitEach c v spends).run t).run.1.2), ((debitEach c v spends).run t).run.2) := by
  rw [debitEach, StateT.run_bind, Id.run_bind, first]
  rfl

/-- The failure is that of the first coin that fails, on what the coins before it have left. -/
theorem debitEach_error (h : ((debitEach c w spends).run s).run = ((.error err, w'), t)) :
    ∃ before coin after xs v u, spends = before ++ coin :: after ∧
      ((debitEach c w before).run s).run = ((.ok xs, v), u) ∧
      ((v.debitCoin c coin).run u).run = ((.error err, w'), t) := by
  induction spends generalizing w s with
  | nil => cases h
  | cons spend spends ih =>
    rcases hfirst : ((w.debitCoin c spend).run s).run with ⟨⟨err' | x, v⟩, u⟩
    · rw [run_debitEach_of_error hfirst] at h
      cases h
      exact ⟨[], spend, spends, [], w, s, rfl, rfl, hfirst⟩
    · rw [run_debitEach_of_ok hfirst] at h
      rcases hrest : ((debitEach c v spends).run u).run with ⟨⟨err' | ys, v'⟩, u'⟩
      all_goals
        rw [hrest] at h
        cases h
      · obtain ⟨before, coin, after, xs, v₁, u₁, rfl, hbefore, hcoin⟩ := ih hrest
        refine ⟨spend :: before, coin, after, x :: xs, v₁, u₁, rfl, ?_, hcoin⟩
        rw [run_debitEach_of_ok hfirst, hbefore]
        rfl

variable (limits : w.limits = l :: ls) (wellFormed : l.WellFormed)
include limits wellFormed

/-- What the coins leave of the limit is what their total leaves of it. -/
theorem debitEach_ok (h : ((debitEach c w spends).run s).run = ((.ok xs, w'), t)) :
    c.Prices spends s xs t ∧ Sourced.total xs ≤ l.remaining ∧
      w' = w.withStanding w.nextReset (l.remaining - Sourced.total xs) := by
  induction spends generalizing w l s xs with
  | nil =>
    cases h
    exact ⟨.nil _, Nat.zero_le _, (withStanding_self limits).symm⟩
  | cons spend spends ih =>
    rcases hfirst : ((w.debitCoin c spend).run s).run with ⟨⟨err | x, v⟩, u⟩
    · rw [run_debitEach_of_error hfirst] at h
      cases h
    · rw [run_debitEach_of_ok hfirst] at h
      rcases hrest : ((debitEach c v spends).run u).run with ⟨⟨err | ys, v'⟩, u'⟩
      all_goals
        rw [hrest] at h
        cases h
      obtain ⟨hconvert, hwithin, rfl⟩ := debitCoin_ok limits wellFormed hfirst
      obtain ⟨hprices, hfits, rfl⟩ := ih (limits_withStanding limits _ _)
        (wellFormed.sub_le _) hrest
      simp only at hfits
      refine ⟨.cons hconvert hprices, ?_, by simp [Nat.sub_sub]⟩
      rw [Sourced.total_cons]
      omega

/-- The running total is compared with what was there at first, and a single price with what the
ones before it have left: it is the same comparison. -/
theorem ask_tally (sum : Sourced) (spends : List Coin) (s : σ) :
    (tally c sum.coin.denom (sum.coin.amount + l.remaining) sum spends).ask s =
      (((debitEach c w spends).run s).run.1.1.map fun xs =>
        ⟨⟨sum.coin.denom, sum.coin.amount + Sourced.total xs⟩,
          sum.sources ++ xs.flatMap Sourced.sources⟩,
        ((debitEach c w spends).run s).run.2) := by
  -- The coins so far have moved `sum` from what is left to the total; both together stay.
  induction spends generalizing w l sum s with
  | nil => simp [tally, debitEach, Except.map]
  | cons spend spends ih =>
    rw [tally, ask_bind]
    rcases hconvert : (c.convert spend false).ask s with ⟨err | x, t⟩
    · rw [run_debitEach_of_error (run_debitCoin_of_error hconvert)]
      rfl
    · by_cases habove : l.remaining < x.coin.amount
      · have htotal : sum.coin.amount + l.remaining < sum.coin.amount + x.coin.amount :=
          Nat.add_lt_add_left habove _
        rw [run_debitEach_of_error (run_debitCoin_of_lt limits hconvert habove)]
        simp [htotal, Except.map]
      · have hwithin := Nat.not_lt.mp habove
        have hfits : ¬ sum.coin.amount + l.remaining < sum.coin.amount + x.coin.amount := by omega
        have hrest := ih (limits_withStanding limits w.nextReset (l.remaining - x.coin.amount))
          (wellFormed.sub_le _)
          (sum.merge x ⟨sum.coin.denom, sum.coin.amount + x.coin.amount⟩) t
        have hleft : sum.coin.amount + x.coin.amount + (l.remaining - x.coin.amount) =
            sum.coin.amount + l.remaining := by omega
        simp only [Sourced.merge, hleft] at hrest
        rw [run_debitEach_of_ok (run_debitCoin_of_le limits wellFormed hconvert hwithin)]
        simp only [if_neg hfits, Sourced.merge, hrest]
        rcases ((debitEach c (w.withStanding w.nextReset (l.remaining - x.coin.amount)) spends).run
          t).run with ⟨⟨_ | xs, v⟩, u⟩
        · rfl
        · simp [Except.map, Nat.add_assoc]

theorem ask_quoteAll (spends : List Coin) (s : σ) :
    (w.quoteAll c spends false).ask s =
      (((debitEach c w spends).run s).run.1.1.map fun xs =>
        ⟨⟨l.denom, Sourced.total xs⟩, xs.flatMap Sourced.sources⟩,
        ((debitEach c w spends).run s).run.2) := by
  have htally := ask_tally limits wellFormed (c := c) (nothing l.denom) spends s
  simp only [nothing, Nat.zero_add, List.nil_append] at htally
  rw [quoteAll, limit_eq_ok.mpr ⟨ls, limits⟩, lift_ok_bind]
  exact htally

end Each

section All

/-- A debit of a list answers what a quote answers. -/
theorem outcome_debitAll (limits : w.limits = l :: ls) (wellFormed : l.WellFormed)
    (spends : List Coin) (s : σ) :
    ((w.debitAll c spends).run s).run.1.1 = ((w.quoteAll c spends false).ask s).1 := by
  rcases hquote : (w.quoteAll c spends false).ask s with ⟨err | x, t⟩
  · rw [run_debitAll_of_error hquote]
  · rw [run_debitAll_of_ok limits wellFormed hquote]

/-- A quote against the full limit is a quote after a refill. -/
theorem quoteAll_refill (limits : w.limits = l :: ls) (spends : List Coin) :
    w.refill.2.quoteAll c spends false = w.quoteAll c spends true := by
  have hlimit : w.refill.2.limit = .ok { l with remaining := l.amount } := by
    rw [refill_eq limits]
    exact limit_eq_ok.mpr ⟨ls, limits_withStanding limits _ _⟩
  rw [quoteAll, quoteAll, hlimit, limit_eq_ok.mpr ⟨ls, limits⟩, lift_ok_bind, lift_ok_bind]
  rfl

end All

/-- A list of coins is debited if and only if its coins can be debited one by one, and then it
leaves the same wallet and answers their prices together. Else it fails as the first coin that
fails does, and leaves the wallet as it was. A quote answers what the debit would, on the wallet
as it is or on the refilled one. Neither depends on when it is asked. -/
theorem debitAll_one_by_one (limits : w.limits = l :: ls) (wellFormed : l.WellFormed)
    (steady : c.chain.Steady) (spends : List Coin) (s t u : σ) :
    ((∃ xs t', c.Prices spends t xs t' ∧ Sourced.total xs ≤ l.remaining ∧
        ((debitEach c w spends).run t).run =
          ((.ok xs, w.withStanding w.nextReset (l.remaining - Sourced.total xs)), t') ∧
        ((w.debitAll c spends).run s).run.1 =
          (.ok ⟨⟨l.denom, Sourced.total xs⟩, xs.flatMap Sourced.sources⟩,
            w.withStanding w.nextReset (l.remaining - Sourced.total xs))) ∨
      ∃ before coin after xs v v' err t' t'', spends = before ++ coin :: after ∧
        ((debitEach c w before).run t).run = ((.ok xs, v), t') ∧
        ((v.debitCoin c coin).run t').run = ((.error err, v'), t'') ∧
        ((debitEach c w spends).run t).run = ((.error err, v'), t'') ∧
        ((w.debitAll c spends).run s).run.1 = (.error err, w)) ∧
    ((w.perform c (.quoteAll spends false)).run u).run.1 =
      (((w.debitAll c spends).run s).run.1.1.map .sourced, w) ∧
    w.refill = (.ok (), w.withStanding w.nextReset l.amount) ∧
    ((w.perform c (.quoteAll spends true)).run u).run.1 =
      (((w.refill.2.debitAll c spends).run s).run.1.1.map .sourced, w) := by
  have halike : c.Alike (fun _ _ => True) c := ⟨rfl, rfl, steady.alike⟩
  have htimes (v : Wallet) (r : Bool) (s t : σ) :
      ((v.quoteAll c spends r).ask s).1 = ((v.quoteAll c spends r).ask t).1 :=
    (halike.agree_quoteAll v spends r s t trivial).1.eq
  refine ⟨?_, ?_, refill_eq limits, ?_⟩
  · have heach := (htimes w false s t).trans
      (congrArg Prod.fst (ask_quoteAll limits wellFormed (c := c) spends t))
    rcases hrun : ((debitEach c w spends).run t).run with ⟨⟨err | xs, v'⟩, t'⟩
    all_goals
      rw [hrun] at heach
      rcases hquote : (w.quoteAll c spends false).ask s with ⟨o, s'⟩
      obtain rfl : o = _ := (congrArg Prod.fst hquote).symm.trans heach
    · obtain ⟨before, coin, after, xs, v, u, hspends, hbefore, hcoin⟩ := debitEach_error hrun
      refine .inr ⟨before, coin, after, xs, v, v', err, u, t', hspends, hbefore, hcoin, rfl, ?_⟩
      rw [run_debitAll_of_error hquote]
    · obtain ⟨hprices, hfits, rfl⟩ := debitEach_ok limits wellFormed hrun
      refine .inl ⟨xs, t', hprices, hfits, rfl, ?_⟩
      rw [run_debitAll_of_ok (x := ⟨_, _⟩) limits wellFormed hquote]
  · rw [outcome_debitAll limits wellFormed, htimes w false s u]
    rfl
  · have hrefilled : w.refill.2.limits = { l with remaining := l.amount } :: ls := by
      rw [refill_eq limits]
      exact limits_withStanding limits _ _
    rw [outcome_debitAll hrefilled (Nat.le_refl _), quoteAll_refill limits, htimes w true s u]
    rfl

open Sample in
/-- Of a rest of 20 a list may not spend 12 and 9, of which the first can be spent alone. Right
after a refill it may. -/
theorem debitAll_one_by_one_rest :
    let c := engine.converter account
    let spends := [⟨"uusd", 12⟩, ⟨"uusd", 9⟩]
    let quoted (reset : Bool) := ((wallet.perform c (.quoteAll spends reset)).run ()).run.1
    ((wallet.debitAll c spends).run ()).run.1 = (.error (Error.aboveLimitOf 9 "uusd"), wallet) ∧
    ((debitEach c wallet spends).run ()).run.1.2 = wallet.withStanding 100 8 ∧
    ((wallet.refill.2.debitAll c spends).run ()).run.1.2 = wallet.withStanding 100 29 ∧
    quoted false = (((wallet.debitAll c spends).run ()).run.1.1.map .sourced, wallet) ∧
    quoted true = (((wallet.refill.2.debitAll c spends).run ()).run.1.1.map .sourced, wallet) := by
  have hlimits : wallet.limits = [⟨"uusd", 50, 20⟩] := rfl
  have hall := debitAll_one_by_one (c := engine.converter account) hlimits (by decide)
    Chain.steady_silent [⟨"uusd", 12⟩, ⟨"uusd", 9⟩] () () ()
  exact ⟨by decide +kernel, by decide +kernel, by decide +kernel, hall.2.1, hall.2.2.2⟩

end Wallet

end AllowanceProxy
