import AllowanceProxy.Proofs.Run
import AllowanceProxy.Proofs.Spacing

/-!
The ledger of a wallet over whole runs: what is left of its limit is what its accepted spends have
left, and its refills keep the distance of a period, whatever else happens to the account.
-/
namespace AllowanceProxy

open Asking Account Calendar Spend

variable {σ : Type} {e : Engine σ} {address : String} {a : Account} {ks : List (Call σ)}
  {w : Wallet}

/-- A spend within the period, a batch that is refused at its second message, a dry run, a new
rule, and batches that refill. -/
def Sample.run : List (Call Unit) :=
  [⟨.execute ⟨"spender", 50, false⟩ [send 10], ()⟩,
    ⟨.execute ⟨"spender", 60, false⟩ [send 5, send 30], ()⟩,
    ⟨.canSpend "spender" 60 [send 10], ()⟩,
    ⟨.addRule "owner" ⟨"spender", "farm", "stake", none⟩, ()⟩,
    ⟨.execute ⟨"spender", 200, true⟩ [send 30, send 5], ()⟩,
    ⟨.execute ⟨"spender", 86601, false⟩ [claim, send 50], ()⟩]

section

variable [Json.Nesting]

theorem Sample.keeps_run : Keeps engine "spender" account run := by
  simp [Keeps, Call.Removes, run]

/-- Every call of such a run finds the wallet with a history of its own. -/
theorem exists_history_before (found : a.wallet? address = some w)
    (kept : Keeps e address a ks) {pre post : List (Call σ)} {k : Call σ}
    (hks : ks = pre ++ k :: post) :
    ∃ v, (afterAll e a pre).wallet? address = some v ∧ w.History (history e address a pre) v ∧
      ¬ k.Removes e address (afterAll e a pre) := by
  subst hks
  obtain ⟨hpre, hk, -⟩ := (keeps_append e address a pre (k :: post)).mp kept
  obtain ⟨v, hv, hhistory⟩ := exists_history found hpre
  exact ⟨v, hv, hhistory, hk⟩

/-- In a run that does not remove a valid wallet, what is left of its limit and what its accepted
spends debited since the last refill add up to the full limit, or without a refill to what was
left at the start. Refused calls and dry runs count for nothing, and between two refills no more
than the full limit is debited. -/
theorem spend_ledger (found : a.wallet? address = some w) (valid : w.IsValid e.reference)
    (kept : Keeps e address a ks) :
    ∃ l w' left, w.limits = [l] ∧ (afterAll e a ks).wallet? address = some w' ∧
      w'.limits = [{ l with remaining := left }] ∧
      left + debited (sinceRefill (history e address a ks)) = base l (history e address a ks) ∧
      w.History (history e address a ks) w' ∧
      (∀ pre x mid post, history e address a ks = pre ++ x :: mid ++ post → x.Refills →
        refills mid = [] → debited (x :: mid) ≤ l.amount) ∧
      ∀ pre k post, ks = pre ++ k :: post → k.Recorded e address (afterAll e a pre) := by
  obtain ⟨l, hl, -⟩ := valid.limits_eq
  obtain ⟨w', hw', hhistory⟩ := exists_history found kept
  obtain ⟨left, hl', hsum⟩ := hhistory.left_add_debited hl
  refine ⟨l, w', left, hl, hw', hl', hsum, hhistory, ?_, ?_⟩
  · intro pre x mid post hxs hx hmid
    rw [hxs] at hhistory
    obtain ⟨v, hfirst, -⟩ := Wallet.History.append_iff.mp hhistory
    exact hfirst.debited_le_of_refills hl hx hmid
  · intro pre k post hks
    obtain ⟨v, hv, -, hk⟩ := exists_history_before found kept hks
    exact Call.recorded hv hk

end

/-- The refused batch counts for nothing, and after the second refill only the last spend does. -/
theorem spend_ledger_sample :
    (history Sample.engine "spender" Sample.account Sample.run).map Spend.reduction =
        [10, 30, 5, 50] ∧
      ∃ l w' left, Sample.wallet.limits = [l] ∧
        (afterAll Sample.engine Sample.account Sample.run).wallet? "spender" = some w' ∧
        w'.limits = [{ l with remaining := left }] ∧
        left + debited (sinceRefill
          (history Sample.engine "spender" Sample.account Sample.run)) =
            base l (history Sample.engine "spender" Sample.account Sample.run) := by
  refine ⟨by decide +kernel, ?_⟩
  have hfound : Sample.account.wallet? "spender" = some Sample.wallet := by decide
  obtain ⟨l, w', left, hl, hw', hl', hsum, -⟩ :=
    spend_ledger hfound (by decide) Sample.keeps_run
  exact ⟨l, w', left, hl, hw', hl', hsum⟩

/-- In a run that does not remove it, every refill of a wallet moves its reset forward, one call
refills it at most once, and from one refill to the next more than a period passes: the days of
the period, or its months of the calendar. If the moments never go back, what is debited in a
window of a period in days is at most twice the limit. -/
theorem refill_spacing [Json.Nesting] (found : a.wallet? address = some w)
    (wellFormed : w.WellFormed) (kept : Keeps e address a ks) :
    (∀ x ∈ refills (history e address a ks), x.before.nextReset < x.after.nextReset) ∧
      (∀ pre k post, ks = pre ++ k :: post →
        (refills (k.spends e address (afterAll e a pre))).length ≤ 1) ∧
      (w.unit = .days → (refills (history e address a ks)).Pairwise fun x y =>
        x.now + secondsPerDay * w.multiple < y.now) ∧
      (w.unit = .months → (refills (history e address a ks)).Pairwise fun x y =>
        (dateOf (dayOfSecond x.now)).monthIndex + w.multiple ≤
          (dateOf (dayOfSecond y.now)).monthIndex) ∧
      (w.unit = .days → (history e address a ks).Pairwise (fun x y => x.now ≤ y.now) →
        ∀ l ls, w.limits = l :: ls → ∀ t,
        debited (window t (t + secondsPerDay * w.multiple) (history e address a ks)) ≤
          2 * l.amount) := by
  obtain ⟨w', hw', hhistory⟩ := exists_history found kept
  refine ⟨?_, ?_, ?_, ?_, ?_⟩
  · intro x hx
    obtain ⟨hnext, hlate⟩ := hhistory.resetAfter_of_refills hx
    have hpast := Wallet.lt_resetAfter wellFormed.multiple_pos hnext
    omega
  · intro pre k post hks
    obtain ⟨v, hv, hbefore, hk⟩ := exists_history_before found kept hks
    obtain ⟨v', -, hcall⟩ := Call.history hv hk
    obtain ⟨now, hnow⟩ := k.exists_now e address (afterAll e a pre)
    exact hcall.length_refills_le_one (hbefore.wellFormed wellFormed) hnow
  · exact hhistory.refills_spaced_days wellFormed
  · exact hhistory.refills_spaced_months wellFormed
  · intro hu sorted l ls hl t
    exact hhistory.debited_window_le wellFormed hu hl sorted t

/-- Two refills, a second and more than a day apart. -/
theorem refill_spacing_sample :
    (refills (history Sample.engine "spender" Sample.account Sample.run)).map Spend.now =
        [200, 86601] ∧
      (refills (history Sample.engine "spender" Sample.account Sample.run)).Pairwise
        (fun x y => x.now + secondsPerDay * Sample.wallet.multiple < y.now) ∧
      debited (window 200 (200 + secondsPerDay * Sample.wallet.multiple)
        (history Sample.engine "spender" Sample.account Sample.run)) ≤ 2 * 50 := by
  have hfound : Sample.account.wallet? "spender" = some Sample.wallet := by decide
  have hwellFormed : Sample.wallet.WellFormed := ⟨by decide, by decide, by decide⟩
  have hsorted : (history Sample.engine "spender" Sample.account Sample.run).Pairwise
      fun x y => x.now ≤ y.now := by decide +kernel
  obtain ⟨-, -, hdays, -, hwindow⟩ := refill_spacing hfound hwellFormed Sample.keeps_run
  exact ⟨by decide +kernel, hdays rfl, hwindow rfl hsorted _ _ rfl 200⟩

end AllowanceProxy
