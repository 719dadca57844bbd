import AllowanceProxy.Proofs.Faults
import AllowanceProxy.Proofs.OneByOne
import AllowanceProxy.Proofs.Rollover

/-!
Bookkeeping of a wallet. Every call, but the assignment of a field, leaves its limits within their
totals: a debit is compared with what is left before anything is stored, and what is stored fits.
A call that fails has changed nothing.
-/
namespace AllowanceProxy.Wallet

open Asking

variable {σ α : Type}

/-- The wallet has a limit, and each of its limits is within its total. -/
structure Spendable (w : Wallet) : Prop where
  limited : w.limits ≠ []
  wellFormed : ∀ l ∈ w.limits, l.WellFormed

instance (w : Wallet) : Decidable w.Spendable :=
  decidable_of_iff (w.limits ≠ [] ∧ ∀ l ∈ w.limits, l.WellFormed)
    ⟨fun h => ⟨h.1, h.2⟩, fun h => ⟨h.1, h.2⟩⟩

/-- The calls of a wallet, with sound limits to replace its own. Assignments are not among them. -/
def Call.Bookkeeping : Call → Prop
  | .assign _ => False
  | .replaceLimit l => l.WellFormed
  | _ => True

/-- The calls that only ask. -/
def Call.Reads : Call → Prop
  | .checkValid _ | .limit | .dueReset _ | .resetAfter _ | .quote _ _ | .quoteAll _ _ => True
  | _ => False

/-- What a call enters into a wallet when it succeeds, and its answer. Refills and debits touch
nothing but what is left of the first limit, and a debit lowers that by the price. -/
inductive Entry (c : Converter σ) (s : σ) (w : Wallet) : Call → Answer → Wallet → Prop where
  | nothing {k : Call} (reads : k.Reads) (x : Answer) : Entry c s w k x w
  | rollOver {now t : Int} {l : SpendLimit} {ls : List SpendLimit} (limits : w.limits = l :: ls)
      (next : w.resetAfter now = .ok t) :
      Entry c s w (.rollOver now) .done (w.withStanding t l.amount)
  | refill {l : SpendLimit} {ls : List SpendLimit} (limits : w.limits = l :: ls) :
      Entry c s w .refill .done (w.withStanding w.nextReset l.amount)
  | replaceLimit (l : SpendLimit) :
      Entry c s w (.replaceLimit l) .done { w with limits := [l] }
  | debitCoin {spend : Coin} {l : SpendLimit} {ls : List SpendLimit} {x : Sourced} {t : σ}
      (limits : w.limits = l :: ls) (priced : Yields (c.convert spend false) s x t)
      (fits : x.coin.amount ≤ l.remaining) :
      Entry c s w (.debitCoin spend) (.sourced x)
        (w.withStanding w.nextReset (l.remaining - x.coin.amount))
  | debitAmount {spend : Coin} {l : SpendLimit} {ls : List SpendLimit}
      (limits : w.limits = l :: ls) (fits : spend.amount ≤ l.remaining) :
      Entry c s w (.debitAmount spend) .done
        (w.withStanding w.nextReset (l.remaining - spend.amount))
  | debitAll {spends : List Coin} {l : SpendLimit} {ls : List SpendLimit} {xs : List Sourced}
      {t : σ} (limits : w.limits = l :: ls) (priced : c.Prices spends s xs t)
      (fits : Sourced.total xs ≤ l.remaining) :
      Entry c s w (.debitAll spends)
        (.sourced ⟨⟨l.denom, Sourced.total xs⟩, xs.flatMap Sourced.sources⟩)
        (w.withStanding w.nextReset (l.remaining - Sourced.total xs))

/-- A call is refused, for nothing that its limit lacks, or it makes its entry. -/
inductive Booked (c : Converter σ) (s : σ) (w : Wallet) (k : Call) :
    Except Error Answer → Wallet → Prop where
  | refused {err : Error} (excused : c.chain.Excuses err) : Booked c s w k (.error err) w
  | entered {x : Answer} {v : Wallet} (entry : Entry c s w k x v) : Booked c s w k (.ok x) v

section Calls

variable {c : Converter σ} {s t : σ} {w v : Wallet} {k : Call} {x : Answer} {l : SpendLimit}
  {ls : List SpendLimit} {spend : Coin} {spends : List Coin}

/-- Up to its total, what is left of the first limit may be anything. -/
theorem Spendable.withStanding (h : w.Spendable) (limits : w.limits = l :: ls) (reset : Int)
    {n : Nat} (within : n ≤ l.amount) : (w.withStanding reset n).Spendable := by
  have hlimits := limits_withStanding limits reset n
  have hall := h.wellFormed
  rw [limits, List.forall_mem_cons] at hall
  constructor
  · rw [hlimits]
    exact List.cons_ne_nil _ _
  · rw [hlimits, List.forall_mem_cons]
    exact ⟨within, hall.2⟩

theorem Entry.spendable (h : Entry c s w k x v) (spendable : w.Spendable)
    (bookkeeping : k.Bookkeeping) : v.Spendable := by
  have hfirst {l : SpendLimit} {ls : List SpendLimit} (limits : w.limits = l :: ls) :
      l.WellFormed := spendable.wellFormed l (limits ▸ List.mem_cons_self)
  cases h with
  | nothing reads x => exact spendable
  | rollOver limits next => exact spendable.withStanding limits _ (Nat.le_refl _)
  | refill limits => exact spendable.withStanding limits _ (Nat.le_refl _)
  | replaceLimit l =>
    have hl : l.WellFormed := bookkeeping
    exact ⟨List.cons_ne_nil _ _, by simpa using hl⟩
  | debitCoin limits priced fits =>
    exact spendable.withStanding limits _ ((hfirst limits).sub_le _)
  | debitAmount limits fits => exact spendable.withStanding limits _ ((hfirst limits).sub_le _)
  | debitAll limits priced fits =>
    exact spendable.withStanding limits _ ((hfirst limits).sub_le _)

theorem Booked.spendable {o : Except Error Answer} (h : Booked c s w k o v)
    (spendable : w.Spendable) (bookkeeping : k.Bookkeeping) : v.Spendable := by
  cases h with
  | refused excused => exact spendable
  | entered entry => exact entry.spendable spendable bookkeeping

theorem booked_of_reads (reads : k.Reads) {o : Except Error α} (f : α → Answer)
    (excused : ∀ err, o = .error err → c.chain.Excuses err) : Booked c s w k (o.map f) w := by
  cases o with
  | error err => exact .refused (excused err rfl)
  | ok a => exact .entered (.nothing reads (f a))

theorem booked_rollOver (limits : w.limits = l :: ls) (now : Int) :
    Booked c s w (.rollOver now) ((w.rollOver now).1.map fun _ => .done) (w.rollOver now).2 := by
  rw [rollOver_eq limits]
  cases hreset : w.resetAfter now with
  | error err => exact .refused (Chain.excuses_of_not_ofLimit (not_ofLimit_of_resetAfter hreset))
  | ok t => exact .entered (.rollOver limits hreset)

theorem booked_refill (limits : w.limits = l :: ls) :
    Booked c s w .refill (w.refill.1.map fun _ => .done) w.refill.2 := by
  rw [refill_eq limits]
  exact .entered (.refill limits)

/-- A coin above what is left is refused before anything is stored. -/
theorem booked_debitCoin (limits : w.limits = l :: ls) (wellFormed : l.WellFormed) :
    Booked c s w (.debitCoin spend) (((w.debitCoin c spend).run s).run.1.1.map .sourced)
      ((w.debitCoin c spend).run s).run.1.2 := by
  have hprices := c.pricesIn_excuses [spend]
  have hmem := List.mem_singleton_self spend
  rcases hconvert : (c.convert spend false).ask s with ⟨err | x, t⟩
  · rw [run_debitCoin_of_error hconvert]
    exact .refused
      (hprices.fails.convert (hprices.unwritable _ (.amount hmem)) false s err t hconvert)
  · by_cases habove : l.remaining < x.coin.amount
    · rw [run_debitCoin_of_lt limits hconvert habove]
      exact .refused (Error.of_aboveLimitOf hprices.fails.refused
        (hprices.unwritable _ (.price hmem hconvert)))
    · have hwithin := Nat.not_lt.mp habove
      rw [run_debitCoin_of_le limits wellFormed hconvert hwithin]
      exact .entered (.debitCoin limits hconvert hwithin)

theorem booked_debitAmount (limits : w.limits = l :: ls) (wellFormed : l.WellFormed) :
    Booked c s w (.debitAmount spend) ((w.debitAmount spend).1.map fun _ => .done)
      (w.debitAmount spend).2 := by
  rw [debitAmount, limit_eq_ok.mpr ⟨ls, limits⟩]
  by_cases habove : l.remaining < spend.amount
  · simp only [if_pos habove]
    have hfails := c.chain.failsIn_excuses
    exact .refused (Error.of_aboveLimitOf hfails.refused
      fun _ => Chain.excuses_of_not_ofLimit (by simp))
  · simp only [if_neg habove, setRemaining_of_le limits (wellFormed.sub_le spend.amount)]
    exact .entered (.debitAmount limits (Nat.not_lt.mp habove))

theorem booked_debitAll (limits : w.limits = l :: ls) (wellFormed : l.WellFormed) :
    Booked c s w (.debitAll spends) (((w.debitAll c spends).run s).run.1.1.map .sourced)
      ((w.debitAll c spends).run s).run.1.2 := by
  rcases hquote : (w.quoteAll c spends false).ask s with ⟨err | total, t⟩
  · rw [run_debitAll_of_error hquote]
    exact .refused (faultsIn_quoteAll (c.pricesIn_excuses spends) limits false s err t hquote)
  · rw [run_debitAll_of_ok limits wellFormed hquote]
    obtain ⟨k, ks, xs, hk, hprices, hfits, rfl⟩ := quoteAll_yields hquote
    obtain ⟨rfl, rfl⟩ := List.cons.inj (limits.symm.trans hk)
    exact .entered (.debitAll limits hprices hfits)

/-- One case for each call: those that only ask, those that write, and a replaced limit. -/
theorem booked (spendable : w.Spendable) (c : Converter σ) (s : σ) (bookkeeping : k.Bookkeeping) :
    Booked c s w k ((w.perform c k).run s).run.1.1 ((w.perform c k).run s).run.1.2 := by
  obtain ⟨l, ls, hl⟩ := List.exists_cons_of_ne_nil spendable.limited
  have hwellFormed : l.WellFormed := spendable.wellFormed l (hl ▸ List.mem_cons_self)
  cases k with
  | checkValid reference =>
    refine booked_of_reads (k := .checkValid reference) trivial (o := w.checkValid reference) _ ?_
    intro err h
    unfold checkValid at h
    split at h
    · cases h
    · cases h
      exact c.chain.failsIn_excuses.refused _ rfl
  | limit =>
    refine booked_of_reads (k := .limit) trivial (o := w.limit) _ fun err h => ?_
    rw [limit_eq_ok.mpr ⟨ls, hl⟩] at h
    cases h
  | dueReset now => exact .entered (.nothing (k := .dueReset now) trivial _)
  | resetAfter now =>
    exact booked_of_reads (k := .resetAfter now) trivial (o := w.resetAfter now) _
      fun err h => Chain.excuses_of_not_ofLimit (not_ofLimit_of_resetAfter h)
  | rollOver now => exact booked_rollOver hl now
  | refill => exact booked_refill hl
  | replaceLimit l => exact .entered (.replaceLimit l)
  | assign a => exact bookkeeping.elim
  | quote spend reset =>
    exact booked_of_reads (k := .quote spend reset) trivial
      (o := ((w.quote c spend reset).ask s).1) _
      fun err h => faultsIn_quote (c.pricesIn_excuses [spend]) hl reset s err _ (Prod.ext h rfl)
  | debitCoin spend => exact booked_debitCoin hl hwellFormed
  | debitAmount spend => exact booked_debitAmount hl hwellFormed
  | quoteAll spends reset =>
    exact booked_of_reads (k := .quoteAll spends reset) trivial
      (o := ((w.quoteAll c spends reset).ask s).1) _
      fun err h => faultsIn_quoteAll (c.pricesIn_excuses spends) hl reset s err _ (Prod.ext h rfl)
  | debitAll spends => exact booked_debitAll hl hwellFormed

end Calls

/-- A call on a wallet, with the converter and the chain as they are at the time. -/
structure Use (σ : Type) where
  converter : Converter σ
  chain : σ
  call : Call

def Use.answer (u : Use σ) (w : Wallet) : Except Error Answer :=
  ((w.perform u.converter u.call).run u.chain).run.1.1

def Use.after (u : Use σ) (w : Wallet) : Wallet :=
  ((w.perform u.converter u.call).run u.chain).run.1.2

/-- The wallet after calls, whether they succeed or fail. -/
def afterAll : Wallet → List (Use σ) → Wallet
  | w, [] => w
  | w, u :: us => afterAll (u.after w) us

variable {w : Wallet}

theorem Spendable.afterAll (h : w.Spendable) {us : List (Use σ)}
    (bookkeeping : ∀ u ∈ us, u.call.Bookkeeping) : (w.afterAll us).Spendable := by
  induction us generalizing w with
  | nil => exact h
  | cons u us ih =>
    obtain ⟨hu, hus⟩ := List.forall_mem_cons.mp bookkeeping
    exact ih ((booked h u.converter u.chain hu).spendable h hu) hus

/-- Whatever calls there have been on a wallet with sound limits, its limits are sound after every
call. A call that fails leaves the whole wallet as it was, and does not fail for want of a limit or
because of a limit above its total, unless the chain itself answers with such a fault. One that
succeeds makes its entry and no other. -/
theorem books_kept (spendable : w.Spendable) {us : List (Use σ)}
    (bookkeeping : ∀ u ∈ us, u.call.Bookkeeping) {before after : List (Use σ)} {u : Use σ}
    (split : us = before ++ u :: after) :
    let v := w.afterAll before
    (u.after v).Spendable ∧
      (∀ err, u.answer v = .error err →
        u.after v = v ∧ (err.OfLimit → u.converter.chain.Raises err)) ∧
      ∀ x, u.answer v = .ok x → v.Entry u.converter u.chain u.call x (u.after v) := by
  intro v
  subst split
  obtain ⟨hbefore, hu⟩ := List.forall_mem_append.mp bookkeeping
  have hv : v.Spendable := spendable.afterAll hbefore
  have hcall := hu u List.mem_cons_self
  have hbooked : v.Booked u.converter u.chain u.call (u.answer v) (u.after v) :=
    booked hv u.converter u.chain hcall
  refine ⟨hbooked.spendable hv hcall, ?_⟩
  generalize u.answer v = answer at hbooked ⊢
  generalize u.after v = next at hbooked ⊢
  cases hbooked with
  | refused excused =>
    refine ⟨?_, nofun⟩
    rintro err ⟨⟩
    exact ⟨rfl, excused⟩
  | entered entry =>
    refine ⟨nofun, ?_⟩
    rintro x ⟨⟩
    exact entry

open Sample in
/-- Of a rest of 20, 12 are debited. Another 9 are refused, and 8 stay, until a new period makes
them 50 again. -/
theorem books_kept_refused :
    let c := engine.converter account
    let first : Use Unit := ⟨c, (), .debitCoin ⟨"uusd", 12⟩⟩
    let second : Use Unit := ⟨c, (), .debitCoin ⟨"uusd", 9⟩⟩
    let third : Use Unit := ⟨c, (), .rollOver 200⟩
    let v := wallet.afterAll [first]
    second.answer v = .error (Error.aboveLimitOf 9 "uusd") ∧ second.after v = v ∧
      v = wallet.withStanding 100 8 ∧
      Entry c () v third.call .done (wallet.withStanding 86600 50) := by
  intro c first second third v
  have hspendable : wallet.Spendable := by decide
  have hbookkeeping : ∀ u ∈ [first, second, third], u.call.Bookkeeping := by
    simp [first, second, third, Call.Bookkeeping]
  have hsecond := books_kept hspendable hbookkeeping
    (show [first, second, third] = [first] ++ second :: [third] from rfl)
  have hthird := books_kept hspendable hbookkeeping
    (show [first, second, third] = [first, second] ++ third :: [] from rfl)
  have hrefused : second.answer v = .error (Error.aboveLimitOf 9 "uusd") := by decide +kernel
  refine ⟨hrefused, (hsecond.2.1 _ hrefused).1, by decide +kernel, ?_⟩
  have hanswer : third.answer (wallet.afterAll [first, second]) = .ok .done := by decide +kernel
  have hv : wallet.afterAll [first, second] = v := (hsecond.2.1 _ hrefused).1
  have hafter : third.after v = wallet.withStanding 86600 50 := by decide +kernel
  have hentry := hthird.2.2 _ hanswer
  rw [hv, hafter] at hentry
  exact hentry

end AllowanceProxy.Wallet
