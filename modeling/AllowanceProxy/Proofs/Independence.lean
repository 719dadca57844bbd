import AllowanceProxy.Proofs.Agreement
import AllowanceProxy.Proofs.Privilege

/-!
Independence of senders. While no debt is owed, a batch of one sender writes nothing that a batch
of another one reads. So neither outcome depends on which of the two is executed first, and nor
does what both leave.
-/
namespace AllowanceProxy

open Account

variable {σ : Type}

namespace Account

variable {a b : Account} {x y : String} {u v : Option Wallet}

/-- The account with another wallet in its place, if there is one to put there. -/
def setWallet? (a : Account) (w : Option Wallet) : Account := (w.map a.setWallet).getD a

theorem setWallet?_comm (hu : ∀ w ∈ u, w.address = x) (hv : ∀ w ∈ v, w.address = y)
    (distinct : x ≠ y) : (a.setWallet? u).setWallet? v = (a.setWallet? v).setWallet? u := by
  cases u with
  | none => rfl
  | some u =>
    cases v with
    | none => rfl
    | some v =>
      have hne : v.address ≠ u.address := by
        rw [hu u rfl, hv v rfl]
        exact Ne.symm distinct
      simp [setWallet?, setWallet, replaceWallet_comm a.wallets hne]

/-- While the debt stays, spending comes down to the wallet of the sender. -/
theorem SpentBy.eq_setWallet? (h : SpentBy x a b) (debt : b.feeDebt = a.feeDebt) :
    b = a.setWallet? (b.wallet? x) := by
  cases h with
  | debt n =>
    obtain rfl : n = a.feeDebt := debt
    change a = a.setWallet? (a.wallet? x)
    cases hw : a.wallet? x with
    | none => rfl
    | some w =>
      have hself := replaceWallet_self (address_of_wallet? hw) hw
      simp [setWallet?, setWallet, hself]
  | @wallet n w found reset left =>
    obtain rfl : n = a.feeDebt := debt
    have hw := address_of_wallet? found
    rw [wallet?_setWallet_self (a := a) (v := w.withStanding reset left) hw found]
    rfl

/-- While the debt stays, nobody else notices what a sender spends. -/
theorem SpentBy.likeFor (h : SpentBy x a b) (debt : b.feeDebt = a.feeDebt) (distinct : y ≠ x) :
    LikeFor y a b where
  owner := h.owner
  rules := h.rules
  pools := h.pools
  feeDebt := debt
  feeRepayAddress := by rw [h.frame]
  wallet := h.wallet?_of_ne distinct

end Account

namespace Call

variable {e : Engine σ} {a b : Account} {s t : Sending} {ms ns : List Message} {c d : σ}

variable [Json.Nesting]

/-- The account after a batch is the account before it, as far as its sender could spend. -/
theorem spentBy_after (e : Engine σ) (a : Account) (s : Sending) (ms : List Message) (c : σ) :
    SpentBy s.sender a ((mk (.execute s ms) c).after e a) ∧
      (a.feeDebt = 0 → ((mk (.execute s ms) c).after e a).feeDebt = 0) := by
  cases h : (mk (.execute s ms) c).answer e a with
  | error err =>
    rw [after_of_refused h]
    exact ⟨.refl s.sender a, id⟩
  | ok x =>
    obtain ⟨r, d, -, hrun⟩ := answer_execute rfl h
    obtain ⟨htrail, -⟩ := execute_accepted hrun
    refine ⟨htrail.spentBy, fun hclear => ?_⟩
    obtain hsame | ⟨hzero, -⟩ := htrail.feeDebt
    · exact hsame.trans hclear
    · exact hzero

/-- On a steady chain a batch has the same outcome on accounts that are alike for its sender, at
any two times. -/
theorem answer_of_likeFor (steady : e.chain.Steady) (h : LikeFor s.sender a b) (c d : σ) :
    (mk (.execute s ms) d).answer e b = (mk (.execute s ms) c).answer e a ∧
      LikeFor s.sender ((mk (.execute s ms) c).after e a)
        ((mk (.execute s ms) d).after e b) := by
  have halike : e.Alike (fun _ _ => True) e := ⟨rfl, steady.alike⟩
  obtain ⟨hanswer, hafter, -⟩ := h.run_execute halike (c := c) (d := d) trivial ms
  unfold answer after
  rw [performed_execute, performed_execute]
  exact ⟨congrArg (Except.map Answer.response) hanswer, hafter⟩

/-- The outcome for a sender is not changed by what another one executes before. -/
theorem answer_of_after (steady : e.chain.Steady) (clear : a.feeDebt = 0)
    (distinct : t.sender ≠ s.sender) (c d d' : σ) :
    (mk (.execute t ns) d').answer e ((mk (.execute s ms) c).after e a) =
        (mk (.execute t ns) d).answer e a ∧
      LikeFor t.sender ((mk (.execute t ns) d).after e a)
        ((mk (.execute t ns) d').after e ((mk (.execute s ms) c).after e a)) := by
  obtain ⟨hspent, hclear⟩ := spentBy_after e a s ms c
  exact answer_of_likeFor steady (hspent.likeFor ((hclear clear).trans clear.symm) distinct) d d'

/-- What two senders leave is the account with the wallet that each of them leaves alone. -/
theorem after_after (steady : e.chain.Steady) (clear : a.feeDebt = 0)
    (distinct : t.sender ≠ s.sender) (c d d' : σ) :
    (mk (.execute t ns) d').after e ((mk (.execute s ms) c).after e a) =
      (a.setWallet? (((mk (.execute s ms) c).after e a).wallet? s.sender)).setWallet?
        (((mk (.execute t ns) d).after e a).wallet? t.sender) := by
  have hlike : LikeFor t.sender ((mk (.execute t ns) d).after e a)
      ((mk (.execute t ns) d').after e ((mk (.execute s ms) c).after e a)) :=
    (answer_of_after steady clear distinct c d d').2
  obtain ⟨hfirst, hclear⟩ := spentBy_after e a s ms c
  generalize (mk (.execute s ms) c).after e a = b at *
  obtain ⟨hsecond, hclear'⟩ := spentBy_after e b t ns d'
  have hb := hclear clear
  rw [← hlike.wallet, ← hfirst.eq_setWallet? (hb.trans clear.symm)]
  exact hsecond.eq_setWallet? ((hclear' hb).trans hb.symm)

end Call

open Call in
/-- While no debt is owed, two different senders are independent of each other on a steady chain.
The outcome for either is the same whether or not the other one executes before, and both orders
leave the same account. -/
theorem independent_senders [Json.Nesting] {e : Engine σ} {a : Account} {s t : Sending}
    (steady : e.chain.Steady) (clear : a.feeDebt = 0) (distinct : s.sender ≠ t.sender)
    (ms ns : List Message) (c c' d d' : σ) :
    (mk (.execute t ns) d').answer e ((mk (.execute s ms) c).after e a) =
        (mk (.execute t ns) d).answer e a ∧
      (mk (.execute s ms) c').answer e ((mk (.execute t ns) d).after e a) =
        (mk (.execute s ms) c).answer e a ∧
      (mk (.execute t ns) d').after e ((mk (.execute s ms) c).after e a) =
        (mk (.execute s ms) c').after e ((mk (.execute t ns) d).after e a) := by
  refine ⟨(answer_of_after steady clear (Ne.symm distinct) c d d').1,
    (answer_of_after steady clear distinct d c c').1, ?_⟩
  rw [after_after steady clear (Ne.symm distinct) c d d', after_after steady clear distinct d c c']
  exact setWallet?_comm (fun w hw => address_of_wallet? hw) (fun w hw => address_of_wallet? hw)
    distinct

namespace Sample

/-- Two wallets, and no debt. -/
def shared : Account :=
  { account with wallets := [wallet, { wallet with address := "other" }], feeDebt := 0 }

def other : Sending := ⟨"other", 150, false⟩

end Sample

open Call in
/-- Two holders whose sends both pass and debit different wallets, in either order. -/
theorem independent_spender_and_other :
    ((mk (.execute Sample.late [Sample.send 30]) ()).answer Sample.engine
        Sample.shared).toOption.isSome ∧
      ((mk (.execute Sample.other [Sample.send 40]) ()).answer Sample.engine
        Sample.shared).toOption.isSome ∧
      (mk (.execute Sample.other [Sample.send 40]) ()).after Sample.engine
          ((mk (.execute Sample.late [Sample.send 30]) ()).after Sample.engine Sample.shared) =
        (mk (.execute Sample.late [Sample.send 30]) ()).after Sample.engine
          ((mk (.execute Sample.other [Sample.send 40]) ()).after Sample.engine Sample.shared) ∧
      (mk (.execute Sample.other [Sample.send 40]) ()).after Sample.engine Sample.shared ≠
        Sample.shared := by
  refine ⟨by decide +kernel, by decide +kernel, ?_, by decide +kernel⟩
  exact (independent_senders Chain.steady_silent rfl (by decide) _ _ () () () ()).2.2

/-- A debt is the exception: whoever sends first repays it, with a message of its own. -/
example :
    let owing := { Sample.shared with feeDebt := 5 }
    let paid := (Call.mk (.execute Sample.late [Sample.send 30]) ()).after Sample.engine owing
    let sends (a : Account) := ((execute Sample.engine a Sample.other
      [Sample.send 40]).run ()).run.1.1.toOption.map fun r => r.messages.length
    sends owing = some 2 ∧ sends paid = some 1 := by
  decide +kernel

end AllowanceProxy
