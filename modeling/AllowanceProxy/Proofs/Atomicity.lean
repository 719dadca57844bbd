import AllowanceProxy.Proofs.Operation
import AllowanceProxy.Proofs.Passage

/-!
All or nothing. Whatever operation fails, and however far it got, the account is what it was.
-/
namespace AllowanceProxy.Account

open Asking

variable {σ : Type} {e : Engine σ} {s : Sending} {a : Account} {p q : Progress} {m : Message}
  {ms₁ ms₂ : List Message} {c d u : σ} {err : Error}

section

variable [Json.Nesting]

/-- The messages before the one that fails are executed one by one on the working copy. -/
theorem executeAll_ask_of_error (passed : Yields (executeAll e s p ms₁) c q d)
    (failed : (executeMessage e s q m).ask d = (.error err, u)) :
    (executeAll e s p (ms₁ ++ m :: ms₂)).ask c = (.error err, u) := by
  induction ms₁ generalizing p c with
  | nil =>
    obtain ⟨rfl, rfl⟩ := yields_pure.mp passed
    rw [List.nil_append, executeAll, ask_bind, failed]
  | cons m₁ ms₁ ih =>
    obtain ⟨p', v, hfirst, hrest⟩ := yields_bind.mp passed
    have hask : (executeMessage e s p m₁).ask c = (.ok p', v) := hfirst
    rw [List.cons_append, executeAll, ask_bind, hask]
    exact ih hrest

/-- Then nothing of what they did is kept. -/
theorem execute_of_error (passed : Yields (executeAll e s ⟨a, .empty⟩ ms₁) c q d)
    (failed : (executeMessage e s q m).ask d = (.error err, u)) :
    ((execute e a s (ms₁ ++ m :: ms₂)).run c).run = ((.error err, a), u) := by
  have hask : (executeAll e s ⟨a, .empty⟩ (ms₁ ++ m :: ms₂)).ask c = (.error err, u) :=
    executeAll_ask_of_error passed failed
  unfold ask at hask
  unfold execute
  rw [StateT.run_bind, Id.run_bind, hask]
  rfl

/-- An operation that fails leaves the account as it was, in every field; so does a dry run
whether it fails or not, and so does a batch whose failing message comes after others that have
refilled and debited the wallet or cleared the debt. -/
theorem all_or_nothing (e : Engine σ) (a : Account) (o : Operation) (c : σ) :
    (∀ err, (performed e a o c).1.1 = .error err → (performed e a o c).1.2 = a) ∧
      (∀ sender now ms, o = .canSpend sender now ms → (performed e a o c).1.2 = a) ∧
      ∀ s ms₁ m ms₂ p d err u, o = .execute s (ms₁ ++ m :: ms₂) →
        Yields (executeAll e s ⟨a, .empty⟩ ms₁) c p d →
        (executeMessage e s p m).ask d = (.error err, u) →
        performed e a o c = ((.error err, a), u) := by
  refine ⟨restores_performed a e c o, ?_, ?_⟩
  · rintro sender now ms rfl
    exact performed_canSpend a e c sender now ms
  · rintro s ms₁ m ms₂ p d err u rfl hpassed hfailed
    rw [performed_execute, execute_of_error hpassed hfailed]
    rfl

end

/-- The first message clears the debt, refills the wallet and debits it; the second one fails. -/
theorem all_or_nothing_send_too_much :
    ((executeAll Sample.engine Sample.late ⟨Sample.account, .empty⟩ [Sample.send 30]).ask
        ()).1.toOption.map Progress.account =
      some { Sample.account with
        feeDebt := 0, wallets := [Sample.wallet.withStanding 86600 20] } ∧
      ∃ err, (performed Sample.engine Sample.account
        (.execute Sample.late [Sample.send 30, Sample.send 30]) ()).1 =
          (.error err, Sample.account) := by
  refine ⟨by decide +kernel, ?_⟩
  have hnone : (performed Sample.engine Sample.account
      (.execute Sample.late [Sample.send 30, Sample.send 30]) ()).1.1.toOption.isNone := by
    decide +kernel
  have hrestored := (all_or_nothing Sample.engine Sample.account
    (.execute Sample.late [Sample.send 30, Sample.send 30]) ()).1
  rcases hrun : (performed Sample.engine Sample.account
    (.execute Sample.late [Sample.send 30, Sample.send 30]) ()).1 with ⟨err | x, b⟩
  all_goals rw [hrun] at hnone hrestored
  · obtain rfl : b = Sample.account := hrestored err rfl
    exact ⟨err, rfl⟩
  · cases hnone

end AllowanceProxy.Account
