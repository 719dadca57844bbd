import AllowanceProxy.Account.Operation
import AllowanceProxy.Proofs.Asking
import AllowanceProxy.Proofs.Frame

/-!
The operations one by one. A refused one returns the account as it was, and apart from the
execution of messages only the removal of a wallet makes an account lose or change one.
-/
namespace AllowanceProxy.Account

open Asking

variable {σ α β : Type} {a : Account}

/-- The outcome of an operation, and the chain after it. -/
def performed [Json.Nesting] (e : Engine σ) (a : Account) (o : Operation) (c : σ) :
    Outcome Account Answer × σ :=
  ((perform e a o).run c).run

/-- A fault comes with the account as it was. -/
def Restores (a : Account) (o : Outcome Account α) : Prop := ∀ err, o.1 = .error err → o.2 = a

section Restores

variable {sender address : String} {now : Int} {r : Rule}

theorem restores_error (a : Account) (err : Error) : Restores (α := α) a (.error err, a) :=
  fun _ _ => rfl

theorem restores_ok (x : α) (b : Account) : Restores a (.ok x, b) := by
  intro err h
  cases h

theorem Restores.answering {o : Outcome Account Response} (h : Restores a o) :
    Restores a (answering o) := by
  intro err herr
  obtain ⟨_ | r, b⟩ := o
  · exact h _ rfl
  · cases herr

theorem restores_asOwner {act : Outcome Account Response} (h : Restores a act) :
    Restores a (a.asOwner sender act) := by
  unfold asOwner
  split
  · exact h
  · exact restores_error a _

theorem restores_addWallet (reference : String) (w : Wallet) :
    Restores a (addWallet reference a sender w) := by
  apply restores_asOwner
  split
  · exact restores_error a _
  · split
    · exact restores_error a _
    · exact restores_ok _ _

theorem restores_removeWallet : Restores a (a.removeWallet sender address) := by
  apply restores_asOwner
  split
  · exact restores_ok _ _
  · exact restores_error a _

theorem restores_addRule : Restores a (a.addRule sender r) := by
  apply restores_asOwner
  split
  · exact restores_error a _
  · exact restores_ok _ _

theorem restores_removeRule : Restores a (a.removeRule sender r) := by
  apply restores_asOwner
  split
  · exact restores_error a _
  · exact restores_ok _ _

theorem restores_confirmOwner : Restores a (a.confirmOwner sender now) := by
  unfold confirmOwner
  split
  · exact restores_error a _
  · split
    · exact restores_error a _
    · exact restores_ok _ _

theorem restores_cancelOwner : Restores a (a.cancelOwner sender) := by
  unfold cancelOwner
  split
  · exact restores_ok _ _
  · exact restores_error a _

variable [Json.Nesting]

/-- A batch is executed on a working copy, which a fault throws away. -/
theorem run_execute (e : Engine σ) (a : Account) (s : Sending) (ms : List Message) (c : σ) :
    ((execute e a s ms).run c).run = match (executeAll e s ⟨a, .empty⟩ ms).ask c with
      | (.ok p, d) => ((.ok p.response, p.account), d)
      | (.error err, d) => ((.error err, a), d) := by
  unfold execute ask
  rw [StateT.run_bind, Id.run_bind]
  rcases ((executeAll e s ⟨a, .empty⟩ ms).run.run c).run with ⟨_ | p, d⟩ <;> rfl

theorem restores_execute (e : Engine σ) (s : Sending) (ms : List Message) (c : σ) :
    Restores a ((execute e a s ms).run c).run.1 := by
  rw [run_execute]
  rcases (executeAll e s ⟨a, .empty⟩ ms).ask c with ⟨_ | p, d⟩
  · exact restores_error a _
  · exact restores_ok _ _

end Restores

section Perform

variable [Json.Nesting] (e : Engine σ) (a) (c : σ)

@[simp] theorem performed_execute (s : Sending) (ms : List Message) :
    performed e a (.execute s ms) c =
      (answering ((execute e a s ms).run c).run.1, ((execute e a s ms).run c).run.2) := rfl

theorem performed_canSpend (sender : String) (now : Int) (ms : List Message) :
    (performed e a (.canSpend sender now ms) c).1.2 = a := rfl

theorem restores_performed (o : Operation) : Restores a (performed e a o c).1 := by
  cases o with
  | execute s ms => exact (restores_execute e s ms c).answering
  | canSpend sender now ms => exact fun _ _ => rfl
  | addWallet sender w => exact (restores_addWallet e.reference w).answering
  | removeWallet sender address => exact restores_removeWallet.answering
  | addRule sender r => exact restores_addRule.answering
  | removeRule sender r => exact restores_removeRule.answering
  | proposeOwner sender newOwner now =>
    exact (restores_asOwner (restores_ok _ _)).answering
  | confirmOwner sender now => exact restores_confirmOwner.answering
  | cancelOwner sender => exact restores_cancelOwner.answering

end Perform

section Wallets

variable {sender address : String} {w : Wallet}

/-- An owner's operation touches no wallet if its effect on the account does not. -/
theorem wallets_asOwner {act : Outcome Account Response} (h : act.2.wallets = a.wallets) :
    (a.asOwner sender act).2.wallets = a.wallets := by
  unfold asOwner
  split
  · exact h
  · rfl

theorem wallets_addRule (r : Rule) : (a.addRule sender r).2.wallets = a.wallets := by
  apply wallets_asOwner
  split <;> rfl

theorem wallets_removeRule (r : Rule) : (a.removeRule sender r).2.wallets = a.wallets := by
  apply wallets_asOwner
  split <;> rfl

theorem wallets_confirmOwner (now : Int) :
    (a.confirmOwner sender now).2.wallets = a.wallets := by
  unfold confirmOwner
  split
  · rfl
  · split <;> rfl

theorem wallets_cancelOwner : (a.cancelOwner sender).2.wallets = a.wallets := by
  unfold cancelOwner
  split <;> rfl

/-- A new wallet comes after those that are there. -/
theorem wallet?_addWallet (reference : String) (v : Wallet) (h : a.wallet? address = some w) :
    (addWallet reference a sender v).2.wallet? address = some w := by
  unfold addWallet asOwner
  split
  · split
    · exact h
    · split
      · exact h
      · unfold wallet? at h ⊢
        rw [List.find?_append, h]
        rfl
  · exact h

theorem find?_eraseWallet_of_ne {x : String} (ws : List Wallet) (h : x ≠ address) :
    (eraseWallet x ws).find? (fun u => u.address = address) =
      ws.find? (fun u => u.address = address) := by
  induction ws with
  | nil => rfl
  | cons u us ih =>
    by_cases hu : u.address = x
    · have hne : u.address ≠ address := hu ▸ h
      rw [eraseWallet, if_pos hu, List.find?_cons_of_neg (by simpa using hne)]
    · by_cases hua : u.address = address
      · rw [eraseWallet, if_neg hu, List.find?_cons_of_pos (by simpa using hua),
          List.find?_cons_of_pos (by simpa using hua)]
      · rw [eraseWallet, if_neg hu, List.find?_cons_of_neg (by simpa using hua),
          List.find?_cons_of_neg (by simpa using hua), ih]

theorem wallet?_removeWallet_of_ne {x : String} (h : x ≠ address) :
    (a.removeWallet sender x).2.wallet? address = a.wallet? address := by
  unfold removeWallet asOwner
  split
  · split
    · exact find?_eraseWallet_of_ne a.wallets h
    · rfl
  · rfl

variable [Json.Nesting]

/-- No operation but the execution of messages changes a wallet, and none but its removal
removes it. -/
theorem wallet?_performed {e : Engine σ} {o : Operation} {c : σ}
    (found : a.wallet? address = some w)
    (notExecuted : ∀ s ms, o ≠ .execute s ms)
    (kept : ∀ sender, o = .removeWallet sender address →
      ∃ err, (performed e a o c).1.1 = .error err) :
    (performed e a o c).1.2.wallet? address = some w := by
  have hsame {b : Account} (h : b.wallets = a.wallets) : b.wallet? address = some w := by
    unfold wallet? at found ⊢
    rw [h, found]
  cases o with
  | execute s ms => exact absurd rfl (notExecuted s ms)
  | canSpend sender now ms => exact found
  | addWallet sender v => exact wallet?_addWallet e.reference v found
  | removeWallet sender x =>
    by_cases hx : x = address
    · subst hx
      obtain ⟨err, herr⟩ := kept sender rfl
      rw [restores_performed a e c _ err herr]
      exact found
    · exact (wallet?_removeWallet_of_ne hx).trans found
  | addRule sender r => exact hsame (wallets_addRule r)
  | removeRule sender r => exact hsame (wallets_removeRule r)
  | proposeOwner sender newOwner now => exact hsame (wallets_asOwner rfl)
  | confirmOwner sender now => exact hsame (wallets_confirmOwner now)
  | cancelOwner sender => exact hsame wallets_cancelOwner

end Wallets

end AllowanceProxy.Account
