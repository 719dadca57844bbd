import AllowanceProxy.Proofs.Faults

/-!
Reachable accounts: those that a founding and calls after it lead to. They keep the invariant, so
that no execution on them fails for want of a sound limit.
-/
namespace AllowanceProxy.Account

variable {σ : Type} {e : Engine σ} {a : Account}

section Runs

variable [Json.Nesting]

/-- The accounts that a founding and calls after it lead to, whether they succeed or fail. -/
inductive Reachable (e : Engine σ) : Account → Prop where
  | founded {f : Founding} {a : Account} {r : Response}
      (admissible : ∀ w ∈ f.wallets, w.Admissible) (founded : found e.reference f = .ok (a, r)) :
      Reachable e a
  | called {a : Account} (k : Call σ) (reachable : Reachable e a)
      (admissible : k.operation.Admissible) : Reachable e (k.after e a)

namespace Reachable

theorem sound (h : Reachable e a) : a.Sound e.reference := by
  induction h with
  | founded admissible founded => exact sound_of_found founded admissible
  | called k reachable admissible ih =>
    rcases k.effect_or_refused e _ with heffect | hrefused
    · exact heffect.sound ih admissible
    · rw [hrefused]
      exact ih

theorem afterAll (h : Reachable e a) {ks : List (Call σ)}
    (admissible : ∀ k ∈ ks, k.operation.Admissible) : Reachable e (afterAll e a ks) := by
  induction ks generalizing a with
  | nil => exact h
  | cons k ks ih =>
    obtain ⟨hk, hks⟩ := List.forall_mem_cons.mp admissible
    exact ih (.called k h hk) hks

end Reachable

end Runs

end AllowanceProxy.Account

/-! The sample account as it is founded, with calls that succeed and calls that fail. -/
namespace AllowanceProxy.Sample

open Account

def founding : Founding where
  owner := .str "owner"
  feeRepayAddress := .str "fees"
  network := .str "local"
  wallets := [wallet]
  signers := [⟨"signer", "human"⟩]
  feeDebt := .int 5
  updateDelay := .int 60

def founded : Account where
  owner := "owner"
  pendingOwner := none
  pendingSince := none
  updateDelay := 60
  signers := [⟨"signer", "human"⟩]
  wallets := [wallet]
  rules := []
  pools := Registry.localPools
  feeDebt := 5
  feeRepayAddress := "fees"
  homeNetwork := "local"

def friend : Wallet := { wallet with address := "friend", unit := .months }

def management : List (Call Unit) :=
  [⟨.addWallet "owner" friend, ()⟩, ⟨.addWallet "owner" wallet, ()⟩,
    ⟨.addRule "owner" ⟨"friend", "farm", "claim", none⟩, ()⟩,
    ⟨.execute late [send 30], ()⟩, ⟨.execute late [send 30], ()⟩,
    ⟨.proposeOwner "owner" "heir" 300, ()⟩]

theorem admissible_wallet : wallet.Admissible := ⟨⟨by decide, by decide, by decide⟩, by decide⟩

theorem admissible_friend : friend.Admissible := ⟨⟨by decide, by decide, by decide⟩, by decide⟩

theorem reachable_founded : Reachable engine founded := by
  have hfound : found engine.reference founding =
      .ok (founded, (Response.action "instantiate").add "signer" "signer") := by rfl
  exact .founded (by simp [founding, admissible_wallet]) hfound

theorem admissible_management : ∀ k ∈ management, k.operation.Admissible := by
  simp [management, Operation.Admissible, admissible_wallet, admissible_friend]

end AllowanceProxy.Sample

namespace AllowanceProxy.Account

variable {σ : Type} {e : Engine σ} {a : Account}

/-- Every reachable account keeps the invariant, and a batch on it never fails for want of a
limit or because of a limit above its total, unless the chain itself answers with such a fault. -/
theorem reachable_sound [Json.Nesting] (h : Reachable e a) :
    a.Sound e.reference ∧
      ∀ s ms c err b d, ((execute e a s ms).run c).run = ((.error err, b), d) → err.OfLimit →
        e.chain.Raises err := by
  refine ⟨h.sound, ?_⟩
  intro s ms c err b d hrun
  rw [run_execute] at hrun
  split at hrun
  next => cases hrun
  next cause u hall =>
    cases hrun
    exact excuses_executeAll h.sound c err d hall

/-- A wallet has been added and another one refilled and debited; one more spend is refused. -/
theorem reachable_sound_sample :
    (afterAll Sample.engine Sample.founded Sample.management).wallets =
        [Sample.wallet.withStanding 86600 20, Sample.friend] ∧
      (afterAll Sample.engine Sample.founded Sample.management).Sound "uusd" ∧
      ∃ err b d, ((execute Sample.engine (afterAll Sample.engine Sample.founded
          Sample.management) Sample.late [Sample.send 30]).run ()).run = ((.error err, b), d) ∧
        ¬ err.OfLimit := by
  obtain ⟨hsound, hfaults⟩ :=
    reachable_sound (Sample.reachable_founded.afterAll Sample.admissible_management)
  refine ⟨by decide +kernel, hsound, ?_⟩
  have hrefused : ((execute Sample.engine (afterAll Sample.engine Sample.founded
      Sample.management) Sample.late [Sample.send 30]).run ()).run.1.1.toOption.isNone := by
    decide +kernel
  rcases h : ((execute Sample.engine (afterAll Sample.engine Sample.founded
    Sample.management) Sample.late [Sample.send 30]).run ()).run with ⟨⟨err | r, b⟩, d⟩
  · refine ⟨err, b, d, rfl, ?_⟩
    intro hlimit
    obtain ⟨contract, q, c, hraised⟩ := hfaults _ _ _ _ _ _ h hlimit
    cases hraised
    rcases hlimit with hkind | hkind
    · cases hkind
    · cases hkind
  · rw [h] at hrefused
    cases hrefused

end AllowanceProxy.Account
