import AllowanceProxy.Proofs.Run

/-!
Effects. An operation that is refused leaves the account as it was; what an accepted one makes of
it, and what it requires, is said here once for every operation.
-/
namespace AllowanceProxy

namespace Account

open Asking

variable {σ : Type} {e : Engine σ} {a : Account}

def Operation.sender : Operation → String
  | .execute s _ => s.sender
  | .canSpend sender _ _ | .addWallet sender _ | .removeWallet sender _ | .addRule sender _
  | .removeRule sender _ | .proposeOwner sender _ _ | .confirmOwner sender _
  | .cancelOwner sender => sender

/-- What an accepted operation requires, and the account that it makes. -/
inductive Effect [Json.Nesting] (e : Engine σ) (a : Account) : Operation → Account → Prop where
  | execute {s : Sending} {ms : List Message} {b : Account} {c d : σ}
      (trail : Trail e s a c (passages e s a c ms) b d)
      (messages : (passages e s a c ms).map Passage.message = ms) : Effect e a (.execute s ms) b
  | canSpend (sender : String) (now : Int) (ms : List Message) :
      Effect e a (.canSpend sender now ms) a
  | addWallet {sender : String} {w : Wallet} (isOwner : a.IsOwner sender)
      (valid : w.IsValid e.reference) (fresh : a.wallet? w.address = none) :
      Effect e a (.addWallet sender w) { a with wallets := a.wallets ++ [w] }
  | removeWallet {sender address : String} (isOwner : a.IsOwner sender)
      (found : (a.wallet? address).isSome) :
      Effect e a (.removeWallet sender address) { a with wallets := eraseWallet address a.wallets }
  | addRule {sender : String} {r : Rule} (isOwner : a.IsOwner sender)
      (fresh : RuleBook.hasKey a.rules r = false) :
      Effect e a (.addRule sender r) { a with rules := a.rules ++ [r] }
  | removeRule {sender : String} {r x : Rule} {rules : RuleBook} (isOwner : a.IsOwner sender)
      (found : RuleBook.extract? a.rules r = some (x, rules)) :
      Effect e a (.removeRule sender r) { a with rules := rules }
  | proposeOwner {sender : String} (newOwner : String) (now : Int) (isOwner : a.IsOwner sender) :
      Effect e a (.proposeOwner sender newOwner now)
        { a with pendingOwner := some newOwner, pendingSince := some now }
  | confirmOwner {sender : String} {now : Int} (isPending : a.IsPendingOwner sender)
      (elapsed : a.confirmableFrom ≤ now) :
      Effect e a (.confirmOwner sender now)
        { a with owner := sender, pendingOwner := none, pendingSince := none }
  | cancelOwner {sender : String} (entitled : a.IsOwner sender ∨ a.IsPendingOwner sender) :
      Effect e a (.cancelOwner sender) { a with pendingOwner := none, pendingSince := none }

section Management

variable {sender address : String} {newOwner : String} {now : Int} {w : Wallet} {rule : Rule}
  {r : Response} {b : Account}

theorem asOwner_ok {act : Outcome Account Response} (h : a.asOwner sender act = (.ok r, b)) :
    a.IsOwner sender ∧ act = (.ok r, b) := by
  unfold asOwner at h
  split at h
  next howner => exact ⟨howner, h⟩
  next => cases h

section

variable [Json.Nesting]

theorem effect_addWallet (h : addWallet e.reference a sender w = (.ok r, b)) :
    Effect e a (.addWallet sender w) b := by
  obtain ⟨howner, h⟩ := asOwner_ok h
  split at h
  next => cases h
  next hvalid =>
    split at h
    next => cases h
    next hfresh =>
      cases h
      exact .addWallet howner (Wallet.checkValid_ok hvalid) (by simpa using hfresh)

theorem effect_removeWallet (h : a.removeWallet sender address = (.ok r, b)) :
    Effect e a (.removeWallet sender address) b := by
  obtain ⟨howner, h⟩ := asOwner_ok h
  split at h
  next hfound =>
    cases h
    exact .removeWallet howner hfound
  next => cases h

theorem effect_addRule (h : a.addRule sender rule = (.ok r, b)) :
    Effect e a (.addRule sender rule) b := by
  obtain ⟨howner, h⟩ := asOwner_ok h
  split at h
  next => cases h
  next rules hadd =>
    cases h
    unfold RuleBook.add at hadd
    split at hadd
    next => cases hadd
    next hfresh =>
      cases hadd
      exact .addRule howner (by simpa using hfresh)

theorem effect_removeRule (h : a.removeRule sender rule = (.ok r, b)) :
    Effect e a (.removeRule sender rule) b := by
  obtain ⟨howner, h⟩ := asOwner_ok h
  split at h
  next => cases h
  next x rules hremove =>
    cases h
    unfold RuleBook.remove at hremove
    split at hremove
    next found hfound =>
      cases hremove
      exact .removeRule howner hfound
    next => cases hremove

theorem effect_proposeOwner (h : a.proposeOwner sender newOwner now = (.ok r, b)) :
    Effect e a (.proposeOwner sender newOwner now) b := by
  obtain ⟨howner, h⟩ := asOwner_ok h
  cases h
  exact .proposeOwner newOwner now howner

theorem effect_confirmOwner (h : a.confirmOwner sender now = (.ok r, b)) :
    Effect e a (.confirmOwner sender now) b := by
  unfold confirmOwner at h
  split at h
  next => cases h
  next hpending =>
    split at h
    next => cases h
    next helapsed =>
      cases h
      exact .confirmOwner (Decidable.not_not.mp hpending) (Int.not_lt.mp helapsed)

theorem effect_cancelOwner (h : a.cancelOwner sender = (.ok r, b)) :
    Effect e a (.cancelOwner sender) b := by
  unfold cancelOwner at h
  split at h
  next hentitled =>
    cases h
    exact .cancelOwner hentitled
  next => cases h

end

theorem answering_ok {o : Outcome Account Response} {x : Answer}
    (h : answering o = (.ok x, b)) : ∃ r, o = (.ok r, b) := by
  obtain ⟨_ | r, a⟩ := o
  · cases h
  · cases h
    exact ⟨r, rfl⟩

end Management

theorem effect_execute [Json.Nesting] {s : Sending} {ms : List Message} {c d : σ} {b : Account}
    {r : Response} (h : ((execute e a s ms).run c).run = ((.ok r, b), d)) :
    Effect e a (.execute s ms) b := by
  obtain ⟨htrail, hmessages, -⟩ := execute_accepted h
  exact .execute htrail hmessages

/-- An accepted operation has its effect. -/
theorem effect_of_performed [Json.Nesting] {o : Operation} {c : σ} {x : Answer} {b : Account}
    (h : (performed e a o c).1 = (.ok x, b)) : Effect e a o b := by
  cases o with
  | execute s ms =>
    obtain ⟨r, hr⟩ := answering_ok h
    exact effect_execute (Prod.ext hr rfl)
  | canSpend sender now ms =>
    obtain rfl : a = b := congrArg Prod.snd h
    exact .canSpend sender now ms
  | addWallet sender w =>
    obtain ⟨r, hr⟩ := answering_ok h
    exact effect_addWallet hr
  | removeWallet sender address =>
    obtain ⟨r, hr⟩ := answering_ok h
    exact effect_removeWallet hr
  | addRule sender rule =>
    obtain ⟨r, hr⟩ := answering_ok h
    exact effect_addRule hr
  | removeRule sender rule =>
    obtain ⟨r, hr⟩ := answering_ok h
    exact effect_removeRule hr
  | proposeOwner sender newOwner now =>
    obtain ⟨r, hr⟩ := answering_ok h
    exact effect_proposeOwner hr
  | confirmOwner sender now =>
    obtain ⟨r, hr⟩ := answering_ok h
    exact effect_confirmOwner hr
  | cancelOwner sender =>
    obtain ⟨r, hr⟩ := answering_ok h
    exact effect_cancelOwner hr

/-- What no operation changes. -/
structure Fixed (a b : Account) : Prop where
  updateDelay : b.updateDelay = a.updateDelay
  signers : b.signers = a.signers
  pools : b.pools = a.pools
  feeRepayAddress : b.feeRepayAddress = a.feeRepayAddress
  homeNetwork : b.homeNetwork = a.homeNetwork

theorem Fixed.refl (a : Account) : Fixed a a := ⟨rfl, rfl, rfl, rfl, rfl⟩

theorem Fixed.trans {a b c : Account} (h : Fixed a b) (k : Fixed b c) : Fixed a c :=
  ⟨k.updateDelay.trans h.updateDelay, k.signers.trans h.signers, k.pools.trans h.pools,
    k.feeRepayAddress.trans h.feeRepayAddress, k.homeNetwork.trans h.homeNetwork⟩

theorem SpentBy.fixed {x : String} {a b : Account} (h : SpentBy x a b) : Fixed a b := by
  rw [h.frame]
  exact ⟨rfl, rfl, rfl, rfl, rfl⟩

variable [Json.Nesting]

theorem Effect.fixed {o : Operation} {b : Account} (h : Effect e a o b) : Fixed a b := by
  cases h with
  | execute trail messages => exact trail.spentBy.fixed
  | _ => exact ⟨rfl, rfl, rfl, rfl, rfl⟩

end Account

open Account

namespace Call

variable {σ : Type} {e : Engine σ} {a : Account} {k : Call σ}

variable [Json.Nesting]

def Accepted (e : Engine σ) (a : Account) (k : Call σ) : Prop := ∃ x, k.answer e a = .ok x

theorem accepted_iff_isSome : k.Accepted e a ↔ (k.answer e a).toOption.isSome := by
  unfold Accepted
  cases k.answer e a <;> simp [Except.toOption]

instance (e : Engine σ) (a : Account) (k : Call σ) : Decidable (k.Accepted e a) :=
  decidable_of_iff _ accepted_iff_isSome.symm

theorem effect_of_answer {x : Answer} (h : k.answer e a = .ok x) :
    Effect e a k.operation (k.after e a) :=
  effect_of_performed (Prod.ext h rfl)

theorem Accepted.effect (h : k.Accepted e a) : Effect e a k.operation (k.after e a) := by
  obtain ⟨x, hx⟩ := h
  exact effect_of_answer hx

theorem after_of_not_accepted (h : ¬ k.Accepted e a) : k.after e a = a := by
  cases hx : k.answer e a with
  | error err => exact after_of_refused hx
  | ok x => exact absurd ⟨x, hx⟩ h

/-- A call has its effect, or it leaves the account as it was. -/
theorem effect_or_refused (e : Engine σ) (a : Account) (k : Call σ) :
    Effect e a k.operation (k.after e a) ∨ k.after e a = a := by
  cases hx : k.answer e a with
  | error err => exact .inr (after_of_refused hx)
  | ok x => exact .inl (effect_of_answer hx)

theorem fixed (e : Engine σ) (a : Account) (k : Call σ) : Fixed a (k.after e a) := by
  rcases k.effect_or_refused e a with heffect | hrefused
  · exact heffect.fixed
  · rw [hrefused]
    exact .refl a

end Call

variable [Json.Nesting]

theorem fixed_afterAll {σ : Type} (e : Engine σ) (a : Account) (ks : List (Call σ)) :
    Fixed a (afterAll e a ks) := by
  induction ks generalizing a with
  | nil => exact .refl a
  | cons k ks ih => exact (k.fixed e a).trans (ih (k.after e a))

end AllowanceProxy
