import AllowanceProxy.Proofs.Effect
import AllowanceProxy.Proofs.Forwarding
import Mathlib.Data.List.Forall2

/-!
Separation of privileges. Which sender, with which operation, may change which part of an
account; and a sender without any standing changes nothing and learns nothing from the chain.
-/
namespace AllowanceProxy

open Asking Account

variable {σ α β : Type}

namespace Asking

/-- The computation leaves the chain as it is, whether it succeeds or fails. -/
def Still (x : Asking σ α) : Prop := ∀ c, (x.ask c).2 = c

theorem still_pure (a : α) : Still (pure a : Asking σ α) := fun _ => rfl

theorem still_throw (err : Error) : Still (throw err : Asking σ α) := fun _ => rfl

theorem still_lift (x : Except Error α) : Still (lift x : Asking σ α) := fun _ => rfl

theorem still_bind {x : Asking σ α} {f : α → Asking σ β} (hx : Still x)
    (hf : ∀ c a d, Yields x c a d → Still (f a)) : Still (x >>= f) := by
  intro c
  have hfirst := hx c
  rw [ask_bind]
  split
  next a d ha =>
    obtain rfl : d = c := by rwa [ha] at hfirst
    exact hf d a d ha d
  next herr => rwa [herr] at hfirst

end Asking

/-- What the owner has settled about a wallet: all of it but the next reset and the rest of the
limit. -/
def Wallet.terms (w : Wallet) : Wallet := w.withStanding 0 0

@[simp] theorem Wallet.terms_withStanding (w : Wallet) (reset : Int) (left : Nat) :
    (w.withStanding reset left).terms = w.terms := withStanding_withStanding w reset left 0 0

/-- The engine on a chain that notes every query. -/
def Engine.noting (e : Engine σ) : Engine (σ × List (String × WireQuery)) :=
  ⟨e.chain.logged fun _ contract q => some (contract, q), e.reference⟩

namespace Account

/-- The address holds a wallet that it may spend with. -/
def HasValidWallet (reference : String) (a : Account) (address : String) : Prop :=
  ∃ w, a.wallet? address = some w ∧ w.IsValid reference

section Execution

variable {e : Engine σ} {s : Sending} {a b : Account} {m : Message} {ms : List Message}
  {xs : List (Passage σ)} {c d : σ} {r : Response} {v w : Wallet} {x : String}

theorem forall₂_replaceWallet {ws : List Wallet} (hv : v.terms = w.terms)
    (h : ws.find? (fun u => u.address = w.address) = some w) :
    List.Forall₂ (fun u u' => u' = u ∨ u.address = w.address ∧ u'.terms = u.terms) ws
      (replaceWallet v ws) := by
  have haddress : v.address = w.address := by
    simpa [Wallet.terms] using congrArg Wallet.address hv
  have hsame (us : List Wallet) : List.Forall₂
      (fun u u' => u' = u ∨ u.address = w.address ∧ u'.terms = u.terms) us us :=
    List.forall₂_same.mpr fun _ _ => .inl rfl
  induction ws with
  | nil => exact .nil
  | cons u us ih =>
    unfold replaceWallet
    split
    next hu =>
      rw [haddress] at hu
      rw [List.find?_cons_of_pos (by simpa using hu)] at h
      obtain rfl := Option.some.inj h
      exact .cons (.inr ⟨rfl, hv⟩) (hsame us)
    next hu =>
      rw [haddress] at hu
      rw [List.find?_cons_of_neg (by simpa using hu)] at h
      exact .cons (.inl rfl) (ih h)

/-- Spending changes no wallet of another address, and of the own one only its standing. -/
theorem SpentBy.forall₂_wallets (h : SpentBy x a b) :
    List.Forall₂ (fun u u' => u' = u ∨ u.address = x ∧ u'.terms = u.terms) a.wallets b.wallets := by
  cases h with
  | debt n => exact List.forall₂_same.mpr fun _ _ => .inl rfl
  | wallet n found reset left =>
    obtain rfl := address_of_wallet? found
    exact forall₂_replaceWallet (Wallet.terms_withStanding _ reset left) found

section

variable [Json.Nesting]

/-- The owner's messages touch nothing but the debt. -/
theorem Passes.of_isOwner (h : Passes e s a m c b r d) (isOwner : a.IsOwner s.sender) :
    b = { a with feeDebt := b.feeDebt } := by
  cases h with
  | owner isOwner' movement repays =>
    obtain ⟨n, rfl⟩ := repays.eq_setDebt
    rfl
  | covered notOwner covered => exact absurd isOwner notOwner
  | spent notOwner => exact absurd isOwner notOwner

theorem Trail.of_isOwner (h : Trail e s a c xs b d) (isOwner : a.IsOwner s.sender) :
    b = { a with feeDebt := b.feeDebt } := by
  induction h with
  | nil a c => rfl
  | @cons x xs b d passes rest ih =>
    have hfirst := passes.of_isOwner isOwner
    have hrest := ih (passes.spentBy.isOwner_iff.mpr isOwner)
    rw [hrest, hfirst]

theorem exists_bankSend_of_kind {mv : Movement} (h : Movement.ofMessage m = .ok mv)
    (kind : mv.kind = .bankSend) : ∃ recipient coins, m = .bankSend recipient coins := by
  cases m with
  | bankSend recipient coins => exact ⟨recipient, coins, rfl⟩
  | bankBurn coins =>
    obtain rfl := Except.ok.inj h
    cases kind
  | chainOperation _ _ =>
    obtain rfl := Except.ok.inj h
    cases kind
  | wasmExecute contract msg funds =>
    obtain ⟨decoded, -, h⟩ := except_bind_eq_ok.mp h
    split at h
    · obtain rfl := Except.ok.inj h
      cases kind
    · split at h
      · obtain ⟨moved, -, h⟩ := except_bind_eq_ok.mp h
        obtain rfl := Except.ok.inj h
        cases kind
      · obtain rfl := Except.ok.inj h
        cases kind

/-- Before a movement the debt stays, or a native send clears it. -/
theorem Repays.feeDebt {mv : Movement} {repayments : List Message}
    (h : Repays e a mv c b r repayments d) (movement : Movement.ofMessage m = .ok mv) :
    b.feeDebt = a.feeDebt ∨
      b.feeDebt = 0 ∧ ∃ recipient coins, m = .bankSend recipient coins := by
  cases h with
  | nothing idle => exact .inl rfl
  | debt kind funds owed convertible price =>
    exact .inr ⟨rfl, exists_bankSend_of_kind movement kind⟩

theorem Passes.feeDebt (h : Passes e s a m c b r d) :
    b.feeDebt = a.feeDebt ∨ b.feeDebt = 0 ∧ (∃ recipient coins, m = .bankSend recipient coins) ∧
      (a.IsOwner s.sender ∨ a.HasValidWallet e.reference s.sender) := by
  cases h with
  | owner isOwner movement repays =>
    exact (repays.feeDebt movement).imp_right fun ⟨hzero, hsend⟩ => ⟨hzero, hsend, .inl isOwner⟩
  | covered notOwner covered => exact .inl rfl
  | spent notOwner movement uncovered priceable found valid repays debited numeral =>
    exact (repays.feeDebt movement).imp_right
      fun ⟨hzero, hsend⟩ => ⟨hzero, hsend, .inr ⟨_, found, valid⟩⟩

/-- A message of a sender who is neither the owner nor has a valid wallet leaves the account as it
is. -/
theorem Passes.of_stranger (h : Passes e s a m c b r d) (notOwner : ¬ a.IsOwner s.sender)
    (noWallet : ¬ a.HasValidWallet e.reference s.sender) : b = a := by
  cases h with
  | owner isOwner => exact absurd isOwner notOwner
  | covered => rfl
  | spent notOwner' movement uncovered priceable found valid =>
    exact absurd ⟨_, found, valid⟩ noWallet

theorem Trail.of_stranger (h : Trail e s a c xs b d) (notOwner : ¬ a.IsOwner s.sender)
    (noWallet : ¬ a.HasValidWallet e.reference s.sender) : b = a := by
  induction h with
  | nil a c => rfl
  | cons passes rest ih =>
    have hsame := passes.of_stranger notOwner noWallet
    rw [hsame] at ih
    exact ih notOwner noWallet

end

theorem SpentBy.hasValidWallet {reference : String} (h : SpentBy x a b)
    (hb : b.HasValidWallet reference x) : a.HasValidWallet reference x := by
  obtain ⟨v, found, valid⟩ := hb
  obtain ⟨w, l, hw, hflag, hl, hdenom⟩ := h.valid_before found valid
  exact ⟨w, hw, hflag, by simp [hl, hdenom]⟩

variable [Json.Nesting]

/-- Over a batch the debt changes only to zero, and only if somebody entitled sends coins. -/
theorem Trail.feeDebt (h : Trail e s a c xs b d) :
    b.feeDebt = a.feeDebt ∨ b.feeDebt = 0 ∧
      (∃ recipient coins, Message.bankSend recipient coins ∈ xs.map Passage.message) ∧
      (a.IsOwner s.sender ∨ a.HasValidWallet e.reference s.sender) := by
  induction h with
  | nil a c => exact .inl rfl
  | @cons x xs b d passes rest ih =>
    have hframe := passes.spentBy
    rcases ih with hsame | ⟨hzero, ⟨recipient, coins, hmem⟩, hentitled⟩
    · rcases passes.feeDebt with hfirst | ⟨hzero, ⟨recipient, coins, hsend⟩, hentitled⟩
      · exact .inl (hsame.trans hfirst)
      · exact .inr ⟨hsame.trans hzero, ⟨recipient, coins, by simp [hsend]⟩, hentitled⟩
    · refine .inr ⟨hzero, ⟨recipient, coins, List.mem_cons_of_mem _ hmem⟩, ?_⟩
      exact hentitled.imp hframe.isOwner_iff.mp hframe.hasValidWallet

end Execution

section Stranger

variable {e : Engine σ} {s : Sending} {a : Account} {p : Progress} {m : Message}
  {ms : List Message} {mv : Movement}

theorem still_executeSpend (noWallet : ¬ p.account.HasValidWallet e.reference s.sender) :
    Still (executeSpend e s p m mv) := by
  unfold executeSpend
  split
  next => exact still_throw _
  next w hw =>
    refine still_bind (still_lift _) ?_
    intro c _ d hvalid
    have hv := Wallet.checkValid_ok (yields_lift.mp hvalid).1
    exact absurd ⟨w, hw, hv⟩ noWallet

variable [Json.Nesting]

theorem still_executeMessage (notOwner : ¬ p.account.IsOwner s.sender)
    (noWallet : ¬ p.account.HasValidWallet e.reference s.sender) :
    Still (executeMessage e s p m) := by
  refine still_bind (still_lift _) fun _ mv _ _ => ?_
  rw [if_neg notOwner]
  refine still_bind (still_lift _) fun _ covered _ _ => ?_
  split
  · exact still_pure _
  · exact still_bind (still_lift _) fun _ _ _ _ => still_executeSpend noWallet

/-- A stranger's batch asks nothing, however far it gets. -/
theorem still_executeAll (notOwner : ¬ p.account.IsOwner s.sender)
    (noWallet : ¬ p.account.HasValidWallet e.reference s.sender) :
    Still (executeAll e s p ms) := by
  induction ms generalizing p with
  | nil => exact still_pure p
  | cons m ms ih =>
    refine still_bind (still_executeMessage notOwner noWallet) fun c q d hq => ?_
    -- The next message finds the same account, so its sender is still a stranger.
    obtain ⟨r, hpasses⟩ := passes_of_yields hq
    have hsame := hpasses.of_stranger notOwner noWallet
    exact ih (by rwa [hsame]) (by rwa [hsame])

theorem performed_execute_of_stranger (notOwner : ¬ a.IsOwner s.sender)
    (noWallet : ¬ a.HasValidWallet e.reference s.sender) (c : σ) :
    (performed e a (.execute s ms) c).2 = c := by
  have hstill : ((executeAll e s ⟨a, .empty⟩ ms).ask c).2 = c :=
    still_executeAll (p := ⟨a, .empty⟩) notOwner noWallet c
  rw [performed_execute, run_execute]
  rcases hall : (executeAll e s ⟨a, .empty⟩ ms).ask c with ⟨_ | p, d⟩
  all_goals
    rw [hall] at hstill
    exact hstill

end Stranger

/-- `w` is left as it is, or the operation is an execution by its own address, which does not own
the account, and changes its standing. -/
def SpendsFrom (a : Account) (o : Operation) (w v : Wallet) : Prop :=
  v = w ∨ v.terms = w.terms ∧ w.address ≠ a.owner ∧
    ∃ s ms, o = .execute s ms ∧ s.sender = w.address

/-- Every change from one account to another is one that the sender of the operation is entitled
to. -/
structure Entitled (e : Engine σ) (a : Account) (o : Operation) (b : Account) : Prop where
  terms : ¬ a.IsOwner o.sender →
    b.rules = a.rules ∧ b.wallets.map Wallet.terms = a.wallets.map Wallet.terms
  owner : b.owner ≠ a.owner →
    ∃ heir now, o = .confirmOwner heir now ∧ a.IsPendingOwner heir ∧ b.owner = heir
  pending : b.pendingOwner ≠ a.pendingOwner ∨ b.pendingSince ≠ a.pendingSince →
    a.IsOwner o.sender ∨ a.IsPendingOwner o.sender
  wallets : (∃ w, o = .addWallet a.owner w ∧ b.wallets = a.wallets ++ [w]) ∨
    (∃ address, o = .removeWallet a.owner address ∧ b.wallets = eraseWallet address a.wallets) ∨
    List.Forall₂ (SpendsFrom a o) a.wallets b.wallets
  debt : b.feeDebt ≠ a.feeDebt → b.feeDebt = 0 ∧
    ∃ s ms recipient coins, o = .execute s ms ∧ Message.bankSend recipient coins ∈ ms ∧
      (a.IsOwner s.sender ∨ a.HasValidWallet e.reference s.sender)
  byOwner : ∀ s ms, o = .execute s ms → a.IsOwner s.sender → b = { a with feeDebt := b.feeDebt }
  byStranger : ∀ s ms, o = .execute s ms → ¬ a.IsOwner s.sender →
    ¬ a.HasValidWallet e.reference s.sender → b = a

section Entitled

variable {e : Engine σ} {a b : Account} {o : Operation}

theorem Entitled.refl (e : Engine σ) (a : Account) (o : Operation) : Entitled e a o a where
  terms _ := ⟨rfl, rfl⟩
  owner changed := absurd rfl changed
  pending changed := by simp at changed
  wallets := .inr (.inr (List.forall₂_same.mpr fun _ _ => .inl rfl))
  debt changed := absurd rfl changed
  byOwner _ _ _ _ := rfl
  byStranger _ _ _ _ _ := rfl

theorem map_terms_of_forall₂ {ws vs : List Wallet}
    (h : List.Forall₂ (fun w v => v.terms = w.terms) ws vs) :
    vs.map Wallet.terms = ws.map Wallet.terms := by
  induction h with
  | nil => rfl
  | cons hfirst hrest ih => rw [List.map_cons, List.map_cons, hfirst, ih]

variable [Json.Nesting]

/-- An accepted batch of messages. -/
theorem Trail.entitled {s : Sending} {c d : σ} {xs : List (Passage σ)}
    (h : Trail e s a c xs b d) :
    Entitled e a (.execute s (xs.map Passage.message)) b where
  terms _ := by
    refine ⟨h.spentBy.rules, map_terms_of_forall₂ (h.spentBy.forall₂_wallets.imp ?_)⟩
    rintro w v (rfl | ⟨-, hterms⟩)
    · rfl
    · exact hterms
  owner changed := absurd h.spentBy.owner changed
  pending changed := by
    rw [h.spentBy.frame] at changed
    simp at changed
  wallets := by
    refine .inr (.inr ?_)
    by_cases howner : a.IsOwner s.sender
    · rw [h.of_isOwner howner]
      exact List.forall₂_same.mpr fun _ _ => .inl rfl
    · refine h.spentBy.forall₂_wallets.imp ?_
      rintro w v (hsame | ⟨haddress, hterms⟩)
      · exact .inl hsame
      · refine .inr ⟨hterms, ?_, s, _, rfl, haddress.symm⟩
        rw [haddress]
        exact Ne.symm howner
  debt changed := by
    obtain hsame | ⟨hzero, ⟨recipient, coins, hmem⟩, hentitled⟩ := h.feeDebt
    · exact absurd hsame changed
    · exact ⟨hzero, s, _, recipient, coins, rfl, hmem, hentitled⟩
  byOwner := by
    rintro _ _ ⟨⟩ howner
    exact h.of_isOwner howner
  byStranger := by
    rintro _ _ ⟨⟩ hnotOwner hnoWallet
    exact h.of_stranger hnotOwner hnoWallet

/-- An operation changes nothing that its sender is not entitled to change. -/
theorem Effect.entitled (h : Effect e a o b) : Entitled e a o b := by
  have hsame := Entitled.refl e a o
  cases h with
  | execute trail messages => exact messages ▸ trail.entitled
  | canSpend sender now ms => exact hsame
  | addWallet isOwner valid fresh =>
    obtain rfl := isOwner
    exact { hsame with
      terms := fun notOwner => absurd rfl notOwner
      wallets := .inl ⟨_, rfl, rfl⟩
      byOwner := nofun
      byStranger := nofun }
  | removeWallet isOwner found =>
    obtain rfl := isOwner
    exact { hsame with
      terms := fun notOwner => absurd rfl notOwner
      wallets := .inr (.inl ⟨_, rfl, rfl⟩)
      byOwner := nofun
      byStranger := nofun }
  | addRule isOwner fresh =>
    exact { hsame with
      terms := fun notOwner => absurd isOwner notOwner
      byOwner := nofun
      byStranger := nofun }
  | removeRule isOwner found =>
    exact { hsame with
      terms := fun notOwner => absurd isOwner notOwner
      byOwner := nofun
      byStranger := nofun }
  | proposeOwner newOwner now isOwner =>
    exact { hsame with
      pending := fun _ => .inl isOwner
      byOwner := nofun
      byStranger := nofun }
  | confirmOwner isPending elapsed =>
    exact { hsame with
      owner := fun _ => ⟨_, _, rfl, isPending, rfl⟩
      pending := fun _ => .inr isPending
      byOwner := nofun
      byStranger := nofun }
  | cancelOwner entitled =>
    exact { hsame with
      pending := fun _ => entitled
      byOwner := nofun
      byStranger := nofun }

end Entitled

end Account

namespace Call

variable [Json.Nesting] (e : Engine σ) (a : Account) (k : Call σ)

/-- What the call asks the chain. -/
def queries : List (String × WireQuery) :=
  (performed e.noting a k.operation (k.chain, [])).2.2

/-- The batch of somebody without any standing asks nothing and leaves the chain as it is. -/
def StrangerAsksNothing : Prop :=
  ∀ s ms, k.operation = .execute s ms → ¬ a.IsOwner s.sender →
    ¬ a.HasValidWallet e.reference s.sender →
    k.queries e a = [] ∧ (performed e a k.operation k.chain).2 = k.chain

theorem strangerAsksNothing : k.StrangerAsksNothing e a := by
  intro s ms hop hnotOwner hnoWallet
  unfold queries
  rw [hop]
  refine ⟨?_, performed_execute_of_stranger hnotOwner hnoWallet k.chain⟩
  rw [performed_execute_of_stranger (e := e.noting) hnotOwner hnoWallet]

theorem entitled : Entitled e a k.operation (k.after e a) := by
  rcases k.effect_or_refused e a with heffect | hrefused
  · exact heffect.entitled
  · rw [hrefused]
    exact .refl e a k.operation

end Call

/-- From whatever account it starts, a run never changes what no operation may change, and each of
its calls, accepted or refused, changes only what its sender is entitled to. Who is neither the
owner nor holds a valid wallet changes nothing by executing, and asks the chain nothing. -/
theorem privilege_separation [Json.Nesting] (e : Engine σ) (a : Account) (ks : List (Call σ)) :
    Fixed a (afterAll e a ks) ∧
      Throughout e (fun b k => Entitled e b k.operation (k.after e b) ∧
        k.StrangerAsksNothing e b) a ks :=
  ⟨fixed_afterAll e a ks,
    throughout_of_forall e a ks fun b k => ⟨k.entitled e b, k.strangerAsksNothing e b⟩⟩

/-- A holder's send in another denomination does ask, for its price. -/
example : (Call.queries Sample.engine
    { Sample.account with pools := [⟨"pool", "uloop", "uusd", .simulation⟩] }
    ⟨.execute Sample.late [.bankSend "shop" [⟨"uloop", 5⟩]], ()⟩).map Prod.fst = ["pool"] := by
  decide +kernel

end AllowanceProxy
