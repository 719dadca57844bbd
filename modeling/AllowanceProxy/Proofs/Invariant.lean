import AllowanceProxy.Proofs.Effect
import AllowanceProxy.Proofs.Spacing

/-!
The invariant of accounts. It holds once an account is founded, and every operation keeps it, as
long as the wallets that come in keep to the bounds of their schema.
-/
namespace AllowanceProxy

open Asking

variable {σ : Type}

namespace Wallet

variable {w w' : Wallet} {now : Int} {n : Nat}

theorem Books.admissible (h : w.Books now n w') (hw : w.Admissible) : w'.Admissible := by
  have hle := h.nextReset_le hw.toWellFormed
  exact ⟨h.wellFormed hw.toWellFormed, Int.le_trans hw.nextReset_nonneg hle⟩

theorem Books.isValid_iff (h : w.Books now n w') (reference : String) :
    w'.IsValid reference ↔ w.IsValid reference := by
  obtain ⟨left, hw⟩ := h.eq_withStanding
  rw [hw, isValid_withStanding]

end Wallet

namespace RuleBook

variable {rules rest : RuleBook} {r x : Rule}

theorem sublist_of_extract? (h : rules.extract? r = some (x, rest)) : rest.Sublist rules := by
  induction rules generalizing rest with
  | nil => cases h
  | cons y ys ih =>
    unfold extract? at h
    split at h
    next =>
      cases h
      exact List.sublist_cons_self _ _
    next =>
      obtain ⟨⟨x', rest'⟩, hrest, heq⟩ := Option.map_eq_some_iff.mp h
      obtain ⟨rfl, rfl⟩ := Prod.mk.inj heq
      exact (ih hrest).cons_cons y

/-- A rule with a new key may come behind the others. -/
theorem pairwise_append_of_hasKey (h : rules.Pairwise fun a b => ¬ a.SameKey b)
    (fresh : rules.hasKey r = false) : (rules ++ [r]).Pairwise fun a b => ¬ a.SameKey b := by
  refine List.pairwise_append.mpr ⟨h, List.pairwise_singleton _ r, ?_⟩
  intro a ha b hb
  obtain rfl := List.mem_singleton.mp hb
  simpa using List.any_eq_false.mp fresh a ha

end RuleBook

namespace Account

variable {e : Engine σ} {s : Sending} {a b : Account} {m : Message} {c d : σ} {r : Response}
  {xs : List (Passage σ)} {reference x : String}

/-- What is true of an account at all times. That its debt is not negative is part of its type. -/
structure Sound (reference : String) (a : Account) : Prop where
  addresses : (a.wallets.map Wallet.address).Nodup
  valid : ∀ w ∈ a.wallets, w.IsValid reference
  admissible : ∀ w ∈ a.wallets, w.Admissible
  keys : a.rules.Pairwise fun r r' => ¬ r.SameKey r'
  pending : a.pendingOwner = none ↔ a.pendingSince = none
  pools : Registry.ofNetwork? a.homeNetwork = some a.pools

section Founding

theorem checkWallets_ok {seen : List String} {ws : List Wallet}
    (h : checkWallets reference seen ws = .ok ()) :
    (∀ w ∈ ws, w.IsValid reference) ∧ (ws.map Wallet.address).Nodup ∧
      ∀ w ∈ ws, w.address ∉ seen := by
  induction ws generalizing seen with
  | nil => simp
  | cons w ws ih =>
    obtain ⟨⟨⟩, hvalid, h⟩ := except_bind_eq_ok.mp h
    simp only at h
    split at h
    next => cases h
    next hseen =>
      obtain ⟨hws, hnodup, hfresh⟩ := ih h
      refine ⟨?_, ?_, ?_⟩
      · rw [List.forall_mem_cons]
        exact ⟨Wallet.checkValid_ok hvalid, hws⟩
      · rw [List.map_cons, List.nodup_cons]
        refine ⟨?_, hnodup⟩
        intro hmem
        obtain ⟨v, hv, haddress⟩ := List.mem_map.mp hmem
        exact hfresh v hv (haddress ▸ List.mem_cons_self)
      · rw [List.forall_mem_cons]
        refine ⟨by simpa using hseen, ?_⟩
        intro v hv hmem
        exact hfresh v hv (List.mem_cons_of_mem _ hmem)

theorem ofNetwork?_of_ofNetwork {v : Json} {network : String} {pools : Registry}
    (h : Registry.ofNetwork v = .ok (network, pools)) :
    Registry.ofNetwork? network = some pools := by
  unfold Registry.ofNetwork at h
  split at h
  · cases h
  · cases h
  · split at h
    next hpools =>
      obtain ⟨rfl, rfl⟩ := Prod.mk.inj (Except.ok.inj h)
      exact hpools
    next => cases h
  · cases h

/-- What an account starts with. -/
theorem Founding.account_ok {f : Founding} {network : String} {pools : Registry}
    (h : f.account network pools = .ok a) :
    a.wallets = f.wallets ∧ a.rules = [] ∧ a.pendingOwner = none ∧ a.pendingSince = none ∧
      a.pools = pools ∧ a.homeNetwork = network := by
  simp only [account, Checked.seq_eq, Checked.map_eq, Checked.ap_eq_ok] at h
  obtain ⟨f₁, repay, ⟨f₂, debt, ⟨f₃, delay, ⟨f₄, owner, hf, -, rfl⟩, -, rfl⟩, -, rfl⟩, -, rfl⟩ := h
  obtain rfl := Checked.ok.inj hf
  exact ⟨rfl, rfl, rfl, rfl, rfl, rfl⟩

theorem sound_of_found {f : Founding} (h : found reference f = .ok (a, r))
    (admissible : ∀ w ∈ f.wallets, w.Admissible) : a.Sound reference := by
  obtain ⟨⟨network, pools⟩, hnetwork, h⟩ := except_bind_eq_ok.mp h
  obtain ⟨⟨⟩, hchecked, h⟩ := except_bind_eq_ok.mp h
  obtain ⟨a', hfounded, h⟩ := except_bind_eq_ok.mp h
  obtain ⟨rfl, -⟩ := Prod.mk.inj (Except.ok.inj h)
  obtain ⟨hvalid, hnodup, -⟩ := checkWallets_ok hchecked
  have hok : f.account network pools = .ok a' := by
    unfold Error.ofChecked at hfounded
    split at hfounded
    next hc =>
      obtain rfl := Except.ok.inj hfounded
      exact hc
    next => cases hfounded
  obtain ⟨hwallets, hrules, howner, hsince, hpools, hhome⟩ := Founding.account_ok hok
  constructor
  · rw [hwallets]
    exact hnodup
  · rw [hwallets]
    exact hvalid
  · rw [hwallets]
    exact admissible
  · rw [hrules]
    exact .nil
  · simp [howner, hsince]
  · rw [hpools, hhome]
    exact ofNetwork?_of_ofNetwork hnetwork

end Founding

section Spending

variable {P : Wallet → Prop}

variable [Json.Nesting]

/-- What every debit keeps true of a wallet, a message keeps true of all wallets. -/
theorem Passes.forall_wallets (h : Passes e s a m c b r d)
    (keeps : ∀ w n v, P w → w.Books s.now n v → P v) (ha : ∀ w ∈ a.wallets, P w) :
    ∀ w ∈ b.wallets, P w := by
  cases h with
  | owner isOwner movement repays =>
    obtain ⟨n, rfl⟩ := repays.eq_setDebt
    exact ha
  | covered notOwner covered => exact ha
  | @spent mv w v b₁ r₁ repayments d₁ d₂ out amount notOwner movement uncovered priceable found
      valid repays debited numeral =>
    obtain ⟨n, rfl⟩ := repays.eq_setDebt
    obtain ⟨prices, -, hbooks, -⟩ := debit_yields debited
    intro u hu
    rcases mem_replaceWallet hu with rfl | hu
    · exact keeps w _ u (ha w (List.mem_of_find?_eq_some found)) hbooks
    · exact ha u hu

theorem Passes.forall_admissible (h : Passes e s a m c b r d)
    (ha : ∀ w ∈ a.wallets, w.Admissible) : ∀ w ∈ b.wallets, w.Admissible :=
  h.forall_wallets (fun _ _ _ hw hbooks => hbooks.admissible hw) ha

theorem Trail.forall_admissible (h : Trail e s a c xs b d) (ha : ∀ w ∈ a.wallets, w.Admissible) :
    ∀ w ∈ b.wallets, w.Admissible := by
  induction h with
  | nil a c => exact ha
  | cons passes rest ih => exact ih (passes.forall_admissible ha)

theorem Passes.sound (h : Passes e s a m c b r d) (ha : a.Sound reference) :
    b.Sound reference := by
  have hframe := h.spentBy.frame
  have haddresses := h.spentBy.addresses
  have hvalid : ∀ w ∈ b.wallets, w.IsValid reference :=
    h.forall_wallets (fun w n v hw hbooks => (hbooks.isValid_iff reference).mpr hw) ha.valid
  have hadmissible := h.forall_admissible ha.admissible
  rw [hframe]
  exact ⟨haddresses ▸ ha.addresses, hvalid, hadmissible, ha.keys, ha.pending, ha.pools⟩

theorem Trail.sound (h : Trail e s a c xs b d) (ha : a.Sound reference) : b.Sound reference := by
  induction h with
  | nil a c => exact ha
  | cons passes rest ih => exact ih (passes.sound ha)

end Spending

section Operations

theorem eraseWallet_sublist (ws : List Wallet) : (eraseWallet x ws).Sublist ws := by
  induction ws with
  | nil => exact .slnil
  | cons w ws ih =>
    unfold eraseWallet
    split
    · exact List.sublist_cons_self w ws
    · exact ih.cons_cons w

theorem wallet?_eq_none_iff : a.wallet? x = none ↔ x ∉ a.wallets.map Wallet.address := by
  simp [wallet?, List.find?_eq_none]

/-- A wallet that comes in keeps to the bounds of its schema. -/
def Operation.Admissible : Operation → Prop
  | .addWallet _ w => w.Admissible
  | _ => True

variable [Json.Nesting]

/-- Whatever the rest of the account is like, its wallets keep to the bounds of their schema. -/
theorem Effect.forall_admissible {o : Operation} (h : Effect e a o b)
    (ha : ∀ w ∈ a.wallets, w.Admissible) (admissible : o.Admissible) :
    ∀ w ∈ b.wallets, w.Admissible := by
  cases h with
  | execute trail messages => exact trail.forall_admissible ha
  | @addWallet sender w isOwner valid fresh =>
    have hadmissible : w.Admissible := admissible
    exact List.forall_mem_append.mpr ⟨ha, by simpa using hadmissible⟩
  | removeWallet isOwner found => exact fun w hw => ha w ((eraseWallet_sublist a.wallets).subset hw)
  | _ => exact ha

/-- Every operation keeps the invariant. -/
theorem Effect.sound {o : Operation} (h : Effect e a o b) (ha : a.Sound e.reference)
    (admissible : o.Admissible) : b.Sound e.reference := by
  have hadmissible := h.forall_admissible ha.admissible admissible
  cases h with
  | execute trail messages => exact trail.sound ha
  | canSpend sender now ms => exact ha
  | @addWallet sender w isOwner valid fresh =>
    refine { ha with addresses := ?_, valid := ?_, admissible := hadmissible }
    · rw [List.map_append, List.nodup_append]
      refine ⟨ha.addresses, by simp, ?_⟩
      rintro y hy z hz rfl
      obtain rfl := List.mem_singleton.mp hz
      exact wallet?_eq_none_iff.mp fresh hy
    · exact List.forall_mem_append.mpr ⟨ha.valid, by simpa using valid⟩
  | @removeWallet sender address isOwner found =>
    have hsub := eraseWallet_sublist (x := address) a.wallets
    exact { ha with
      addresses := ha.addresses.sublist (hsub.map Wallet.address)
      valid := fun w hw => ha.valid w (hsub.subset hw)
      admissible := hadmissible }
  | addRule isOwner fresh =>
    exact { ha with keys := RuleBook.pairwise_append_of_hasKey ha.keys fresh }
  | removeRule isOwner found =>
    exact { ha with keys := ha.keys.sublist (RuleBook.sublist_of_extract? found) }
  | proposeOwner newOwner now isOwner => exact { ha with pending := by simp }
  | confirmOwner isPending elapsed => exact { ha with pending := by simp }
  | cancelOwner entitled => exact { ha with pending := by simp }

end Operations

end Account

end AllowanceProxy
