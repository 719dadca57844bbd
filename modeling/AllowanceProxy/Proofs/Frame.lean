import AllowanceProxy.Proofs.Period

/-!
What the execution of messages for a sender may touch: the debt of the account, and the standing
of the sender's wallet. Everything else is the same afterwards.
-/
namespace AllowanceProxy.Account

variable {a b c : Account} {w v : Wallet} {x y : String}

theorem address_of_wallet? (h : a.wallet? x = some w) : w.address = x := by
  simpa using List.find?_some h

theorem replaceWallet_of_not_mem {ws : List Wallet} (h : ∀ u ∈ ws, u.address ≠ v.address) :
    replaceWallet v ws = ws := by
  induction ws with
  | nil => rfl
  | cons u us ih =>
    rw [replaceWallet, if_neg (h u List.mem_cons_self),
      ih fun u' hu' => h u' (List.mem_cons_of_mem u hu')]

theorem find?_replaceWallet_self {ws : List Wallet} (hx : v.address = x)
    (h : ws.find? (fun u => u.address = x) = some w) :
    (replaceWallet v ws).find? (fun u => u.address = x) = some v := by
  induction ws with
  | nil => simp at h
  | cons u us ih =>
    by_cases hu : u.address = v.address
    · simp [replaceWallet, hu, hx]
    · have hne : u.address ≠ x := hx ▸ hu
      rw [List.find?_cons_of_neg (by simpa using hne)] at h
      rw [replaceWallet, if_neg hu, List.find?_cons_of_neg (by simpa using hne)]
      exact ih h

theorem find?_replaceWallet_none {ws : List Wallet} (hx : v.address = x)
    (h : ws.find? (fun u => u.address = x) = none) :
    (replaceWallet v ws).find? (fun u => u.address = x) = none := by
  rw [replaceWallet_of_not_mem, h]
  subst hx
  simpa using h

theorem find?_replaceWallet_of_ne {ws : List Wallet} (hx : v.address ≠ x) :
    (replaceWallet v ws).find? (fun u => u.address = x) = ws.find? (fun u => u.address = x) := by
  induction ws with
  | nil => rfl
  | cons u us ih =>
    by_cases hu : u.address = v.address
    · simp [replaceWallet, hu, hx]
    · by_cases hux : u.address = x
      · rw [replaceWallet, if_neg hu, List.find?_cons_of_pos (by simpa using hux),
          List.find?_cons_of_pos (by simpa using hux)]
      · rw [replaceWallet, if_neg hu, List.find?_cons_of_neg (by simpa using hux),
          List.find?_cons_of_neg (by simpa using hux), ih]

theorem replaceWallet_replaceWallet (ws : List Wallet) (h : v.address = w.address) :
    replaceWallet v (replaceWallet w ws) = replaceWallet v ws := by
  induction ws with
  | nil => rfl
  | cons u us ih =>
    by_cases hu : u.address = w.address
    · simp [replaceWallet, hu, h]
    · simp [replaceWallet, hu, h, ih]

theorem replaceWallet_comm (ws : List Wallet) (h : v.address ≠ w.address) :
    replaceWallet v (replaceWallet w ws) = replaceWallet w (replaceWallet v ws) := by
  induction ws with
  | nil => rfl
  | cons u us ih =>
    by_cases hv : u.address = v.address
    · have hw : u.address ≠ w.address := hv ▸ h
      simp [replaceWallet, hv, h]
    · by_cases hw : u.address = w.address
      · simp [replaceWallet, hw, Ne.symm h]
      · simp [replaceWallet, hv, hw, ih]

/-- A wallet in its own place changes nothing. -/
theorem replaceWallet_self {ws : List Wallet} (hx : w.address = x)
    (h : ws.find? (fun u => u.address = x) = some w) : replaceWallet w ws = ws := by
  subst hx
  induction ws with
  | nil => rfl
  | cons u us ih =>
    by_cases hu : u.address = w.address
    · rw [List.find?_cons_of_pos (by simpa using hu)] at h
      rw [replaceWallet, if_pos hu, Option.some.inj h]
    · rw [List.find?_cons_of_neg (by simpa using hu)] at h
      rw [replaceWallet, if_neg hu, ih h]

theorem map_address_replaceWallet (ws : List Wallet) :
    (replaceWallet v ws).map Wallet.address = ws.map Wallet.address := by
  induction ws with
  | nil => rfl
  | cons u us ih =>
    by_cases hu : u.address = v.address
    · simp [replaceWallet, hu]
    · simp [replaceWallet, hu, ih]

/-- What the new wallet has in common with the replaced one stays. -/
theorem map_replaceWallet {β : Type} {f : Wallet → β} {ws : List Wallet}
    (h : ws.find? (fun u => u.address = v.address) = some w) (hf : f v = f w) :
    (replaceWallet v ws).map f = ws.map f := by
  induction ws with
  | nil => rfl
  | cons u us ih =>
    by_cases hu : u.address = v.address
    · rw [List.find?_cons_of_pos (by simpa using hu)] at h
      rw [replaceWallet, if_pos hu, List.map_cons, List.map_cons, hf, Option.some.inj h]
    · rw [List.find?_cons_of_neg (by simpa using hu)] at h
      rw [replaceWallet, if_neg hu, List.map_cons, List.map_cons, ih h]

theorem mem_replaceWallet {u : Wallet} {ws : List Wallet} (h : u ∈ replaceWallet v ws) :
    u = v ∨ u ∈ ws := by
  induction ws with
  | nil => cases h
  | cons x xs ih =>
    unfold replaceWallet at h
    split at h
    next => exact (List.mem_cons.mp h).imp_right (List.mem_cons_of_mem x)
    next =>
      rcases List.mem_cons.mp h with rfl | h
      · exact .inr List.mem_cons_self
      · exact (ih h).imp_right (List.mem_cons_of_mem x)

theorem wallet?_setWallet_self (hv : v.address = x) (h : a.wallet? x = some w) :
    (a.setWallet v).wallet? x = some v := find?_replaceWallet_self hv h

theorem wallet?_setWallet (hv : v.address = x) :
    (a.setWallet v).wallet? x = (a.wallet? x).map fun _ => v := by
  cases h : a.wallet? x with
  | none => exact find?_replaceWallet_none hv h
  | some w => exact wallet?_setWallet_self hv h

theorem wallet?_setWallet_of_ne (hv : v.address ≠ x) : (a.setWallet v).wallet? x = a.wallet? x :=
  find?_replaceWallet_of_ne hv

/-- The account with another debt, or also with another standing of the wallet of an address. -/
inductive SpentBy (x : String) (a : Account) : Account → Prop where
  | debt (n : Nat) : SpentBy x a { a with feeDebt := n }
  | wallet (n : Nat) {w : Wallet} (found : a.wallet? x = some w) (reset : Int) (left : Nat) :
      SpentBy x a (setWallet { a with feeDebt := n } (w.withStanding reset left))

namespace SpentBy

theorem refl (x : String) (a : Account) : SpentBy x a a := .debt a.feeDebt

theorem trans (h : SpentBy x a b) (k : SpentBy x b c) : SpentBy x a c := by
  cases h with
  | debt n =>
    cases k with
    | debt m => exact .debt m
    | wallet m found reset left => exact .wallet (a := a) m found reset left
  | @wallet n w found reset left =>
    have hw := address_of_wallet? found
    cases k with
    | debt m => exact .wallet m found reset left
    | wallet m found' reset' left' =>
      have hself := wallet?_setWallet_self (a := { a with feeDebt := n })
        (v := w.withStanding reset left) hw found
      obtain rfl := Option.some.inj (hself.symm.trans found')
      have hs := replaceWallet_replaceWallet a.wallets
        (v := w.withStanding reset' left') (w := w.withStanding reset left) rfl
      have hlast := SpentBy.wallet m found reset' left'
      simpa [setWallet, hs] using hlast

variable (h : SpentBy x a b)
include h

/-- Nothing but the wallets and the debt is touched. -/
theorem frame : b = { a with wallets := b.wallets, feeDebt := b.feeDebt } := by
  cases h <;> rfl

/-- No wallet comes, goes or changes its address. -/
theorem addresses : b.wallets.map Wallet.address = a.wallets.map Wallet.address := by
  cases h with
  | debt n => rfl
  | wallet n found reset left => exact map_address_replaceWallet a.wallets

theorem owner : b.owner = a.owner := by cases h <;> rfl

theorem rules : b.rules = a.rules := by cases h <;> rfl

theorem pools : b.pools = a.pools := by cases h <;> rfl

theorem wallet?_of_ne (hy : y ≠ x) : b.wallet? y = a.wallet? y := by
  cases h with
  | debt n => rfl
  | wallet n found reset left =>
    have hw := address_of_wallet? found
    exact wallet?_setWallet_of_ne (by simpa [hw] using Ne.symm hy)

theorem wallet?_none (hw : a.wallet? x = none) : b.wallet? x = none := by
  cases h with
  | debt n => exact hw
  | wallet n found reset left =>
    rw [hw] at found
    cases found

theorem wallet?_some (hw : a.wallet? x = some w) :
    b.wallet? x = some w ∨ ∃ reset left, b.wallet? x = some (w.withStanding reset left) := by
  cases h with
  | debt n => exact .inl hw
  | wallet n found reset left =>
    obtain rfl := Option.some.inj (hw.symm.trans found)
    have hx := address_of_wallet? found
    exact .inr ⟨reset, left, wallet?_setWallet_self (a := { a with feeDebt := n }) hx found⟩

theorem ownRules :
    (b.wallet? x).map Wallet.ownRules = (a.wallet? x).map Wallet.ownRules := by
  cases hw : a.wallet? x with
  | none => rw [h.wallet?_none hw]
  | some w =>
    obtain hb | ⟨reset, left, hb⟩ := h.wallet?_some hw
    · rw [hb]
    · rw [hb]
      rfl

/-- Spending leaves the rules of every wallet as they are. -/
theorem walletRules : b.wallets.map Wallet.rules = a.wallets.map Wallet.rules := by
  cases h with
  | debt n => rfl
  | @wallet n w found reset left =>
    have haddress := address_of_wallet? found
    subst haddress
    exact map_replaceWallet (v := w.withStanding reset left) found rfl

end SpentBy

end AllowanceProxy.Account
