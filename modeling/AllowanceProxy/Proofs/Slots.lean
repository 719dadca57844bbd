import AllowanceProxy.Proofs.Persistence
import Mathlib.Data.List.Induction

/-!
Slots. What was saved in a slot last is what is loaded from it, whatever is saved in other slots,
and a record that its schema lets pass is not changed on the way.
-/
namespace AllowanceProxy

/-- The schema lets the record pass: there is JSON that it is read from. -/
def Account.Valid (a : Account) : Prop := ∃ v, decode v = .ok a

/-- The schema bounds nothing but the wallets. -/
theorem Account.valid_iff {a : Account} : a.Valid ↔ ∀ w ∈ a.wallets, w.Admissible :=
  ⟨fun ⟨_, h⟩ => admissible_of_decode h, fun h => ⟨a.toJson, decode_toJson h⟩⟩

namespace Store

/-- One save after another; each has its slot. -/
def saveAll (store : Store) (saves : List (String × Account)) : Store :=
  saves.foldl (fun store s => store.save s.1 s.2) store

/-- The record that was saved in a slot last, if any was. -/
def lastSaved? (slot : String) (saves : List (String × Account)) : Option Account :=
  (saves.reverse.find? fun s => s.1 = slot).map Prod.snd

variable {store : Store} {saves : List (String × Account)} {slot other : String} {a : Account}

theorem saveAll_concat (store : Store) (saves : List (String × Account)) (other : String)
    (a : Account) :
    store.saveAll (saves ++ [(other, a)]) = (store.saveAll saves).save other a := by
  simp [saveAll]

theorem lastSaved?_concat_self (slot : String) (saves : List (String × Account)) (a : Account) :
    lastSaved? slot (saves ++ [(slot, a)]) = some a := by
  simp [lastSaved?]

theorem lastSaved?_concat_of_ne (h : slot ≠ other) (saves : List (String × Account))
    (a : Account) : lastSaved? slot (saves ++ [(other, a)]) = lastSaved? slot saves := by
  simp [lastSaved?, Ne.symm h]

theorem load_save_of_ne (h : slot ≠ other) (store : Store) (a : Account) :
    (store.save other a).load slot = store.load slot := by
  unfold load save
  rw [content?_put_of_ne store other h]

theorem holds_save_self (store : Store) (slot : String) (a : Account) :
    (store.save slot a).holds slot = true := by
  simp [holds, save, content?_put_self]

theorem holds_save_of_ne (h : slot ≠ other) (store : Store) (a : Account) :
    (store.save other a).holds slot = store.holds slot := by
  unfold holds save
  rw [content?_put_of_ne store other h]

/-- By induction from the last save, which either is the slot's own or passes it by. -/
theorem load_saveAll (valid : ∀ s ∈ saves, s.2.Valid) (slot : String) :
    (saveAll [] saves).load slot = .ok (lastSaved? slot saves) := by
  induction saves using List.reverseRecOn with
  | nil => rfl
  | append_singleton saves s ih =>
    obtain ⟨other, a⟩ := s
    have hvalid : a.Valid := valid (other, a) (by simp)
    have hrest := ih fun s hs => valid s (List.mem_append_left _ hs)
    rw [saveAll_concat]
    by_cases hslot : slot = other
    · subst hslot
      rw [load_save _ _ (Account.valid_iff.mp hvalid), lastSaved?_concat_self]
    · rw [load_save_of_ne hslot, lastSaved?_concat_of_ne hslot, hrest]

theorem holds_saveAll (saves : List (String × Account)) (slot : String) :
    (saveAll [] saves).holds slot = true ↔ slot ∈ saves.map Prod.fst := by
  induction saves using List.reverseRecOn with
  | nil => simp [saveAll, holds, content?]
  | append_singleton saves s ih =>
    obtain ⟨other, a⟩ := s
    rw [saveAll_concat]
    by_cases hslot : slot = other
    · subst hslot
      simp [holds_save_self]
    · rw [holds_save_of_ne hslot, ih]
      simp [hslot]

/-- Every record that its schema lets pass is read back from its JSON form as it was. After any
saves of such records a slot yields the one that was saved in it last, and none if nothing was; and
exactly the slots in which something was saved are held. -/
theorem saves_kept (saves : List (String × Account)) (valid : ∀ s ∈ saves, s.2.Valid) :
    (∀ a : Account, a.Valid → Account.decode a.toJson = .ok a) ∧
      ∀ slot, (saveAll [] saves).load slot = .ok (lastSaved? slot saves) ∧
        ((saveAll [] saves).holds slot = true ↔ slot ∈ saves.map Prod.fst) :=
  ⟨fun _ h => Account.decode_toJson (Account.valid_iff.mp h), fun slot =>
    ⟨load_saveAll valid slot, holds_saveAll saves slot⟩⟩

end Store

namespace Sample

/-- Records of an older kind: a wallet without limits, and one with two; their rules have no pins,
an empty list of them, and the same ones twice in another order. -/
def legacy : Account :=
  { account with
    wallets := [{ wallet with limits := [], rules := some [⟨"spender", "farm", "claim", some []⟩] },
      { friend with limits := [⟨"uusd", 50, 20⟩, ⟨"tokens", 7, 7⟩] }]
    rules := [⟨"spender", "farm", "claim", none⟩,
      ⟨"friend", "farm", "stake", some [("pool", "é"), ("pool", "é"), ("amount", "1")]⟩,
      ⟨"friend", "farm", "stake", some [("amount", "1"), ("pool", "é")]⟩] }

theorem valid_account : account.Valid :=
  Account.valid_iff.mpr (by simpa [account] using admissible_wallet)

theorem valid_legacy : legacy.Valid := by
  refine Account.valid_iff.mpr (List.forall_mem_cons.mpr ⟨?_, List.forall_mem_singleton.mpr ?_⟩)
  · exact ⟨⟨by decide, by decide, by simp⟩, by decide⟩
  · exact ⟨⟨by decide, by decide, by decide⟩, by decide⟩

def saves : List (String × Account) := [("main", account), ("other", account), ("main", legacy)]

end Sample

namespace Store

theorem saves_kept_legacy :
    (∀ s ∈ Sample.saves, s.2.Valid) ∧
      (saveAll [] Sample.saves).load "main" = .ok (some Sample.legacy) ∧
      (saveAll [] Sample.saves).load "other" = .ok (some Sample.account) ∧
      (saveAll [] Sample.saves).load "third" = .ok none := by
  have hvalid : ∀ s ∈ Sample.saves, s.2.Valid := by
    simp [Sample.saves, Sample.valid_account, Sample.valid_legacy]
  obtain ⟨-, hslot⟩ := saves_kept Sample.saves hvalid
  exact ⟨hvalid, (hslot "main").1, (hslot "other").1, (hslot "third").1⟩

end Store

end AllowanceProxy
