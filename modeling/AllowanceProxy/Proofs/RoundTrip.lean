import AllowanceProxy.Account.Basic
import AllowanceProxy.Proofs.Schema

/-!
What is written is read back. The JSON form of an account whose wallets keep to the bounds of
their schema decodes to the same account, and every account that is read is one of these.
-/
namespace AllowanceProxy

namespace Decoder

variable {α : Type}

@[simp] theorem text_str (s : String) : text (.str s) = .ok s := rfl

@[simp] theorem int_int (n : Int) : int (.int n) = .ok n := rfl

@[simp] theorem bool_bool (b : Bool) : bool (.bool b) = .ok b := rfl

@[simp] theorem model_obj (ms : Members) : model (.obj ms) = .ok ms := rfl

@[simp] theorem nat_int (n : Nat) : nat (.int n) = .ok n := by
  simp [nat, Checked.andThen]

theorem natBetween_int {least most n : Nat} (hleast : least ≤ n) (hmost : n ≤ most) :
    natBetween least most (.int n) = .ok n := by
  have hl : ¬ (n : Int) < least := by omega
  have hm : ¬ (most : Int) < n := by omega
  simp [natBetween, Checked.andThen, hl, hm]

theorem listOf_map {d : Decoder α} {g : α → Json} {as : List α}
    (h : ∀ a ∈ as, d (g a) = .ok a) : listOf d (.arr (as.map g)) = .ok as :=
  Checked.listFrom_ok d g as h 0

/-- A value that may be missing is read back, if its form is never the null. -/
theorem nullable_getD {d : Decoder α} {g : α → Json} {o : Option α}
    (hnull : ∀ a, g a ≠ .null) (h : ∀ a ∈ o, d (g a) = .ok a) :
    nullable d ((o.map g).getD .null) = .ok o := by
  cases o with
  | none => rfl
  | some a =>
    have hd := h a rfl
    have hn := hnull a
    unfold nullable
    split
    next hv => exact absurd hv hn
    next => simp [hd, Checked.map]

end Decoder

namespace Rule

theorem decode_toJson (r : Rule) : decode r.toJson = .ok r := by
  have hpins : Decoder.nullable (Decoder.listOf (Decoder.pair Decoder.text Decoder.text))
      ((r.fields.map pinsJson).getD .null) = .ok r.fields := by
    apply Decoder.nullable_getD
    · intro pins
      simp [pinsJson]
    · intro pins _
      apply Decoder.listOf_map
      intro p _
      simp [Decoder.pair, Decoder.itemAt]
  simp [decode, toJson, Checked.andThen, Decoder.required, Decoder.optional, Json.lookup?, hpins]

end Rule

theorem Signer.decode_toJson (s : Signer) : decode s.toJson = .ok s := by
  simp [decode, toJson, Checked.andThen, Decoder.required, Json.lookup?]

theorem PeriodUnit.named_name (u : PeriodUnit) :
    Decoder.named name [.days, .months] (.str u.name) = .ok u := by
  cases u <;> rfl

namespace Wallet

theorem decode_toJson {w : Wallet} (h : w.Admissible) : decode w.toJson = .ok w := by
  obtain ⟨address, nextReset, unit, multiple, limits, isDefaultLimit, rules⟩ := w
  obtain ⟨reset, rfl⟩ := Int.eq_ofNat_of_zero_le h.nextReset_nonneg
  have hmultiple := Decoder.natBetween_int h.multiple_pos h.multiple_le
  have hlimits : Decoder.listOf SpendLimit.decode (.arr (limits.map SpendLimit.toJson)) =
      .ok limits :=
    Decoder.listOf_map fun l hl => SpendLimit.decode_toJson (h.limits l hl)
  have hrules : Decoder.nullable (Decoder.listOf Rule.decode)
      ((rules.map rulesJson).getD .null) = .ok rules := by
    apply Decoder.nullable_getD
    · intro rs
      simp [rulesJson]
    · intro rs _
      exact Decoder.listOf_map fun r _ => r.decode_toJson
  simp only at hmultiple
  simp [decode, toJson, Checked.andThen, Decoder.required, Decoder.optional, Json.lookup?,
    PeriodUnit.named_name, hmultiple, hlimits, hrules]

end Wallet

namespace Account

theorem decode_toJson {a : Account} (h : ∀ w ∈ a.wallets, w.Admissible) :
    decode a.toJson = .ok a := by
  have howner : Decoder.nullable Decoder.text
      ((a.pendingOwner.map Json.ofString).getD .null) = .ok a.pendingOwner :=
    Decoder.nullable_getD (by simp [Json.ofString]) (by simp [Json.ofString])
  have hsince : Decoder.nullable Decoder.int ((a.pendingSince.map .int).getD .null) =
      .ok a.pendingSince :=
    Decoder.nullable_getD (by simp) (by simp)
  have hsigners : Decoder.listOf Signer.decode (.arr (a.signers.map Signer.toJson)) =
      .ok a.signers :=
    Decoder.listOf_map fun s _ => s.decode_toJson
  have hwallets : Decoder.listOf Wallet.decode (.arr (a.wallets.map Wallet.toJson)) =
      .ok a.wallets :=
    Decoder.listOf_map fun w hw => Wallet.decode_toJson (h w hw)
  have hrules : Decoder.listOf Rule.decode (.arr (a.rules.map Rule.toJson)) = .ok a.rules :=
    Decoder.listOf_map fun r _ => r.decode_toJson
  have hpools : Decoder.listOf Pool.decode a.pools.dump = .ok a.pools :=
    Decoder.listOf_map fun p _ => p.decode_toJson
  simp [decode, toJson, fieldsBeforePools, fieldsAfterPools, Checked.andThen, Decoder.required,
    Decoder.optional, Json.lookup?, howner, hsince, hsigners, hwallets, hrules, hpools]

theorem admissible_of_decode {v : Json} {a : Account} (h : decode v = .ok a) :
    ∀ w ∈ a.wallets, w.Admissible := by
  obtain ⟨ms, -, h⟩ := Checked.andThen_eq_ok.mp h
  simp only [Checked.seq_eq, Checked.map_eq, Checked.ap_eq_ok] at h
  obtain ⟨f, network, ⟨f₁, repay, ⟨f₂, debt, ⟨f₃, pools, ⟨f₄, rules, ⟨f₅, wallets, ⟨f₆, signers,
    ⟨f₇, delay, ⟨f₈, since, ⟨f₉, pending, ⟨f₁₀, owner, hf, -, rfl⟩, -, rfl⟩, -, rfl⟩, -, rfl⟩, -,
    rfl⟩, hwallets, rfl⟩, -, rfl⟩, -, rfl⟩, -, rfl⟩, -, rfl⟩, -, rfl⟩ := h
  obtain rfl := Checked.ok.inj hf
  rcases Decoder.exists_of_optional hwallets with hnone | ⟨u, hu⟩
  · rw [hnone]
    simp
  · intro w hw
    obtain ⟨u', hw⟩ := Decoder.exists_of_mem_listOf hu hw
    exact Wallet.admissible_of_decode hw

end Account

end AllowanceProxy
