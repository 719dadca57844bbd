import AllowanceProxy.Wallet.Basic
import Mathlib.Tactic.Common

/-!
What is read is well-formed. A value that the schema of a wallet lets through keeps to the bounds
of the schema.
-/
namespace AllowanceProxy

variable {α β : Type}

namespace Checked

theorem ap_eq_ok {f : Checked (α → β)} {x : Checked α} {b : β} :
    ap f x = .ok b ↔ ∃ g a, f = .ok g ∧ x = .ok a ∧ g a = b := by
  cases f with
  | ok g => cases x <;> simp [ap]
  | issues is => cases x <;> simp [ap]

theorem andThen_eq_ok {x : Checked α} {f : α → Checked β} {b : β} :
    x.andThen f = .ok b ↔ ∃ a, x = .ok a ∧ f a = .ok b := by
  cases x <;> simp [andThen]

theorem map_eq_ok {f : α → β} {x : Checked α} {b : β} :
    map f x = .ok b ↔ ∃ a, x = .ok a ∧ f a = b := by
  cases x <;> simp [map]

theorem within_eq_ok {s : Step} {x : Checked α} {a : α} : within s x = .ok a ↔ x = .ok a := by
  cases x <;> simp [within]

theorem exists_of_mem_listFrom {f : β → Checked α} {i : Nat} {bs : List β} {as : List α}
    (h : listFrom f i bs = .ok as) {a : α} (ha : a ∈ as) : ∃ b, f b = .ok a := by
  induction bs generalizing i as with
  | nil =>
    cases h
    cases ha
  | cons b bs ih =>
    obtain ⟨g, rest, hg, hrest, rfl⟩ := ap_eq_ok.mp h
    obtain ⟨first, hfirst, rfl⟩ := map_eq_ok.mp hg
    rcases List.mem_cons.mp ha with rfl | ha
    · exact ⟨b, within_eq_ok.mp hfirst⟩
    · exact ih hrest ha

end Checked

namespace Decoder

open Checked

theorem exists_of_required {name : String} {d : Decoder α} {ms : Members} {a : α}
    (h : required name d ms = .ok a) : ∃ v, d v = .ok a := by
  have hin := within_eq_ok.mp h
  split at hin
  next v hv => exact ⟨v, hin⟩
  next => cases hin

theorem exists_of_optional {name : String} {d : Decoder α} {default a : α} {ms : Members}
    (h : optional name d default ms = .ok a) : a = default ∨ ∃ v, d v = .ok a := by
  have hin := within_eq_ok.mp h
  split at hin
  next v hv => exact .inr ⟨v, hin⟩
  next => exact .inl (Checked.ok.inj hin).symm

theorem exists_of_mem_listOf {d : Decoder α} {v : Json} {as : List α} (h : listOf d v = .ok as)
    {a : α} (ha : a ∈ as) : ∃ u, d u = .ok a := by
  unfold listOf at h
  split at h
  next vs => exact exists_of_mem_listFrom h ha
  next => cases h

theorem between_of_natBetween {least most n : Nat} {v : Json}
    (h : natBetween least most v = .ok n) : least ≤ n ∧ n ≤ most := by
  obtain ⟨i, -, h⟩ := andThen_eq_ok.mp h
  split at h
  next => cases h
  next hleast =>
    split at h
    next => cases h
    next hmost =>
      obtain rfl := Checked.ok.inj h
      omega

end Decoder

theorem SpendLimit.wellFormed_of_decode {v : Json} {l : SpendLimit}
    (h : SpendLimit.decode v = .ok l) : l.WellFormed := by
  obtain ⟨ms, -, h⟩ := Checked.andThen_eq_ok.mp h
  obtain ⟨k, -, h⟩ := Checked.andThen_eq_ok.mp h
  unfold check at h
  split at h
  next hk =>
    obtain rfl := Checked.ok.inj h
    exact hk
  next => cases h

namespace Wallet

/-- The bounds that the schema puts on a wallet. -/
structure WellFormed (w : Wallet) : Prop where
  multiple_pos : 1 ≤ w.multiple
  multiple_le : w.multiple ≤ maxMultiple
  limits : ∀ l ∈ w.limits, l.WellFormed

/-- A wallet as its schema lets it through. -/
structure Admissible (w : Wallet) : Prop extends w.WellFormed where
  nextReset_nonneg : 0 ≤ w.nextReset

theorem admissible_of_decode {v : Json} {w : Wallet} (h : Wallet.decode v = .ok w) :
    w.Admissible := by
  obtain ⟨ms, -, h⟩ := Checked.andThen_eq_ok.mp h
  simp only [Checked.seq_eq, Checked.map_eq, Checked.ap_eq_ok] at h
  obtain ⟨f, rules, ⟨f₁, isDefault, ⟨f₂, limits, ⟨f₃, multiple, ⟨f₄, unit, ⟨f₅, reset,
    ⟨f₆, address, hf, -, rfl⟩, -, rfl⟩, -, rfl⟩, hmultiple, rfl⟩, hlimits, rfl⟩, -, rfl⟩, -,
    rfl⟩ := h
  obtain rfl := Checked.ok.inj hf
  obtain ⟨u, hu⟩ := Decoder.exists_of_required hmultiple
  obtain ⟨u', hu'⟩ := Decoder.exists_of_required hlimits
  obtain ⟨hpos, hle⟩ := Decoder.between_of_natBetween hu
  refine ⟨⟨hpos, hle, ?_⟩, Int.natCast_nonneg reset⟩
  intro l hl
  obtain ⟨u'', hl⟩ := Decoder.exists_of_mem_listOf hu' hl
  exact SpendLimit.wellFormed_of_decode hl

end Wallet

end AllowanceProxy
