import AllowanceProxy.Account.Execute
import AllowanceProxy.Proofs.Asking
import AllowanceProxy.Proofs.Calendar

/-!
Periods of a wallet. A spend moves nothing of a wallet but its next reset and what is left of its
limit; a period that starts anew ends past its first moment.
-/
namespace AllowanceProxy

theorem SpendLimit.WellFormed.sub_le {l : SpendLimit} (h : l.WellFormed) (n : Nat) :
    l.remaining - n ≤ l.amount := Nat.le_trans (Nat.sub_le _ _) h

namespace Wallet

open Calendar

/-- The wallet with another next reset and another rest of its limit. -/
def withStanding (w : Wallet) (reset : Int) (left : Nat) : Wallet :=
  { w with
    nextReset := reset
    limits := match w.limits with
      | [] => []
      | l :: ls => { l with remaining := left } :: ls }

section Standing

variable (w : Wallet) (t : Int) (n : Nat)

@[simp] theorem address_withStanding : (w.withStanding t n).address = w.address := rfl

@[simp] theorem nextReset_withStanding : (w.withStanding t n).nextReset = t := rfl

@[simp] theorem unit_withStanding : (w.withStanding t n).unit = w.unit := rfl

@[simp] theorem multiple_withStanding : (w.withStanding t n).multiple = w.multiple := rfl

@[simp] theorem ownRules_withStanding : (w.withStanding t n).ownRules = w.ownRules := rfl

@[simp] theorem resetAfter_withStanding (now : Int) :
    (w.withStanding t n).resetAfter now = w.resetAfter now := rfl

@[simp] theorem withStanding_withStanding (t' : Int) (n' : Nat) :
    (w.withStanding t n).withStanding t' n' = w.withStanding t' n' := by
  cases h : w.limits <;> simp [withStanding, h]

@[simp] theorem isValid_withStanding (reference : String) :
    (w.withStanding t n).IsValid reference ↔ w.IsValid reference := by
  cases h : w.limits <;> simp [withStanding, IsValid, h]

end Standing

variable {w w' : Wallet} {l : SpendLimit} {ls : List SpendLimit} {now t : Int} {n : Nat}

theorem limits_withStanding (h : w.limits = l :: ls) (t : Int) (n : Nat) :
    (w.withStanding t n).limits = { l with remaining := n } :: ls := by
  simp [withStanding, h]

theorem withStanding_self (h : w.limits = l :: ls) :
    w.withStanding w.nextReset l.remaining = w := by
  cases w
  subst h
  rfl

theorem IsValid.limits_eq {reference : String} (h : w.IsValid reference) :
    ∃ l, w.limits = [l] ∧ l.denom = reference := by
  obtain ⟨l, hl, hd⟩ := List.map_eq_singleton_iff.mp h.2
  exact ⟨l, hl, hd⟩

theorem limit_eq_ok : w.limit = .ok l ↔ ∃ ls, w.limits = l :: ls := by
  unfold limit
  cases w.limits <;> simp

theorem setRemaining_ok (h : w.setRemaining n = (.ok (), w')) :
    ∃ l ls, w.limits = l :: ls ∧ n ≤ l.amount ∧ w' = w.withStanding w.nextReset n := by
  unfold setRemaining at h
  split at h
  · cases h
  next l ls hl =>
    obtain ⟨hc, rfl⟩ := Prod.mk.inj h
    refine ⟨l, ls, hl, ?_, by simp [withStanding, hl]⟩
    by_contra hlt
    simp [SpendLimit.check, SpendLimit.WellFormed, hlt, Checked.map, Checked.fail,
      Error.ofChecked] at hc

/-- What is left of a limit can be set to anything up to its total. -/
theorem setRemaining_of_le (hl : w.limits = l :: ls) (h : n ≤ l.amount) :
    w.setRemaining n = (.ok (), w.withStanding w.nextReset n) := by
  simp [setRemaining, hl, SpendLimit.setRemaining, SpendLimit.check, SpendLimit.WellFormed, h,
    Checked.map, Error.ofChecked, withStanding]

theorem refill_eq (h : w.limits = l :: ls) :
    w.refill = (.ok (), w.withStanding w.nextReset l.amount) := by
  rw [refill, limit_eq_ok.mpr ⟨ls, h⟩]
  exact setRemaining_of_le h (Nat.le_refl _)

/-- The next reset is computed first; if that fails, nothing has changed yet. -/
theorem rollOver_eq (limits : w.limits = l :: ls) (now : Int) :
    w.rollOver now = match w.resetAfter now with
      | .error err => (.error err, w)
      | .ok t => (.ok (), w.withStanding t l.amount) := by
  unfold rollOver
  cases w.resetAfter now with
  | error err => rfl
  | ok t => simp [refill_eq limits, withStanding]

theorem rollOver_ok (h : w.rollOver now = (.ok (), w')) :
    ∃ t l ls, w.resetAfter now = .ok t ∧ w.limits = l :: ls ∧ w' = w.withStanding t l.amount := by
  unfold rollOver refill at h
  split at h
  · cases h
  next t ht =>
    split at h
    · cases h
    next v hv =>
      split at hv
      · cases hv
      next l hl =>
        obtain ⟨ls, hls⟩ := limit_eq_ok.mp hl
        obtain ⟨-, -, -, -, rfl⟩ := setRemaining_ok hv
        obtain ⟨-, rfl⟩ := Prod.mk.inj h
        exact ⟨t, l, ls, ht, hls, by simp [withStanding]⟩

/-- The next reset can only be computed at a moment with a date. -/
theorem resetAfter_ok (h : w.resetAfter now = .ok t) :
    ∃ d, dateOfSecond now = .ok d ∧
      (w.unit = .days ∧ t = now + secondsPerDay * w.multiple ∨
        w.unit = .months ∧ t = secondOfDay (dayOf (d.firstAfter w.multiple))) := by
  obtain ⟨d, hd, h⟩ := except_bind_eq_ok.mp h
  refine ⟨d, hd, ?_⟩
  split at h
  next hu =>
    split at h
    · cases h
    · exact .inl ⟨hu, (Except.ok.inj h).symm⟩
  next hu =>
    split at h
    · cases h
    · simp only at h
      split at h
      · cases h
      · exact .inr ⟨hu, (Except.ok.inj h).symm⟩

theorem resetAfter_days (hu : w.unit = .days) (h : w.resetAfter now = .ok t) :
    t = now + secondsPerDay * w.multiple := by
  obtain ⟨d, -, ⟨-, ht⟩ | ⟨hm, -⟩⟩ := resetAfter_ok h
  · exact ht
  · rw [hu] at hm
    cases hm

theorem resetAfter_months (hu : w.unit = .months) (h : w.resetAfter now = .ok t) :
    t = secondOfDay (dayOf ((dateOf (dayOfSecond now)).firstAfter w.multiple)) := by
  obtain ⟨d, hd, ⟨hm, -⟩ | ⟨-, ht⟩⟩ := resetAfter_ok h
  · rw [hu] at hm
    cases hm
  · rw [ht, eq_dateOf_of_dateOfSecond hd]

/-- The new period ends later than it starts. -/
theorem lt_resetAfter (hm : 1 ≤ w.multiple) (h : w.resetAfter now = .ok t) : now < t := by
  cases hu : w.unit with
  | days =>
    have ht := resetAfter_days hu h
    simp only [secondsPerDay] at ht
    omega
  | months => exact resetAfter_months hu h ▸ lt_secondOfDay_firstAfter hm

end Wallet

end AllowanceProxy
