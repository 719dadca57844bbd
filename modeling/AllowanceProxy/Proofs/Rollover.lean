import AllowanceProxy.Proofs.Civil
import AllowanceProxy.Proofs.Passage

/-!
When a period ends. Days run on from the moment of the rollover, months end at the midnight that
starts a later month; a rollover refills the limit, or it fails and changes nothing.
-/
namespace AllowanceProxy

open Calendar

namespace Calendar

variable {d start : Date} {n : Nat}

/-- The date starts the month that comes a number of months after the month of `d`. -/
structure Date.StartsMonth (start d : Date) (n : Nat) : Prop where
  day : start.day = 1
  month_pos : 1 ≤ start.month
  month_le : start.month ≤ 12
  index : 12 * start.year + start.month = 12 * d.year + d.month + n

theorem startsMonth_iff (h : 1 ≤ d.month) : start.StartsMonth d n ↔ start = d.firstAfter n := by
  obtain ⟨year, month, day⟩ := start
  simp only [Date.firstAfter, Date.mk.injEq]
  constructor
  · rintro ⟨hday, hpos, hle, hindex⟩
    simp only at hday hpos hle hindex
    omega
  · rintro ⟨rfl, rfl, rfl⟩
    refine ⟨rfl, Nat.le_add_left 1 _, Nat.mod_lt _ (by decide), ?_⟩
    simp only
    omega

theorem inCalendar_firstAfter (d : Date) (n : Nat) : (d.firstAfter n).InCalendar where
  month_pos := Nat.le_add_left 1 _
  month_le := Nat.mod_lt _ (by decide)
  day_pos := Nat.le_refl 1
  day_le := monthLength_pos (Nat.mod_lt _ (by decide))

/-- The last second of the calendar ends the last day. -/
theorem clock_lastDay : Clock (secondOfDay Wallet.lastDay + 86399) ⟨9999, 12, 31⟩ 86399 := by
  have hlast : Wallet.lastDay = dayOf ⟨9999, 12, 31⟩ := by decide
  rw [hlast]
  exact clock_secondOfDay_add ⟨by decide, by decide, by decide, by decide⟩ (by decide) (by decide)

end Calendar

namespace Wallet

variable {w w' : Wallet} {l : SpendLimit} {ls : List SpendLimit} {now second : Int} {d : Date}
  {err : Error}

theorem resetAfter_eq_of_days (hu : w.unit = .days) (hd : dateOfSecond now = .ok d) :
    w.resetAfter now = if lastDay < dayOfSecond now + w.multiple then .error .dayOutOfRange
      else .ok (now + secondsPerDay * w.multiple) := by
  simp only [resetAfter, hd, hu, except_ok_bind]
  rfl

theorem resetAfter_eq_of_months (hu : w.unit = .months) (hd : dateOfSecond now = .ok d) :
    w.resetAfter now =
      if maxMonth < d.month + w.multiple ∨ lastYear < (d.firstAfter w.multiple).year then
        .error .monthOutOfRange
      else .ok (secondOfDay (dayOf (d.firstAfter w.multiple))) := by
  simp only [resetAfter, hd, hu, except_ok_bind]
  by_cases hmonth : maxMonth < d.month + w.multiple
  · simp only [if_pos hmonth, if_pos (Or.inl hmonth)]
    rfl
  · by_cases hyear : lastYear < (d.firstAfter w.multiple).year
    · rw [if_neg hmonth, if_pos (Or.inr hyear)]
      exact if_pos hyear
    · rw [if_neg hmonth, if_neg (not_or.mpr ⟨hmonth, hyear⟩)]
      exact if_neg hyear

section Moments

variable (limits : w.limits = l :: ls) (clock : Clock now d second) (first : 1 ≤ d.year)
  (last : d.year ≤ 9999)
include limits clock first last

theorem rollOver_days (hu : w.unit = .days) :
    ∃ latest, Clock latest ⟨9999, 12, 31⟩ 86399 ∧
      ((w.rollOver now).1 = .error .dayOutOfRange ↔ latest < now + 86400 * w.multiple) ∧
      (now + 86400 * w.multiple ≤ latest →
        w.rollOver now = (.ok (), w.withStanding (now + 86400 * w.multiple) l.amount)) := by
  have hroll := rollOver_eq limits now
  rw [resetAfter_eq_of_days hu (dateOfSecond_of_clock clock first last)] at hroll
  have hpast : lastDay < dayOfSecond now + w.multiple ↔
      secondOfDay lastDay + 86399 < now + 86400 * w.multiple := by
    simp only [secondOfDay, dayOfSecond, secondsPerDay]
    omega
  refine ⟨_, clock_lastDay, ?_⟩
  rw [hroll, ← Int.not_lt, ← hpast]
  by_cases hlate : lastDay < dayOfSecond now + w.multiple
  · simp [hlate]
  · simp [hlate, secondsPerDay]

theorem rollOver_months (hu : w.unit = .months) :
    ∃ start, (∀ x : Date, x.StartsMonth d w.multiple ↔ x = start) ∧
      ((w.rollOver now).1 = .error .monthOutOfRange ↔
        268 < d.month + w.multiple ∨ 9999 < start.year) ∧
      (d.month + w.multiple ≤ 268 → start.year ≤ 9999 →
        ∃ t, (∀ u, Clock u start 0 ↔ u = t) ∧
          w.rollOver now = (.ok (), w.withStanding t l.amount)) := by
  have hroll := rollOver_eq limits now
  rw [resetAfter_eq_of_months hu (dateOfSecond_of_clock clock first last)] at hroll
  have hmonth : 1 ≤ d.month := clock.date_eq ▸ one_le_month (dayOfSecond now)
  have hmidnight := clock_secondOfDay_add (inCalendar_firstAfter d w.multiple)
    (Int.le_refl 0) (by decide)
  rw [Int.add_zero] at hmidnight
  refine ⟨d.firstAfter w.multiple, fun x => startsMonth_iff hmonth, ?_⟩
  rw [hroll]
  by_cases hlate : maxMonth < d.month + w.multiple ∨ lastYear < (d.firstAfter w.multiple).year
  · rw [if_pos hlate]
    unfold maxMonth lastYear at hlate
    refine ⟨iff_of_true rfl hlate, fun hmonths hyear => ?_⟩
    omega
  · rw [if_neg hlate]
    unfold maxMonth lastYear at hlate
    refine ⟨iff_of_false nofun hlate, fun _ _ => ⟨_, fun u => ⟨hmidnight.moment_eq, ?_⟩, rfl⟩⟩
    rintro rfl
    exact hmidnight

end Moments

/-- A wallet of days that rolls over at a moment of the calendar is reset that many days later, to
the second, unless that is past the last second of the calendar. One of months is reset at midnight
of the first of the month that comes so many months later, unless the months sum to more than 268
or the year is past the last one. Either reset is later than the rollover, and the limit is full
again; a rollover that fails changes nothing. -/
theorem rollOver_exact (limits : w.limits = l :: ls) (positive : 1 ≤ w.multiple)
    (clock : Clock now d second) (first : 1 ≤ d.year) (last : d.year ≤ 9999) :
    (w.unit = .days → ∃ latest, Clock latest ⟨9999, 12, 31⟩ 86399 ∧
      ((w.rollOver now).1 = .error .dayOutOfRange ↔ latest < now + 86400 * w.multiple) ∧
      (now + 86400 * w.multiple ≤ latest →
        w.rollOver now = (.ok (), w.withStanding (now + 86400 * w.multiple) l.amount))) ∧
    (w.unit = .months → ∃ start, (∀ x : Date, x.StartsMonth d w.multiple ↔ x = start) ∧
      ((w.rollOver now).1 = .error .monthOutOfRange ↔
        268 < d.month + w.multiple ∨ 9999 < start.year) ∧
      (d.month + w.multiple ≤ 268 → start.year ≤ 9999 →
        ∃ t, (∀ u, Clock u start 0 ↔ u = t) ∧
          w.rollOver now = (.ok (), w.withStanding t l.amount))) ∧
    (∀ w', w.rollOver now = (.ok (), w') → now < w'.nextReset) ∧
    ∀ err w', w.rollOver now = (.error err, w') → w' = w := by
  refine ⟨rollOver_days limits clock first last, rollOver_months limits clock first last, ?_, ?_⟩
  · intro w' h
    obtain ⟨t, k, ks, ht, -, rfl⟩ := rollOver_ok h
    exact lt_resetAfter positive ht
  · intro err w' h
    rw [rollOver_eq limits] at h
    split at h
    · exact (Prod.mk.inj h).2.symm
    · cases h

end Wallet

namespace Sample

/-- A wallet of thirteen months. -/
def monthly : Wallet := { wallet with unit := .months, multiple := 13 }

theorem clock_december : Clock 1671105600 ⟨2022, 12, 15⟩ 43200 :=
  ⟨fallsOn_iff.mpr (by decide +kernel), by decide⟩

theorem clock_lastNoon : Clock 253402257600 ⟨9999, 12, 31⟩ 43200 :=
  ⟨fallsOn_iff.mpr (by decide +kernel), by decide⟩

end Sample

/-- Thirteen months from a December end with the next year, and a day from the last one leads out
of the calendar. -/
theorem Wallet.rollOver_exact_ends :
    Sample.monthly.rollOver 1671105600 = (.ok (), Sample.monthly.withStanding 1704067200 50) ∧
      (Sample.wallet.rollOver 253402257600).1 = .error .dayOutOfRange ∧
      (Sample.wallet.rollOver 253402257600).2 = Sample.wallet := by
  have hmonths := rollOver_exact (w := Sample.monthly) rfl (by decide) Sample.clock_december
    (by decide) (by decide)
  have hdays := rollOver_exact (w := Sample.wallet) rfl (by decide) Sample.clock_lastNoon
    (by decide) (by decide)
  have hrefused : (Sample.wallet.rollOver 253402257600).1 = .error .dayOutOfRange := by
    obtain ⟨latest, hlatest, hfails, -⟩ := hdays.1 rfl
    obtain rfl : 253402300799 = latest :=
      hlatest.moment_eq ⟨fallsOn_iff.mpr (by decide +kernel), by decide⟩
    exact hfails.mpr (by decide)
  refine ⟨?_, hrefused, hdays.2.2.2 _ _ (Prod.ext hrefused rfl)⟩
  obtain ⟨start, hstart, -, hroll⟩ := hmonths.2.1 rfl
  obtain rfl : ⟨2024, 1, 1⟩ = start := (hstart _).mp ⟨rfl, by decide, by decide, by decide⟩
  obtain ⟨t, ht, hrolled⟩ := hroll (by decide) (by decide)
  obtain rfl : 1704067200 = t := (ht _).mp ⟨fallsOn_iff.mpr (by decide +kernel), by decide⟩
  exact hrolled

end AllowanceProxy
