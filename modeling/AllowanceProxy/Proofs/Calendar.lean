import AllowanceProxy.Calendar
import Mathlib.Tactic.Common

/-!
Years and months follow one another without a gap: a day lies in the year that it is given, and a
day on or after the first of a month lies in that month or in a later one.
-/
namespace AllowanceProxy.Calendar

/-- Months counted through the years. -/
def Date.monthIndex (d : Date) : Int := 12 * d.year + d.month

theorem yearStart_mono {y z : Int} (h : y ≤ z) : yearStart y ≤ yearStart z := by
  simp only [yearStart]
  omega

theorem lt_yearStart_yearOf_add_one (day : Int) : day < yearStart (yearOf day + 1) := by
  simp only [yearOf]
  split
  next h => simpa using h
  next =>
    split
    next h =>
      simp only [yearStart] at h ⊢
      omega
    next h => exact Int.not_le.mp h

theorem le_yearOf {y day : Int} (h : yearStart y ≤ day) : y ≤ yearOf day := by
  by_contra hlt
  have hs : yearStart (yearOf day + 1) ≤ yearStart y := yearStart_mono (by omega)
  have hd := lt_yearStart_yearOf_add_one day
  omega

/-- The months before the one that a day falls into are over on that day. -/
theorem add_le_splitMonths (ns : List Nat) (month : Nat) {i d : Nat} (hi : i ≤ ns.length)
    (h : totalDays (ns.take i) ≤ d) : month + i ≤ (splitMonths ns month d).1 := by
  induction ns generalizing i d month with
  | nil => simp_all [splitMonths]
  | cons n ns ih =>
    cases i with
    | zero =>
      simp only [splitMonths]
      split
      · exact Nat.le_refl _
      · have hn := ih (month + 1) (d := d - n) (Nat.zero_le _) (Nat.zero_le _)
        omega
    | succ i =>
      simp only [List.take_succ_cons, totalDays] at h
      rw [splitMonths, if_neg (by omega)]
      have hn := ih (month + 1) (d := d - n) (Nat.le_of_succ_le_succ hi) (by omega)
      omega

theorem length_monthLengths (year : Int) : (monthLengths year).length = 12 := rfl

theorem one_le_month (day : Int) : 1 ≤ (dateOf day).month :=
  add_le_splitMonths (monthLengths (yearOf day)) 1 (Nat.zero_le _) (Nat.zero_le _)

/-- A day that is not before the first of a month is in that month or a later one. -/
theorem monthIndex_le {y day : Int} {m : Nat} (hpos : 1 ≤ m) (hm : m ≤ 12)
    (h : dayOf ⟨y, m, 1⟩ ≤ day) : 12 * y + m ≤ (dateOf day).monthIndex := by
  simp only [dayOf, Nat.sub_self, Nat.add_zero] at h
  have hy : y ≤ yearOf day := le_yearOf (by omega)
  have hyear : (dateOf day).year = yearOf day := rfl
  have hone := one_le_month day
  have hlen := length_monthLengths (yearOf day)
  unfold Date.monthIndex
  rw [hyear]
  rcases Int.lt_or_eq_of_le hy with hlt | rfl
  · omega
  · have hmonth : 1 + (m - 1) ≤ (dateOf day).month :=
      add_le_splitMonths (monthLengths (yearOf day)) 1 (by omega) (by omega)
    omega

/-- The first of the month that comes a number of months after a date. -/
def Date.firstAfter (d : Date) (months : Nat) : Date :=
  ⟨d.year + ((d.month - 1 + months) / 12 : Nat), (d.month - 1 + months) % 12 + 1, 1⟩

theorem monthIndex_firstAfter {d : Date} (months : Nat) (h : 1 ≤ d.month) :
    (d.firstAfter months).monthIndex = d.monthIndex + months := by
  simp only [Date.monthIndex, Date.firstAfter]
  omega

/-- A moment after the start of such a month lies that many months later, or more. -/
theorem monthIndex_add_le_of_lt {t day : Int} {months : Nat}
    (h : secondOfDay (dayOf ((dateOf day).firstAfter months)) < t) :
    (dateOf day).monthIndex + months ≤ (dateOf (dayOfSecond t)).monthIndex := by
  have hday : dayOf ((dateOf day).firstAfter months) ≤ dayOfSecond t := by
    simp only [secondOfDay, dayOfSecond, secondsPerDay] at h ⊢
    omega
  rw [← monthIndex_firstAfter months (one_le_month day)]
  exact monthIndex_le (Nat.le_add_left 1 _) (Nat.mod_lt _ (by decide)) hday

/-- The start of a later month is past every moment of a date. -/
theorem lt_secondOfDay_firstAfter {t : Int} {months : Nat} (h : 1 ≤ months) :
    t < secondOfDay (dayOf ((dateOf (dayOfSecond t)).firstAfter months)) := by
  by_contra hle
  have hday : dayOf ((dateOf (dayOfSecond t)).firstAfter months) ≤ dayOfSecond t := by
    simp only [secondOfDay, dayOfSecond, secondsPerDay] at hle ⊢
    omega
  have hm := monthIndex_le (Nat.le_add_left 1 _) (Nat.mod_lt _ (by decide)) hday
  have hi := monthIndex_firstAfter months (one_le_month (dayOfSecond t))
  simp only [Date.monthIndex, Date.firstAfter] at hm hi
  omega

theorem eq_dateOf_of_dateOfSecond {t : Int} {d : Date} (h : dateOfSecond t = .ok d) :
    d = dateOf (dayOfSecond t) := by
  simp only [dateOfSecond] at h
  split at h
  · cases h
  · split at h
    · cases h
    · split at h
      · cases h
      · exact (Except.ok.inj h).symm

end AllowanceProxy.Calendar
