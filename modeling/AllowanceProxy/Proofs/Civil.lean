import AllowanceProxy.Proofs.Calendar
import Mathlib.Data.Int.Init
import Mathlib.Data.List.GetD

/-!
The civil calendar, day by day. Dates follow one another from the first of January 1970, in both
directions; the date computed for a day is the one that this count comes to, and no two days have
the same date.
-/
namespace AllowanceProxy.Calendar

section Years

variable {year day : Int}

theorem yearStart_add_one (year : Int) :
    yearStart (year + 1) = yearStart year + totalDays (monthLengths year) := by
  simp only [yearStart, monthLengths, totalDays]
  split
  next h =>
    unfold IsLeap at h
    omega
  next h =>
    unfold IsLeap at h
    omega

theorem yearStart_yearOf_le (day : Int) : yearStart (yearOf day) ≤ day := by
  simp only [yearOf]
  split
  next =>
    simp only [yearStart]
    omega
  next h =>
    split
    next h' => exact h'
    next => exact Int.not_lt.mp h

/-- A day lies in one year only. -/
theorem yearOf_eq (first : yearStart year ≤ day) (last : day < yearStart (year + 1)) :
    yearOf day = year := by
  refine Int.le_antisymm ?_ (le_yearOf first)
  by_contra hlt
  have hnext := yearStart_mono (show year + 1 ≤ yearOf day by omega)
  have hday := yearStart_yearOf_le day
  omega

end Years

section Months

theorem totalDays_take_succ (ns : List Nat) (i : Nat) :
    totalDays (ns.take (i + 1)) = totalDays (ns.take i) + ns.getD i 0 := by
  induction ns generalizing i with
  | nil => simp [totalDays]
  | cons n ns ih =>
    cases i with
    | zero => simp [totalDays]
    | succ i =>
      have hrest := ih i
      simp only [List.take_succ_cons, totalDays, List.getD_cons_succ, hrest]
      omega

/-- A day of the month that comes after `i` others falls into that month. -/
theorem splitMonths_add {ns : List Nat} {i rest : Nat} (month : Nat) (h : rest < ns.getD i 0) :
    splitMonths ns month (totalDays (ns.take i) + rest) = (month + i, rest) := by
  induction ns generalizing month i with
  | nil => cases h
  | cons n ns ih =>
    cases i with
    | zero =>
      have hlt : rest < n := h
      simp [splitMonths, totalDays, hlt]
    | succ i =>
      have hlater := ih (month + 1) (i := i) h
      have hge : ¬ n + totalDays (ns.take i) + rest < n := by omega
      have hsub : n + totalDays (ns.take i) + rest - n = totalDays (ns.take i) + rest := by omega
      simp only [List.take_succ_cons, totalDays, splitMonths, if_neg hge, hsub, hlater]
      congr 1
      omega

/-- Every day of a year is a day of one of its months. -/
theorem exists_eq_totalDays_take {ns : List Nat} {d : Nat} (h : d < totalDays ns) :
    ∃ i rest, i < ns.length ∧ rest < ns.getD i 0 ∧ d = totalDays (ns.take i) + rest := by
  induction ns generalizing d with
  | nil => cases h
  | cons n ns ih =>
    by_cases hd : d < n
    · exact ⟨0, d, Nat.zero_lt_succ _, hd, by simp [totalDays]⟩
    · simp only [totalDays] at h
      obtain ⟨i, rest, hi, hrest, hsum⟩ := ih (d := d - n) (by omega)
      refine ⟨i + 1, rest, Nat.succ_lt_succ hi, hrest, ?_⟩
      simp only [List.take_succ_cons, totalDays]
      omega

theorem totalDays_take_add_lt {ns : List Nat} {i rest : Nat} (h : rest < ns.getD i 0) :
    totalDays (ns.take i) + rest < totalDays ns := by
  induction ns generalizing i with
  | nil => cases h
  | cons n ns ih =>
    cases i with
    | zero =>
      have hlt : rest < n := h
      simp only [List.take_zero, totalDays]
      omega
    | succ i =>
      have hlater := ih (i := i) h
      simp only [List.take_succ_cons, totalDays]
      omega

end Months

namespace Date

/-- The days of the month that the date is in. -/
def monthLength (d : Date) : Nat := (monthLengths d.year).getD (d.month - 1) 0

/-- The date of the day after. -/
def next (d : Date) : Date :=
  if d.day < d.monthLength then ⟨d.year, d.month, d.day + 1⟩
  else if d.month < 12 then ⟨d.year, d.month + 1, 1⟩
  else ⟨d.year + 1, 1, 1⟩

/-- There is such a month, and such a day in it. -/
structure InCalendar (d : Date) : Prop where
  month_pos : 1 ≤ d.month
  month_le : d.month ≤ 12
  day_pos : 1 ≤ d.day
  day_le : d.day ≤ d.monthLength

end Date

/-- The length of a month does not depend on the day. -/
theorem monthLength_pos {year : Int} {month day : Nat} (h : month ≤ 12) :
    1 ≤ (Date.mk year month day).monthLength := by
  have hall : ∀ n ∈ monthLengths year, 1 ≤ n := by
    unfold monthLengths
    split <;> decide
  have hlt : month - 1 < (monthLengths year).length := by
    rw [length_monthLengths]
    omega
  unfold Date.monthLength
  rw [List.getD_eq_getElem _ _ hlt]
  exact hall _ (List.getElem_mem hlt)

section Exact

variable {d : Date} {day : Int}

/-- A day lies within its year and within one month of it. -/
theorem exists_dateOf_eq (day : Int) :
    ∃ i rest, i < 12 ∧ rest < (monthLengths (yearOf day)).getD i 0 ∧
      dateOf day = ⟨yearOf day, 1 + i, rest + 1⟩ ∧
      day = yearStart (yearOf day) + (totalDays ((monthLengths (yearOf day)).take i) + rest : Nat) := by
  have hfirst := yearStart_yearOf_le day
  have hlast := lt_yearStart_yearOf_add_one day
  rw [yearStart_add_one] at hlast
  have hwithin : (day - yearStart (yearOf day)).toNat < totalDays (monthLengths (yearOf day)) := by
    omega
  obtain ⟨i, rest, hi, hrest, hsum⟩ := exists_eq_totalDays_take hwithin
  refine ⟨i, rest, hi, hrest, ?_, by omega⟩
  rw [dateOf, hsum, splitMonths_add 1 hrest]

theorem inCalendar_dateOf (day : Int) : (dateOf day).InCalendar := by
  obtain ⟨i, rest, hi, hrest, hdate, -⟩ := exists_dateOf_eq day
  rw [hdate]
  refine ⟨Nat.le_add_right 1 i, by simp only; omega, Nat.le_add_left 1 rest, ?_⟩
  simp only [Date.monthLength, Nat.add_sub_cancel_left]
  exact hrest

theorem dayOf_dateOf (day : Int) : dayOf (dateOf day) = day := by
  obtain ⟨i, rest, -, -, hdate, hday⟩ := exists_dateOf_eq day
  rw [hdate]
  simp only [dayOf, Nat.add_sub_cancel_left, Nat.add_sub_cancel]
  exact hday.symm

/-- A date has one day, from which it is computed back. -/
theorem dateOf_dayOf (h : d.InCalendar) : dateOf (dayOf d) = d := by
  obtain ⟨year, month, date⟩ := d
  obtain ⟨hmonth, -, hpos, hle⟩ := h
  simp only [Date.monthLength] at hle hmonth hpos
  have hrest : date - 1 < (monthLengths year).getD (month - 1) 0 := by omega
  have hlt := totalDays_take_add_lt hrest
  have hyear : yearOf (dayOf ⟨year, month, date⟩) = year := by
    refine yearOf_eq ?_ ?_
    · simp only [dayOf]
      omega
    · rw [yearStart_add_one]
      simp only [dayOf]
      omega
  have hsub : (dayOf ⟨year, month, date⟩ - yearStart year).toNat =
      totalDays ((monthLengths year).take (month - 1)) + (date - 1) := by
    simp only [dayOf]
    omega
  rw [dateOf, hyear, hsub, splitMonths_add 1 hrest]
  simp only [Date.mk.injEq, true_and]
  omega

theorem inCalendar_next (h : d.InCalendar) : d.next.InCalendar := by
  unfold Date.next
  split
  next hlt => exact ⟨h.month_pos, h.month_le, Nat.le_add_left 1 _, hlt⟩
  next =>
    split
    next hlt => exact ⟨Nat.le_add_left 1 _, hlt, Nat.le_refl 1, monthLength_pos hlt⟩
    next =>
      exact ⟨Nat.le_refl 1, Nat.le_add_left 1 11, Nat.le_refl 1,
        monthLength_pos (Nat.le_add_left 1 11)⟩

theorem dayOf_next (h : d.InCalendar) : dayOf d.next = dayOf d + 1 := by
  obtain ⟨hmonth, -, hpos, hle⟩ := h
  unfold Date.next
  split
  next =>
    simp only [dayOf]
    omega
  next hday =>
    have hlength : d.monthLength = (monthLengths d.year).getD (d.month - 1) 0 := rfl
    have htotal := totalDays_take_succ (monthLengths d.year) (d.month - 1)
    rw [Nat.sub_add_cancel hmonth] at htotal
    split
    next =>
      simp only [dayOf, Nat.add_sub_cancel, Nat.sub_self]
      omega
    next hlast =>
      -- The months up to December are all of the year.
      have hall : (monthLengths d.year).take d.month = monthLengths d.year := by
        refine List.take_of_length_le ?_
        rw [length_monthLengths]
        omega
      rw [hall] at htotal
      simp only [dayOf, yearStart_add_one, Nat.sub_self, List.take_zero, totalDays]
      omega

theorem next_dateOf (day : Int) : (dateOf day).next = dateOf (day + 1) := by
  have hdate := inCalendar_dateOf day
  rw [← dateOf_dayOf (inCalendar_next hdate), dayOf_next hdate, dayOf_dateOf]

end Exact

/-- Dates counted on from the first of January 1970, and back from it: `d` is the date `n` days
after that one. -/
inductive FallsOn : Int → Date → Prop where
  | epoch : FallsOn 0 ⟨1970, 1, 1⟩
  | next {n : Int} {d : Date} (before : FallsOn n d) : FallsOn (n + 1) d.next
  | prev {n : Int} {d : Date} (known : d.InCalendar) (after : FallsOn (n + 1) d.next) : FallsOn n d

theorem FallsOn.eq_dateOf {n : Int} {d : Date} (h : FallsOn n d) : d = dateOf (n + epochDay) := by
  induction h with
  | epoch => decide
  | @next n d before ih => rw [ih, next_dateOf, Int.add_right_comm]
  | @prev n d known after ih =>
    have hday : dayOf d.next = n + 1 + epochDay := by rw [ih, dayOf_dateOf]
    rw [dayOf_next known] at hday
    rw [← dateOf_dayOf known]
    congr 1
    omega

/-- The computed date is the one that counting comes to. -/
theorem fallsOn_iff {n : Int} {d : Date} : FallsOn n d ↔ d = dateOf (n + epochDay) := by
  refine ⟨FallsOn.eq_dateOf, ?_⟩
  rintro rfl
  induction n using Int.induction_on with
  | zero => exact .epoch
  | succ n ih =>
    rw [Int.add_right_comm, ← next_dateOf]
    exact ih.next
  | pred n ih =>
    refine .prev (inCalendar_dateOf _) ?_
    rw [next_dateOf, Int.add_right_comm, Int.sub_add_cancel]
    exact ih

/-- At the moment `t` a clock that shows UTC shows the date, and the seconds since midnight. -/
def Clock (t : Int) (d : Date) (second : Int) : Prop := FallsOn (t / 86400) d ∧ t % 86400 = second

section Clock

variable {t u : Int} {d : Date} {second : Int}

theorem Clock.date_eq (h : Clock t d second) : d = dateOf (dayOfSecond t) := h.1.eq_dateOf

/-- A clock never shows the same again. -/
theorem Clock.moment_eq (h : Clock t d second) (k : Clock u d second) : u = t := by
  have hdays : dayOfSecond u = dayOfSecond t := by
    rw [← dayOf_dateOf (dayOfSecond u), ← k.date_eq, h.date_eq, dayOf_dateOf]
  have hsecond := h.2.trans k.2.symm
  simp only [dayOfSecond, secondsPerDay] at hdays
  omega

/-- The moments of a date follow its midnight. -/
theorem clock_secondOfDay_add (h : d.InCalendar) (first : 0 ≤ second) (last : second < 86400) :
    Clock (secondOfDay (dayOf d) + second) d second := by
  have hdays : (secondOfDay (dayOf d) + second) / 86400 + epochDay = dayOf d := by
    simp only [secondOfDay, secondsPerDay]
    omega
  constructor
  · rw [fallsOn_iff, hdays, dateOf_dayOf h]
  · simp only [secondOfDay, secondsPerDay]
    omega

/-- The years of four digits, but the year zero, have a calendar. -/
theorem dateOfSecond_of_clock (h : Clock t d second) (first : 1 ≤ d.year) (last : d.year ≤ 9999) :
    dateOfSecond t = .ok d := by
  have hyear : d.year = yearOf (dayOfSecond t) := by rw [h.date_eq]; rfl
  have hleast := yearStart_yearOf_le (dayOfSecond t)
  have hmost := lt_yearStart_yearOf_add_one (dayOfSecond t)
  have hfrom := yearStart_mono (show 1 ≤ yearOf (dayOfSecond t) by omega)
  have hto := yearStart_mono (show yearOf (dayOfSecond t) + 1 ≤ 10000 by omega)
  have hword : ¬ (t < -timeBound ∨ timeBound ≤ t) := by
    simp only [yearStart, dayOfSecond, secondsPerDay, epochDay, timeBound] at *
    omega
  have hhalf : ¬ (d.year - 1900 < -yearBound ∨ yearBound ≤ d.year - 1900) := by
    unfold yearBound
    omega
  have hyears : ¬ (d.year < firstYear ∨ lastYear < d.year) := by
    unfold firstYear lastYear
    omega
  rw [dateOfSecond, if_neg hword, ← h.date_eq]
  simp only [if_neg hhalf, if_neg hyears]

end Clock

end AllowanceProxy.Calendar
