import AllowanceProxy.Proofs.History
import AllowanceProxy.Proofs.Schema

/-!
Spacing of refills. A refill moves the reset past its own moment, to the end of the period, and
there is no other refill before that. In a window of one period in days the limit is therefore
debited no more than twice.
-/
namespace AllowanceProxy

open Spend Calendar

section Lists

variable {α : Type} {p : α → Bool} {r : α → α → Prop} {xs : List α}

/-- A property that lasts once it holds cuts a list in two. -/
theorem filter_not_append_filter (h : xs.Pairwise fun x y => p x = true → p y = true) :
    xs.filter (fun x => !p x) ++ xs.filter p = xs := by
  induction h with
  | nil => rfl
  | @cons x xs hx hxs ih =>
    cases hp : p x with
    | false => simp [hp, ih]
    | true =>
      have hall : ∀ y ∈ xs, p y = true := fun y hy => hx y hy hp
      have hnone : xs.filter (fun y => !p y) = [] := by
        rw [List.filter_eq_nil_iff]
        intro y hy
        simp [hall y hy]
      simp [hp, hnone, List.filter_eq_self.mpr hall]

/-- What lies between two such properties is a piece of the list. -/
theorem exists_eq_append_filter {q : α → Bool}
    (hp : xs.Pairwise fun x y => p x = true → p y = true)
    (hq : xs.Pairwise fun x y => q x = true → q y = true) :
    ∃ pre post, xs = pre ++ xs.filter (fun x => p x && !q x) ++ post := by
  refine ⟨xs.filter fun x => !p x, (xs.filter p).filter q, ?_⟩
  have hbetween : xs.filter (fun x => p x && !q x) = (xs.filter p).filter fun x => !q x := by
    rw [List.filter_filter]
    exact List.filter_congr fun x _ => Bool.and_comm _ _
  rw [hbetween, List.append_assoc, filter_not_append_filter (hq.filter p),
    filter_not_append_filter hp]

theorem length_le_one_of_pairwise (h : xs.Pairwise r) (hr : ∀ x ∈ xs, ∀ y ∈ xs, ¬ r x y) :
    xs.length ≤ 1 := by
  cases h with
  | nil => exact Nat.zero_le 1
  | @cons x xs hx hxs =>
    cases xs with
    | nil => exact Nat.le_refl 1
    | cons y ys => exact absurd (hx y (by simp)) (hr x (by simp) y (by simp))

end Lists

namespace Spend

/-- The spends from one moment to another. -/
def window (t u : Int) (xs : List Spend) : List Spend :=
  xs.filter fun x => t ≤ x.now ∧ x.now ≤ u

variable {t u : Int} {x : Spend} {xs : List Spend}

theorem mem_window : x ∈ window t u xs ↔ x ∈ xs ∧ t ≤ x.now ∧ x.now ≤ u := by
  unfold window
  rw [List.mem_filter, decide_eq_true_eq]

/-- The moments being sorted, a window is a piece of the history. -/
theorem exists_eq_append_window (sorted : xs.Pairwise fun x y => x.now ≤ y.now) (t u : Int) :
    ∃ pre post, xs = pre ++ window t u xs ++ post := by
  have hfrom : xs.Pairwise fun x y => decide (t ≤ x.now) = true → decide (t ≤ y.now) = true := by
    refine sorted.imp fun hle hx => ?_
    rw [decide_eq_true_eq] at hx ⊢
    omega
  have hpast : xs.Pairwise fun x y => decide (u < x.now) = true → decide (u < y.now) = true := by
    refine sorted.imp fun hle hx => ?_
    rw [decide_eq_true_eq] at hx ⊢
    omega
  have hwindow : window t u xs =
      xs.filter fun x => decide (t ≤ x.now) && !decide (u < x.now) := by
    refine List.filter_congr fun x _ => ?_
    simp only [Bool.decide_and, ← decide_not, Int.not_lt]
  rw [hwindow]
  exact exists_eq_append_filter hfrom hpast

end Spend

namespace Wallet

variable {w w' : Wallet} {l : SpendLimit} {ls : List SpendLimit} {now : Int} {n : Nat}
  {x y : Spend} {xs : List Spend}

theorem Books.wellFormed (h : w.Books now n w') (hw : w.WellFormed) : w'.WellFormed := by
  obtain ⟨left, hstanding⟩ := h.eq_withStanding
  constructor
  · rw [hstanding]
    exact hw.multiple_pos
  · rw [hstanding]
    exact hw.multiple_le
  · cases h with
    | within limits early fits =>
      have hl := hw.limits
      rw [limits, List.forall_mem_cons] at hl
      rw [limits_withStanding limits, List.forall_mem_cons]
      exact ⟨Nat.le_trans (Nat.sub_le _ _) hl.1, hl.2⟩
    | anew limits late next fits =>
      have hl := hw.limits
      rw [limits, List.forall_mem_cons] at hl
      rw [limits_withStanding limits, List.forall_mem_cons]
      exact ⟨Nat.sub_le _ _, hl.2⟩

/-- The reset is never moved back, and a refill moves it past its own moment. -/
theorem Books.nextReset_le (h : w.Books now n w') (hw : w.WellFormed) :
    w.nextReset ≤ w'.nextReset := by
  rcases h.nextReset with ⟨-, heq⟩ | ⟨hlate, hnext⟩
  · omega
  · have hlt := lt_resetAfter hw.multiple_pos hnext
    omega

namespace History

theorem wellFormed (h : History w xs w') (hw : w.WellFormed) : w'.WellFormed := by
  induction h with
  | nil w => exact hw
  | cons books rest ih => exact ih (books.wellFormed hw)

/-- A refill comes after the reset that the history starts with. -/
theorem lt_now_of_refills (h : History w xs w') (hw : w.WellFormed) (hx : x ∈ refills xs) :
    w.nextReset < x.now := by
  induction h with
  | nil w => cases hx
  | @cons y ys w' books rest ih =>
    have hle := books.nextReset_le hw
    obtain ⟨hmem, hlate⟩ := mem_refills.mp hx
    rcases List.mem_cons.mp hmem with rfl | hmem
    · exact hlate
    · have hlt := ih (books.wellFormed hw) (mem_refills.mpr ⟨hmem, hlate⟩)
      omega

/-- A refill computes the next reset from its own moment. -/
theorem resetAfter_of_refills (h : History w xs w') (hx : x ∈ refills xs) :
    w.resetAfter x.now = .ok x.after.nextReset ∧ x.before.nextReset < x.now := by
  induction h with
  | nil w => cases hx
  | @cons y ys w' books rest ih =>
    obtain ⟨hmem, hlate⟩ := mem_refills.mp hx
    rcases List.mem_cons.mp hmem with rfl | hmem
    · rcases books.nextReset with ⟨hearly, -⟩ | ⟨-, hnext⟩
      · exact absurd hlate (Int.not_lt.mpr hearly)
      · exact ⟨hnext, hlate⟩
    · rw [← books.resetAfter]
      exact ih (mem_refills.mpr ⟨hmem, hlate⟩)

/-- A refill comes after the end of every period that an earlier refill started. -/
theorem refills_spaced (h : History w xs w') (hw : w.WellFormed) :
    (refills xs).Pairwise fun x y => ∃ t, w.resetAfter x.now = .ok t ∧ t < y.now := by
  induction h with
  | nil w => exact .nil
  | @cons x xs w' books rest ih =>
    have hrest := ih (books.wellFormed hw)
    rw [books.resetAfter] at hrest
    by_cases hx : x.Refills
    · rw [refills_cons_of_refills hx]
      refine .cons ?_ hrest
      intro y hy
      rcases books.nextReset with ⟨hearly, -⟩ | ⟨-, hnext⟩
      · exact absurd hx (Int.not_lt.mpr hearly)
      · exact ⟨x.after.nextReset, hnext, rest.lt_now_of_refills (books.wellFormed hw) hy⟩
    · rw [refills_cons_of_not hx]
      exact hrest

theorem refills_spaced_days (h : History w xs w') (hw : w.WellFormed) (hu : w.unit = .days) :
    (refills xs).Pairwise fun x y => x.now + secondsPerDay * w.multiple < y.now := by
  refine (h.refills_spaced hw).imp ?_
  rintro x y ⟨t, ht, hlt⟩
  rwa [resetAfter_days hu ht] at hlt

theorem refills_spaced_months (h : History w xs w') (hw : w.WellFormed) (hu : w.unit = .months) :
    (refills xs).Pairwise fun x y => (dateOf (dayOfSecond x.now)).monthIndex + w.multiple ≤
      (dateOf (dayOfSecond y.now)).monthIndex := by
  refine (h.refills_spaced hw).imp ?_
  rintro x y ⟨t, ht, hlt⟩
  rw [resetAfter_months hu ht] at hlt
  exact monthIndex_add_le_of_lt hlt

/-- At one moment there is at most one refill. -/
theorem length_refills_le_one (h : History w xs w') (hw : w.WellFormed)
    (hnow : ∀ x ∈ xs, x.now = now) : (refills xs).length ≤ 1 := by
  refine length_le_one_of_pairwise (h.refills_spaced hw) ?_
  rintro x hx y hy ⟨t, ht, hlt⟩
  have hpast := lt_resetAfter hw.multiple_pos ht
  have hxnow := hnow x (mem_refills.mp hx).1
  have hynow := hnow y (mem_refills.mp hy).1
  omega

/-- In a window of one period there is at most one refill. -/
theorem length_refills_window_le_one (h : History w xs w') (hw : w.WellFormed)
    (hu : w.unit = .days) (t : Int) :
    (refills (window t (t + secondsPerDay * w.multiple) xs)).length ≤ 1 := by
  have hsub : (refills (window t (t + secondsPerDay * w.multiple) xs)).Sublist (refills xs) :=
    List.filter_sublist.filter _
  refine length_le_one_of_pairwise ((h.refills_spaced_days hw hu).sublist hsub) ?_
  intro x hx y hy hlt
  have hxin := mem_window.mp (mem_refills.mp hx).1
  have hyin := mem_window.mp (mem_refills.mp hy).1
  omega

/-- In a window of one period the limit is debited at most twice. -/
theorem debited_window_le (h : History w xs w') (hw : w.WellFormed) (hu : w.unit = .days)
    (hl : w.limits = l :: ls) (sorted : xs.Pairwise fun x y => x.now ≤ y.now) (t : Int) :
    debited (window t (t + secondsPerDay * w.multiple) xs) ≤ 2 * l.amount := by
  have honce := h.length_refills_window_le_one hw hu t
  obtain ⟨pre, post, hxs⟩ := exists_eq_append_window sorted t (t + secondsPerDay * w.multiple)
  generalize window t (t + secondsPerDay * w.multiple) xs = mid at *
  subst hxs
  obtain ⟨v, hfirst, -⟩ := append_iff.mp h
  obtain ⟨u, hbefore, hduring⟩ := append_iff.mp hfirst
  obtain ⟨rest, hrest, -⟩ := hbefore.left_add_debited hl
  obtain ⟨left, -, hsum⟩ := hduring.left_add_debited_le hrest
  have hle : rest ≤ l.amount := by
    have hlimits := (hbefore.wellFormed hw).limits
    rw [hrest, List.forall_mem_cons] at hlimits
    exact hlimits.1
  have htwice : (refills mid).length * l.amount ≤ 1 * l.amount := Nat.mul_le_mul_right _ honce
  simp only at hsum
  omega

end History

end Wallet

end AllowanceProxy
