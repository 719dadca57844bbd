import AllowanceProxy.Proofs.Debit

/-!
Histories of a wallet: spends that are booked one after another. What is left of the limit, with
all that was debited since the last refill, is what the limit was then; and refills keep the
distance of a period.
-/
namespace AllowanceProxy

/-- One accepted spend: the moment, the debited amount, and the wallet before and after it. -/
structure Spend where
  now : Int
  before : Wallet
  reduction : Nat
  after : Wallet
  deriving DecidableEq

namespace Spend

/-- The limit is refilled by a spend past the reset. -/
def Refills (x : Spend) : Prop := x.before.nextReset < x.now

instance (x : Spend) : Decidable x.Refills := inferInstanceAs (Decidable (_ < _))

def refills (xs : List Spend) : List Spend := xs.filter fun x => x.Refills

def debited : List Spend → Nat
  | [] => 0
  | x :: xs => x.reduction + debited xs

/-- The spends from the last one that refills on; all of them if none does. -/
def sinceRefill : List Spend → List Spend
  | [] => []
  | x :: xs => if refills xs = [] then x :: xs else sinceRefill xs

/-- What there was to spend from: the full limit if a spend refilled it, else what was left. -/
def base (l : SpendLimit) (xs : List Spend) : Nat :=
  if refills xs = [] then l.remaining else l.amount

variable (x : Spend) (xs ys : List Spend)

@[simp] theorem debited_nil : debited [] = 0 := rfl

@[simp] theorem debited_cons : debited (x :: xs) = x.reduction + debited xs := rfl

@[simp] theorem refills_nil : refills [] = [] := rfl

@[simp] theorem refills_append : refills (xs ++ ys) = refills xs ++ refills ys :=
  List.filter_append xs ys

variable {x xs ys}

theorem refills_cons_of_refills (h : x.Refills) : refills (x :: xs) = x :: refills xs :=
  List.filter_cons_of_pos (by simpa using h)

theorem refills_cons_of_not (h : ¬ x.Refills) : refills (x :: xs) = refills xs :=
  List.filter_cons_of_neg (by simpa using h)

theorem mem_refills : x ∈ refills xs ↔ x ∈ xs ∧ x.Refills := by simp [refills]

theorem refills_eq_nil_iff : refills xs = [] ↔ ∀ x ∈ xs, ¬ x.Refills := by
  simp [refills, List.filter_eq_nil_iff]

theorem sinceRefill_of_refills_eq_nil (h : refills xs = []) : sinceRefill xs = xs := by
  cases xs with
  | nil => rfl
  | cons x xs =>
    have hrest : refills xs = [] := by
      rw [refills_eq_nil_iff] at h ⊢
      exact fun y hy => h y (List.mem_cons_of_mem x hy)
    rw [sinceRefill, if_pos hrest]

theorem sinceRefill_append (hx : x.Refills) (h : refills xs = []) :
    sinceRefill (ys ++ x :: xs) = x :: xs := by
  induction ys with
  | nil => rw [List.nil_append, sinceRefill, if_pos h]
  | cons y ys ih =>
    have hne : refills (ys ++ x :: xs) ≠ [] := by simp [refills_cons_of_refills hx]
    rw [List.cons_append, sinceRefill, if_neg hne, ih]

end Spend

namespace Wallet

open Spend

variable {w w' : Wallet} {l : SpendLimit} {ls : List SpendLimit} {now : Int} {n : Nat}
  {x : Spend} {xs ys : List Spend}

section Books

/-- What a debit leaves, with the debit itself, is the full limit past the reset and else what
was left before. -/
theorem Books.limits (h : w.Books now n w') (hl : w.limits = l :: ls) :
    ∃ left, w'.limits = { l with remaining := left } :: ls ∧
      left + n = if w.nextReset < now then l.amount else l.remaining := by
  cases h with
  | within limits early fits =>
    rw [hl] at limits
    obtain ⟨rfl, rfl⟩ := List.cons.inj limits
    refine ⟨_, limits_withStanding hl _ _, ?_⟩
    rw [if_neg (by omega)]
    omega
  | anew limits late next fits =>
    rw [hl] at limits
    obtain ⟨rfl, rfl⟩ := List.cons.inj limits
    refine ⟨_, limits_withStanding hl _ _, ?_⟩
    rw [if_pos late]
    omega

theorem Books.eq_withStanding (h : w.Books now n w') :
    ∃ left, w' = w.withStanding w'.nextReset left := by
  cases h with
  | within limits early fits => exact ⟨_, rfl⟩
  | anew limits late next fits => exact ⟨_, rfl⟩

/-- The next reset moves only past the reset, to the end of the period that starts then. -/
theorem Books.nextReset (h : w.Books now n w') :
    now ≤ w.nextReset ∧ w'.nextReset = w.nextReset ∨
      w.nextReset < now ∧ w.resetAfter now = .ok w'.nextReset := by
  cases h with
  | within limits early fits => exact .inl ⟨early, rfl⟩
  | anew limits late next fits => exact .inr ⟨late, next⟩

theorem Books.resetAfter (h : w.Books now n w') : w'.resetAfter = w.resetAfter := by
  obtain ⟨left, hw⟩ := h.eq_withStanding
  rw [hw]
  rfl

end Books

/-- Spends one after another, each on the wallet that the one before it left. -/
inductive History : Wallet → List Spend → Wallet → Prop where
  | nil (w : Wallet) : History w [] w
  | cons {x : Spend} {xs : List Spend} {w' : Wallet}
      (books : x.before.Books x.now x.reduction x.after) (rest : History x.after xs w') :
      History x.before (x :: xs) w'

namespace History

theorem append_iff : History w (xs ++ ys) w' ↔ ∃ v, History w xs v ∧ History v ys w' := by
  constructor
  · intro h
    induction xs generalizing w with
    | nil => exact ⟨w, .nil w, h⟩
    | cons x xs ih =>
      cases h with
      | cons books rest =>
        obtain ⟨v, hfirst, hsecond⟩ := ih rest
        exact ⟨v, .cons books hfirst, hsecond⟩
  · rintro ⟨v, hfirst, hsecond⟩
    induction hfirst with
    | nil v => exact hsecond
    | cons books rest ih => exact .cons books (ih hsecond)

theorem eq_of_nil (h : History w [] w') : w' = w := by
  cases h
  rfl

/-- Only the standing of a wallet has a history. -/
theorem eq_withStanding (h : History w xs w') :
    w' = w ∨ ∃ left, w' = w.withStanding w'.nextReset left := by
  induction h with
  | nil w => exact .inl rfl
  | @cons x xs w' books rest ih =>
    obtain ⟨left, hx⟩ := books.eq_withStanding
    rcases ih with rfl | ⟨left', hw⟩
    · exact .inr ⟨left, hx⟩
    · rw [hx, withStanding_withStanding] at hw
      exact .inr ⟨left', hw⟩

theorem resetAfter (h : History w xs w') : w'.resetAfter = w.resetAfter := by
  induction h with
  | nil w => rfl
  | cons books rest ih => rw [ih, books.resetAfter]

theorem multiple (h : History w xs w') : w'.multiple = w.multiple := by
  rcases h.eq_withStanding with rfl | ⟨left, hw⟩
  · rfl
  · rw [hw]
    rfl

/-- What is left and what was debited since the last refill add up to what there was then. -/
theorem left_add_debited (h : History w xs w') (hl : w.limits = l :: ls) :
    ∃ left, w'.limits = { l with remaining := left } :: ls ∧
      left + debited (sinceRefill xs) = base l xs := by
  induction h generalizing l with
  | nil w => exact ⟨l.remaining, hl, rfl⟩
  | @cons x xs w' books rest ih =>
    obtain ⟨left₁, hl₁, hsum₁⟩ := books.limits hl
    obtain ⟨left, hl', hsum⟩ := ih hl₁
    refine ⟨left, hl', ?_⟩
    by_cases hr : refills xs = []
    · -- Nothing refills later, so that the balance runs on from this spend.
      rw [sinceRefill_of_refills_eq_nil hr] at hsum
      rw [sinceRefill, if_pos hr, debited_cons]
      simp only [base, hr, ↓reduceIte] at hsum
      by_cases hx : x.before.nextReset < x.now
      · rw [base, refills_cons_of_refills hx, if_neg (List.cons_ne_nil _ _)]
        rw [if_pos hx] at hsum₁
        omega
      · rw [base, refills_cons_of_not hx, if_pos hr]
        rw [if_neg hx] at hsum₁
        omega
    · have hne : refills (x :: xs) ≠ [] := by
        rw [← List.singleton_append, refills_append]
        simp [hr]
      rw [sinceRefill, if_neg hr, hsum, base, base, if_neg hr, if_neg hne]

/-- A spend that refills and those up to the next refill debit no more than the full limit. -/
theorem debited_le_of_refills (h : History w (xs ++ x :: ys) w') (hl : w.limits = l :: ls)
    (hx : x.Refills) (hys : refills ys = []) : debited (x :: ys) ≤ l.amount := by
  obtain ⟨left, -, hsum⟩ := h.left_add_debited hl
  have hne : refills (xs ++ x :: ys) ≠ [] := by simp [refills_cons_of_refills hx]
  rw [sinceRefill_append hx hys, base, if_neg hne] at hsum
  omega

/-- Every refill lets at most the full limit be debited once more. -/
theorem left_add_debited_le (h : History w xs w') (hl : w.limits = l :: ls) :
    ∃ left, w'.limits = { l with remaining := left } :: ls ∧
      left + debited xs ≤ l.remaining + (refills xs).length * l.amount := by
  induction h generalizing l with
  | nil w => exact ⟨l.remaining, hl, by simp⟩
  | @cons x xs w' books rest ih =>
    obtain ⟨left₁, hl₁, hsum₁⟩ := books.limits hl
    obtain ⟨left, hl', hsum⟩ := ih hl₁
    refine ⟨left, hl', ?_⟩
    rw [debited_cons]
    simp only at hsum
    by_cases hx : x.before.nextReset < x.now
    · rw [if_pos hx] at hsum₁
      rw [refills_cons_of_refills hx, List.length_cons, Nat.succ_mul]
      omega
    · rw [if_neg hx] at hsum₁
      rw [refills_cons_of_not hx]
      omega

end History

end Wallet

end AllowanceProxy
