import AllowanceProxy.Proofs.Schema
import Mathlib.Data.List.Induction

/-!
Assignments to the fields of a limit. A value that its field cannot hold is refused and changes
nothing. A value that puts the rest above the total is refused as well, but it is stored: the limit
stays above its total until another value is stored.
-/
namespace AllowanceProxy.SpendLimit

variable {l k : SpendLimit} {a : Assignment} {as : List Assignment}

/-- The value is one that its field can hold. -/
def Assignment.Storable : Assignment → Prop
  | .denom v => ∃ d, Decoder.text v = .ok d
  | .amount v => ∃ n, Decoder.nat v = .ok n
  | .remaining v => ∃ n, Decoder.nat v = .ok n

/-- Whether a field can hold a value does not depend on the rest of the limit. -/
theorem storable_iff (l : SpendLimit) : a.Storable ↔ ∃ k, a.apply l = .ok k := by
  cases a <;> simp [Assignment.Storable, Assignment.apply, Checked.within_eq_ok, Checked.map_eq_ok]

/-- The value would put the rest above the total. -/
def Exceeds (l : SpendLimit) (a : Assignment) : Prop :=
  ∃ k, a.apply l = .ok k ∧ k.amount < k.remaining

instance (l : SpendLimit) (a : Assignment) : Decidable (l.Exceeds a) :=
  match h : a.apply l with
  | .ok k => decidable_of_iff (k.amount < k.remaining) (by simp [Exceeds, h])
  | .issues _ => .isFalse (by simp [Exceeds, h])

/-- What comes of an assignment: how it is answered, and the limit after it. -/
inductive Assigned (l : SpendLimit) (a : Assignment) : Checked Unit → SpendLimit → Prop where
  | refused {is : List Issue} (field : a.apply l = .issues is) : Assigned l a (.issues is) l
  | stored {k : SpendLimit} (field : a.apply l = .ok k) (within : k.WellFormed) :
      Assigned l a (.ok ()) k
  | exceeded {k : SpendLimit} (field : a.apply l = .ok k) (above : k.amount < k.remaining) :
      Assigned l a (.fail (.remainingAboveAmount k.remaining k.amount)) k

theorem assigned (l : SpendLimit) (a : Assignment) :
    l.Assigned a (l.assign a).1 (l.assign a).2 := by
  unfold assign
  split
  next is hfield => exact .refused hfield
  next k hfield =>
    by_cases hk : k.WellFormed
    · rw [check, if_pos hk]
      exact .stored hfield hk
    · rw [check, if_neg hk]
      exact .exceeded hfield (Nat.not_le.mp hk)

/-- The limit after assignments, whether they are refused or not. -/
def afterAll (l : SpendLimit) (as : List Assignment) : SpendLimit :=
  as.foldl (fun l a => (l.assign a).2) l

theorem afterAll_append_singleton (l : SpendLimit) (as : List Assignment) (a : Assignment) :
    l.afterAll (as ++ [a]) = ((l.afterAll as).assign a).2 := by
  simp [afterAll]

/-- After every assignment the rest is within the total, and one that fails changes nothing. -/
def Upholds : SpendLimit → List Assignment → Prop
  | _, [] => True
  | l, a :: as => ((l.assign a).2.WellFormed ∧ ((l.assign a).1 ≠ .ok () → (l.assign a).2 = l)) ∧
      Upholds (l.assign a).2 as

/-- No assignment puts the rest above the total. -/
def NeverExceeds : SpendLimit → List Assignment → Prop
  | _, [] => True
  | l, a :: as => ¬ l.Exceeds a ∧ NeverExceeds (l.assign a).2 as

instance decidableNeverExceeds :
    (l : SpendLimit) → (as : List Assignment) → Decidable (l.NeverExceeds as)
  | _, [] => inferInstanceAs (Decidable True)
  | l, a :: as =>
    have := decidableNeverExceeds (l.assign a).2 as
    inferInstanceAs (Decidable (_ ∧ _))

/-- A single assignment upholds the limit unless it exceeds it. -/
theorem upholds_step_iff (h : l.WellFormed) :
    ((l.assign a).2.WellFormed ∧ ((l.assign a).1 ≠ .ok () → (l.assign a).2 = l)) ↔
      ¬ l.Exceeds a := by
  have hcases := l.assigned a
  generalize (l.assign a).1 = answer at hcases ⊢
  generalize (l.assign a).2 = after at hcases ⊢
  cases hcases with
  | refused field =>
    refine iff_of_true ⟨h, fun _ => rfl⟩ ?_
    rintro ⟨k, hk, -⟩
    rw [field] at hk
    cases hk
  | stored field within =>
    refine iff_of_true ⟨within, fun hfailed => absurd rfl hfailed⟩ ?_
    rintro ⟨k, hk, habove⟩
    rw [field] at hk
    obtain rfl := Checked.ok.inj hk
    exact Nat.not_le.mpr habove within
  | exceeded field above =>
    exact iff_of_false (fun hkept => Nat.not_le.mpr above hkept.1) (not_not_intro ⟨_, field, above⟩)

theorem upholds_iff (h : l.WellFormed) : l.Upholds as ↔ l.NeverExceeds as := by
  induction as generalizing l with
  | nil => exact Iff.rfl
  | cons a as ih =>
    rw [Upholds, NeverExceeds, upholds_step_iff h]
    refine and_congr_right fun hkeeps => ih ?_
    exact ((upholds_step_iff h).mpr hkeeps).1

/-- The last value to be stored is one that puts the rest above the total. -/
def EndsAbove (l : SpendLimit) (as : List Assignment) : Prop :=
  ∃ before a after, as = before ++ a :: after ∧ (l.afterAll before).Exceeds a ∧
    ∀ b ∈ after, ¬ b.Storable

/-- The last assignment is the one in question, or it stores nothing. -/
theorem endsAbove_append_singleton (l : SpendLimit) (as : List Assignment) (b : Assignment) :
    l.EndsAbove (as ++ [b]) ↔ (l.afterAll as).Exceeds b ∨ ¬ b.Storable ∧ l.EndsAbove as := by
  constructor
  · rintro ⟨before, a, after, heq, hexceeds, hrest⟩
    rcases List.eq_nil_or_concat after with rfl | ⟨front, c, rfl⟩
    · obtain ⟨rfl, hb⟩ := List.append_inj' heq rfl
      obtain rfl := (List.cons.inj hb).1
      exact .inl hexceeds
    · have hlast : as ++ [b] = (before ++ a :: front) ++ [c] := by simp [heq]
      obtain ⟨rfl, hb⟩ := List.append_inj' hlast rfl
      obtain rfl := (List.cons.inj hb).1
      refine .inr ⟨hrest b (by simp), before, a, front, rfl, hexceeds, ?_⟩
      exact fun x hx => hrest x (by simp [hx])
  · rintro (hexceeds | ⟨hb, before, a, after, rfl, hexceeds, hrest⟩)
    · exact ⟨as, b, [], rfl, hexceeds, by simp⟩
    · refine ⟨before, a, after ++ [b], by simp, hexceeds, ?_⟩
      intro c hc
      rcases List.mem_append.mp hc with hc | hc
      · exact hrest c hc
      · exact List.mem_singleton.mp hc ▸ hb

theorem not_wellFormed_afterAll_iff (h : l.WellFormed) :
    ¬ (l.afterAll as).WellFormed ↔ l.EndsAbove as := by
  induction as using List.reverseRecOn with
  | nil => exact iff_of_false (not_not_intro h) (by simp [EndsAbove])
  | append_singleton as b ih =>
    rw [endsAbove_append_singleton, afterAll_append_singleton, ← ih, storable_iff (l.afterAll as)]
    have hcases := (l.afterAll as).assigned b
    generalize ((l.afterAll as).assign b).1 = answer at hcases
    generalize ((l.afterAll as).assign b).2 = after at hcases ⊢
    cases hcases with
    | refused field => simp [Exceeds, field]
    | stored field within => simp [Exceeds, field, within, Nat.not_lt.mpr within]
    | exceeded field above => simp [Exceeds, field, above, WellFormed]

/-- A limit that is built is within its total. Assignments keep it so, and leave it alone when they
fail, exactly as long as none puts the rest above the total. Of those that fail, one whose value the
field cannot hold changes nothing, and one that puts the rest above the total is stored all the
same: the limit is above its total if and only if that was the last value to be stored. -/
theorem assignments_uphold {v : Json} (built : decode v = .ok l) (as : List Assignment) :
    l.WellFormed ∧ (l.Upholds as ↔ l.NeverExceeds as) ∧
      (¬ (l.afterAll as).WellFormed ↔ l.EndsAbove as) ∧
      ∀ a, (l.afterAll as).Assigned a ((l.afterAll as).assign a).1
        ((l.afterAll as).assign a).2 := by
  have hbuilt := wellFormed_of_decode built
  refine ⟨hbuilt, upholds_iff hbuilt, not_wellFormed_afterAll_iff hbuilt, ?_⟩
  exact fun a => (l.afterAll as).assigned a

end AllowanceProxy.SpendLimit

namespace AllowanceProxy

/-- Of 10 in each period, 5 are left. -/
def Sample.limit : SpendLimit := ⟨"uusd", 10, 5⟩

namespace SpendLimit

/-- The rest is raised, the total with a text, and a value of no amount is refused. A total of 6
would be below the rest of 8: it is stored, and the limit is above it also after a refused value. -/
theorem assignments_uphold_lowered :
    let raised : List Assignment := [.remaining (.int 8), .amount (.str "20"), .remaining .null]
    let lowered := raised ++ [.amount (.int 6), .denom (.int 1)]
    decode Sample.limit.toJson = .ok Sample.limit ∧
      Sample.limit.Upholds raised ∧ Sample.limit.afterAll raised = ⟨"uusd", 20, 8⟩ ∧
      ¬ Sample.limit.Upholds lowered ∧ Sample.limit.afterAll lowered = ⟨"uusd", 6, 8⟩ ∧
      Sample.limit.EndsAbove lowered := by
  intro raised lowered
  have hbuilt : decode Sample.limit.toJson = .ok Sample.limit := decode_toJson (by decide)
  have hraised := assignments_uphold hbuilt raised
  have hlowered := assignments_uphold hbuilt lowered
  refine ⟨hbuilt, hraised.2.1.mpr (by decide), by decide, ?_, by decide, ?_⟩
  · exact fun h => absurd (hlowered.2.1.mp h) (by decide)
  · exact hlowered.2.2.1.mp (by decide)

/-- A rest of 11 is refused, and yet the limit of 10 has it afterwards. -/
theorem assign_keeps_refused :
    decode Sample.limit.toJson = .ok Sample.limit ∧
      Sample.limit.assign (.remaining (.int 11)) =
        (.fail (.remainingAboveAmount 11 10), ⟨"uusd", 10, 11⟩) ∧
      ¬ Sample.limit.Upholds [.remaining (.int 11)] := by
  refine ⟨decode_toJson (by decide), by decide, ?_⟩
  exact fun h => absurd h.1.1 (by decide)

end SpendLimit

end AllowanceProxy
