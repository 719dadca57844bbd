import AllowanceProxy.Proofs.History
import AllowanceProxy.Proofs.Operation
import AllowanceProxy.Proofs.Passage

/-!
Runs of operations, and what they do to the wallet of one address. As long as it is not removed,
the wallet changes by the accepted spends of that address alone.
-/
namespace AllowanceProxy

open Asking Account

variable {σ : Type}

namespace Passage

/-- The spend that a message is for its sender, if anything is debited for it. -/
def spends (s : Sending) (x : Passage σ) : List Spend :=
  match x.before.wallet? s.sender, x.after.wallet? s.sender with
  | some w, some w' => x.added.reductions.map fun n => ⟨s.now, w, n, w'⟩
  | _, _ => []

theorem now_of_mem_spends {s : Sending} {x : Passage σ} {y : Spend} (h : y ∈ x.spends s) :
    y.now = s.now := by
  unfold spends at h
  split at h
  next =>
    obtain ⟨n, -, rfl⟩ := List.mem_map.mp h
    rfl
  next => cases h

end Passage

/-- An operation, with the chain as it is at the time. -/
structure Call (σ : Type) where
  operation : Operation
  chain : σ

namespace Call

variable [Json.Nesting] (e : Engine σ) (address : String) (a : Account) (k : Call σ)

def answer : Except Error Answer := (performed e a k.operation k.chain).1.1

def after : Account := (performed e a k.operation k.chain).1.2

/-- The spends of an address in a call: those of the messages that it executes, if the call is
accepted. -/
def spends : List Spend :=
  match k.operation, k.answer e a with
  | .execute s ms, .ok _ =>
    if s.sender = address then (passages e s a k.chain ms).flatMap (Passage.spends s) else []
  | _, _ => []

/-- The call removes the wallet of an address. -/
def Removes : Prop :=
  ∃ sender x, k.operation = .removeWallet sender address ∧ k.answer e a = .ok x

end Call

variable [Json.Nesting]

/-- The account after calls. -/
def afterAll (e : Engine σ) : Account → List (Call σ) → Account
  | a, [] => a
  | a, k :: ks => afterAll e (k.after e a) ks

/-- The spends of an address in the course of calls. -/
def history (e : Engine σ) (address : String) : Account → List (Call σ) → List Spend
  | _, [] => []
  | a, k :: ks => k.spends e address a ++ history e address (k.after e a) ks

/-- None of the calls removes the wallet of an address. -/
def Keeps (e : Engine σ) (address : String) : Account → List (Call σ) → Prop
  | _, [] => True
  | a, k :: ks => ¬ k.Removes e address a ∧ Keeps e address (k.after e a) ks

section Passages

variable {e : Engine σ} {s : Sending} {a b : Account} {c d : σ} {x : Passage σ}
  {xs : List (Passage σ)} {w : Wallet}

/-- A message is one spend of its sender or none. -/
theorem Passage.history (found : x.before.wallet? s.sender = some w)
    (h : Passes e s x.before x.message x.asked x.after x.added x.left) :
    ∃ w', x.after.wallet? s.sender = some w' ∧ w.History (x.spends s) w' ∧
      (x.spends s).map Spend.reduction = x.added.reductions := by
  rcases h.standing with ⟨hnone, hsame⟩ | ⟨u, v, n, hn, hu, hv, hbooks⟩
  · have hafter : x.after.wallet? s.sender = some w := by
      unfold wallet? at found ⊢
      rw [hsame, found]
    have hspends : x.spends s = [] := by simp [spends, found, hafter, hnone]
    rw [hspends, hnone]
    exact ⟨w, hafter, .nil w, rfl⟩
  · obtain rfl := Option.some.inj (found.symm.trans hu)
    have hspends : x.spends s = [⟨s.now, w, n, v⟩] := by simp [spends, found, hv, hn]
    rw [hspends, hn]
    have hhistory := Wallet.History.cons (x := ⟨s.now, w, n, v⟩) hbooks (.nil v)
    exact ⟨v, hv, hhistory, rfl⟩

theorem Account.Trail.history (h : Trail e s a c xs b d) (found : a.wallet? s.sender = some w) :
    ∃ w', b.wallet? s.sender = some w' ∧ w.History (xs.flatMap (Passage.spends s)) w' ∧
      (xs.flatMap (Passage.spends s)).map Spend.reduction =
        xs.flatMap fun x => x.added.reductions := by
  induction h generalizing w with
  | nil a c => exact ⟨w, found, .nil w, rfl⟩
  | cons passes rest ih =>
    obtain ⟨v, hv, hfirst, hreductions⟩ := Passage.history found passes
    obtain ⟨w', hw', hrest, hrests⟩ := ih hv
    refine ⟨w', hw', ?_, ?_⟩
    · rw [List.flatMap_cons]
      exact Wallet.History.append_iff.mpr ⟨v, hfirst, hrest⟩
    · rw [List.flatMap_cons, List.map_append, hreductions, hrests, List.flatMap_cons]

end Passages

namespace Call

variable {e : Engine σ} {address : String} {a b : Account} {k : Call σ} {w : Wallet}

theorem answer_execute {s : Sending} {ms : List Message} {x : Answer}
    (hop : k.operation = .execute s ms) (h : k.answer e a = .ok x) :
    ∃ r d, x = .response r ∧
      ((execute e a s ms).run k.chain).run = ((.ok r, k.after e a), d) := by
  unfold answer after at *
  rw [hop] at h ⊢
  rw [performed_execute] at h ⊢
  rcases hrun : ((execute e a s ms).run k.chain).run with ⟨⟨_ | r, b⟩, d⟩
  all_goals
    rw [hrun] at h
    cases h
  exact ⟨r, d, rfl, rfl⟩

theorem after_of_refused {err : Error} (h : k.answer e a = .error err) : k.after e a = a :=
  restores_performed a e k.chain k.operation err h

theorem spends_of_refused {err : Error} (h : k.answer e a = .error err) :
    k.spends e address a = [] := by
  unfold spends
  split
  next s ms x hop hx =>
    rw [h] at hx
    cases hx
  next => rfl

theorem spends_of_ne_execute (h : ∀ s ms, k.operation ≠ .execute s ms) :
    k.spends e address a = [] := by
  unfold spends
  split
  next s ms x hop hx => exact absurd hop (h s ms)
  next => rfl

theorem spends_of_ne_sender {s : Sending} {ms : List Message} (hop : k.operation = .execute s ms)
    (h : s.sender ≠ address) : k.spends e address a = [] := by
  unfold spends
  rw [hop]
  cases k.answer e a with
  | error err => rfl
  | ok x => exact if_neg h

/-- All spends of a call happen at the one moment of the call. -/
theorem exists_now (e : Engine σ) (address : String) (a : Account) (k : Call σ) :
    ∃ now, ∀ x ∈ k.spends e address a, x.now = now := by
  unfold spends
  split
  next s ms x hop hx =>
    refine ⟨s.now, ?_⟩
    intro y hy
    split at hy
    next =>
      obtain ⟨z, -, hyz⟩ := List.mem_flatMap.mp hy
      exact Passage.now_of_mem_spends hyz
    next => cases hy
  next => exact ⟨0, fun y hy => nomatch hy⟩

/-- An accepted batch of the address is booked as its response tells. -/
theorem history_of_execute {s : Sending} {ms : List Message} {x : Answer}
    (found : a.wallet? address = some w) (hop : k.operation = .execute s ms)
    (hsender : s.sender = address) (h : k.answer e a = .ok x) :
    ∃ w' r, (k.after e a).wallet? address = some w' ∧ w.History (k.spends e address a) w' ∧
      x = .response r ∧ (k.spends e address a).map Spend.reduction = r.reductions := by
  obtain ⟨r, d, rfl, hrun⟩ := answer_execute hop h
  obtain ⟨htrail, -, hresponse⟩ := execute_accepted hrun
  subst hsender
  obtain ⟨w', hw', hhistory, hreductions⟩ := htrail.history found
  have hspends : k.spends e s.sender a =
      (passages e s a k.chain ms).flatMap (Passage.spends s) := by
    unfold spends
    rw [hop, h]
    exact if_pos rfl
  rw [hspends]
  refine ⟨w', r, hw', hhistory, rfl, ?_⟩
  rw [hreductions, hresponse, Response.reductions_join, List.flatMap_map]

/-- A call that does not remove the wallet of an address changes it by the spends of that address
alone. -/
theorem history (found : a.wallet? address = some w) (kept : ¬ k.Removes e address a) :
    ∃ w', (k.after e a).wallet? address = some w' ∧ w.History (k.spends e address a) w' := by
  cases hx : k.answer e a with
  | error err =>
    rw [after_of_refused hx, spends_of_refused hx]
    exact ⟨w, found, .nil w⟩
  | ok x =>
    by_cases hexec : ∃ s ms, k.operation = .execute s ms
    · obtain ⟨s, ms, hop⟩ := hexec
      by_cases hsender : s.sender = address
      · obtain ⟨w', r, hw', hhistory, -⟩ := history_of_execute found hop hsender hx
        exact ⟨w', hw', hhistory⟩
      · obtain ⟨r, d, -, hrun⟩ := answer_execute hop hx
        obtain ⟨htrail, -⟩ := execute_accepted hrun
        rw [spends_of_ne_sender hop hsender]
        exact ⟨w, (htrail.spentBy.wallet?_of_ne (Ne.symm hsender)).trans found, .nil w⟩
    · have hne : ∀ s ms, k.operation ≠ .execute s ms := fun s ms hop => hexec ⟨s, ms, hop⟩
      rw [spends_of_ne_execute hne]
      refine ⟨w, wallet?_performed found hne ?_, .nil w⟩
      intro sender hop
      exact absurd ⟨sender, x, hop, hx⟩ kept

/-- What the spends of an address in a call stand for. -/
structure Recorded (e : Engine σ) (address : String) (a : Account) (k : Call σ) : Prop where
  told : ∀ s ms r, k.operation = .execute s ms → s.sender = address →
    k.answer e a = .ok (.response r) →
    (k.spends e address a).map Spend.reduction = r.reductions
  refused : ∀ err, k.answer e a = .error err → k.spends e address a = [] ∧ k.after e a = a
  dry : ∀ sender now ms, k.operation = .canSpend sender now ms →
    k.spends e address a = [] ∧ k.after e a = a
  idle : k.spends e address a = [] → (k.after e a).wallet? address = a.wallet? address

theorem recorded (found : a.wallet? address = some w) (kept : ¬ k.Removes e address a) :
    k.Recorded e address a := by
  constructor
  · intro s ms r hop hsender hr
    obtain ⟨w', r', -, -, hr', htold⟩ := history_of_execute found hop hsender hr
    obtain rfl := Answer.response.inj hr'
    exact htold
  · intro err herr
    exact ⟨spends_of_refused herr, after_of_refused herr⟩
  · intro sender now ms hop
    have hne : ∀ s ms, k.operation ≠ .execute s ms := by simp [hop]
    refine ⟨spends_of_ne_execute hne, ?_⟩
    unfold after
    rw [hop, performed_canSpend]
  · intro hnone
    obtain ⟨w', hw', hhistory⟩ := history found kept
    rw [hnone] at hhistory
    rw [hw', hhistory.eq_of_nil, found]

end Call

/-- Every one of the calls has a property where it is made. -/
def Throughout (e : Engine σ) (P : Account → Call σ → Prop) : Account → List (Call σ) → Prop
  | _, [] => True
  | a, k :: ks => P a k ∧ Throughout e P (k.after e a) ks

section Runs

variable (e : Engine σ) (address : String) (a : Account) (ks ls : List (Call σ))

@[simp] theorem afterAll_append :
    afterAll e a (ks ++ ls) = afterAll e (afterAll e a ks) ls := by
  induction ks generalizing a with
  | nil => rfl
  | cons k ks ih => exact ih (k.after e a)

theorem throughout_append (P : Account → Call σ → Prop) : Throughout e P a (ks ++ ls) ↔
    Throughout e P a ks ∧ Throughout e P (afterAll e a ks) ls := by
  induction ks generalizing a with
  | nil => simp [Throughout, afterAll]
  | cons k ks ih => rw [List.cons_append, Throughout, ih, Throughout, afterAll, and_assoc]

theorem throughout_of_forall {P : Account → Call σ → Prop} (h : ∀ b k, P b k) :
    Throughout e P a ks := by
  induction ks generalizing a with
  | nil => trivial
  | cons k ks ih => exact ⟨h a k, ih (k.after e a)⟩

@[simp] theorem keeps_append : Keeps e address a (ks ++ ls) ↔
    Keeps e address a ks ∧ Keeps e address (afterAll e a ks) ls := by
  induction ks generalizing a with
  | nil => simp [Keeps, afterAll]
  | cons k ks ih => rw [List.cons_append, Keeps, ih, Keeps, afterAll, and_assoc]

/-- Operations one after another on one chain are such calls. -/
theorem exists_calls (os : List Operation) (c : σ) :
    ∃ ks : List (Call σ), ks.map Call.operation = os ∧
      ((performAll e a os).run c).run.1.2 = afterAll e a ks := by
  induction os generalizing a c with
  | nil => exact ⟨[], rfl, rfl⟩
  | cons o os ih =>
    obtain ⟨ks, hks, hafter⟩ := ih (performed e a o c).1.2 (performed e a o c).2
    refine ⟨⟨o, c⟩ :: ks, ?_, ?_⟩
    · rw [List.map_cons, hks]
    · exact hafter

variable {e address a ks} {w : Wallet}

/-- In a run that does not remove it, the wallet of an address has the history of the spends of
that address. -/
theorem exists_history (found : a.wallet? address = some w) (kept : Keeps e address a ks) :
    ∃ w', (afterAll e a ks).wallet? address = some w' ∧
      w.History (history e address a ks) w' := by
  induction ks generalizing a w with
  | nil => exact ⟨w, found, .nil w⟩
  | cons k ks ih =>
    obtain ⟨hk, hks⟩ := kept
    obtain ⟨v, hv, hfirst⟩ := Call.history found hk
    obtain ⟨w', hw', hrest⟩ := ih hv hks
    exact ⟨w', hw', Wallet.History.append_iff.mpr ⟨v, hfirst, hrest⟩⟩

end Runs

end AllowanceProxy
