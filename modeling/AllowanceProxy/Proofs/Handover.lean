import AllowanceProxy.Proofs.Effect
import AllowanceProxy.Proofs.Forwarding
import Mathlib.Data.List.Induction

/-!
Handing an account over. Whoever confirms a succession was named by the present owner, at least
the safety delay ago, and no proposal, cancellation or confirmation has come in between.
-/
namespace AllowanceProxy

open Account Sample

variable {σ : Type}

namespace Account.Operation

def IsHandover : Operation → Prop
  | .proposeOwner _ _ _ | .confirmOwner _ _ | .cancelOwner _ => True
  | _ => False

/-- All operations but the execution of messages and the dry run. -/
def Manages : Operation → Prop
  | .execute _ _ | .canSpend _ _ _ => False
  | _ => True

end Account.Operation

namespace Call

variable [Json.Nesting] (e : Engine σ) (a : Account) (k : Call σ)

/-- The call is accepted as a step of a handover. -/
def HandsOver : Prop := k.operation.IsHandover ∧ k.Accepted e a

def Confirms (heir : String) (now : Int) : Prop :=
  k.operation = .confirmOwner heir now ∧ k.Accepted e a

end Call

/-- In the calls `j` comes between `first` and `rest`. There the one who owns the account before
and after it has proposed `heir` at `since`, and it is the last step of a handover. -/
structure Proposed [Json.Nesting] (e : Engine σ) (a : Account) (ks : List (Call σ)) (heir : String)
    (since : Int) (first : List (Call σ)) (j : Call σ) (rest : List (Call σ)) : Prop where
  calls : ks = first ++ j :: rest
  operation : j.operation = .proposeOwner (afterAll e a ks).owner heir since
  owner : (afterAll e a first).owner = (afterAll e a ks).owner
  accepted : j.Accepted e (afterAll e a first)
  quiet : Throughout e (fun b k => ¬ k.HandsOver e b) (j.after e (afterAll e a first)) rest

/-- The address has no rights of an owner: it manages nothing, and what it executes passes only
under a rule or against the limit of its own wallet. -/
structure Dispossessed [Json.Nesting] (e : Engine σ) (a : Account) (address : String) : Prop where
  managing : ∀ k : Call σ, k.operation.sender = address → k.operation.Manages →
    ¬ k.Accepted e a ∧ k.after e a = a
  executing : ∀ s ms c r b d, s.sender = address →
    ((execute e a s ms).run c).run = ((.ok r, b), d) →
    ∀ x ∈ passages e s a c ms, x.Covered a address ∨ x.Debited e s a

/-! Two heirs are named one after the other, and both try to confirm in vain. -/
namespace Sample

def guarded : Account := { account with updateDelay := 60 }

def succession : List (Call Unit) :=
  [⟨.proposeOwner "owner" "rival" 10, ()⟩, ⟨.proposeOwner "owner" "heir" 100, ()⟩,
    ⟨.confirmOwner "rival" 200, ()⟩, ⟨.confirmOwner "heir" 120, ()⟩,
    ⟨.execute late [send 30], ()⟩]

/-- A delay after the second proposal the second heir confirms. -/
def confirmation : Call Unit := ⟨.confirmOwner "heir" 160, ()⟩

end Sample

section Handover

variable {e : Engine σ} {a : Account} {k : Call σ} {ks : List (Call σ)} {heir : String}
  {now since : Int}

section

variable [Json.Nesting]

/-- Everything that is not a step of a handover leaves it where it is. -/
theorem Call.handover_of_not_handsOver (h : ¬ k.HandsOver e a) :
    (k.after e a).owner = a.owner ∧ (k.after e a).pendingOwner = a.pendingOwner ∧
      (k.after e a).pendingSince = a.pendingSince := by
  by_cases hk : k.Accepted e a
  · have hother : ¬ k.operation.IsHandover := fun hop => h ⟨hop, hk⟩
    have heffect := hk.effect
    generalize k.after e a = b at heffect ⊢
    generalize k.operation = o at heffect hother
    cases heffect with
    | execute trail messages =>
      rw [trail.spentBy.frame]
      exact ⟨rfl, rfl, rfl⟩
    | proposeOwner newOwner now isOwner => exact absurd trivial hother
    | confirmOwner isPending elapsed => exact absurd trivial hother
    | cancelOwner entitled => exact absurd trivial hother
    | _ => exact ⟨rfl, rfl, rfl⟩
  · rw [Call.after_of_not_accepted hk]
    exact ⟨rfl, rfl, rfl⟩

/-- The only step that makes somebody pending is a proposal by the owner. -/
theorem Call.HandsOver.proposal (h : k.HandsOver e a)
    (pending : (k.after e a).pendingOwner = some heir) :
    ∃ since, k.operation = .proposeOwner a.owner heir since ∧ (k.after e a).owner = a.owner ∧
      (k.after e a).pendingSince = some since := by
  obtain ⟨hop, haccepted⟩ := h
  have heffect := haccepted.effect
  generalize k.after e a = b at heffect pending ⊢
  generalize k.operation = o at heffect hop
  cases heffect with
  | proposeOwner newOwner now isOwner =>
    obtain rfl := isOwner
    obtain rfl := Option.some.inj pending
    exact ⟨now, rfl, rfl, rfl⟩
  | confirmOwner isPending elapsed => cases pending
  | cancelOwner entitled => cases pending
  | _ => exact hop.elim

/-- The owner changes only in a confirmation. -/
theorem Call.exists_confirms (h : (k.after e a).owner ≠ a.owner) :
    ∃ heir now, k.Confirms e a heir now := by
  have hk : k.HandsOver e a := by
    by_contra hk
    exact h (handover_of_not_handsOver hk).1
  obtain ⟨hop, haccepted⟩ := hk
  have heffect := haccepted.effect
  generalize k.after e a = b at heffect h
  generalize ho : k.operation = o at heffect hop
  cases heffect with
  | proposeOwner newOwner now isOwner => exact absurd rfl h
  | confirmOwner isPending elapsed => exact ⟨_, _, ho, haccepted⟩
  | cancelOwner entitled => exact absurd rfl h
  | _ => exact hop.elim

theorem Call.Confirms.effect (h : k.Confirms e a heir now) :
    a.IsPendingOwner heir ∧ a.confirmableFrom ≤ now ∧
      k.after e a = { a with owner := heir, pendingOwner := none, pendingSince := none } := by
  obtain ⟨hop, haccepted⟩ := h
  have heffect := haccepted.effect
  rw [hop] at heffect
  generalize k.after e a = b at heffect ⊢
  cases heffect with
  | confirmOwner isPending elapsed => exact ⟨isPending, elapsed, rfl⟩

namespace Proposed

variable {first rest : List (Call σ)} {j : Call σ}

/-- The proposal stands as long as there is no other step. -/
theorem snoc (h : Proposed e a ks heir since first j rest)
    (hk : ¬ k.HandsOver e (afterAll e a ks)) :
    Proposed e a (ks ++ [k]) heir since first j (rest ++ [k]) := by
  obtain ⟨hcalls, hop, howner, haccepted, hquiet⟩ := h
  have hrest : afterAll e (j.after e (afterAll e a first)) rest = afterAll e a ks := by
    rw [hcalls, afterAll_append]
    rfl
  have hsame : (afterAll e a (ks ++ [k])).owner = (afterAll e a ks).owner := by
    rw [afterAll_append]
    exact (Call.handover_of_not_handsOver hk).1
  refine ⟨?_, ?_, ?_, haccepted, ?_⟩
  · rw [hcalls, List.append_assoc]
    rfl
  · rw [hsame]
    exact hop
  · rw [hsame]
    exact howner
  · rw [throughout_append, hrest]
    exact ⟨hquiet, hk, trivial⟩

/-- Every other step of a handover lies before the proposal. -/
theorem before (h : Proposed e a ks heir since first j rest) {pre post : List (Call σ)}
    (hks : ks = pre ++ k :: post) (hk : k.HandsOver e (afterAll e a pre)) :
    pre.length < first.length ∨ pre = first ∧ k = j ∧ post = rest := by
  have hsplit := h.calls.symm.trans hks
  rcases List.append_eq_append_iff.mp hsplit with ⟨mid, hpre, hmid⟩ | ⟨mid, hfirst, hmid⟩
  · cases mid with
    | nil =>
      obtain ⟨rfl, rfl⟩ := List.cons.inj hmid
      exact .inr ⟨by simpa using hpre, rfl, rfl⟩
    | cons i mid =>
      obtain ⟨rfl, hrest : rest = mid ++ k :: post⟩ := List.cons.inj hmid
      have hquiet := h.quiet
      rw [hrest, throughout_append] at hquiet
      rw [hpre, afterAll_append] at hk
      exact absurd hk hquiet.2.1
  · cases mid with
    | nil =>
      obtain ⟨rfl, rfl⟩ := List.cons.inj hmid
      exact .inr ⟨by simpa using hfirst.symm, rfl, rfl⟩
    | cons i mid =>
      refine .inl ?_
      rw [hfirst]
      simp

end Proposed

/-- Whoever is pending was proposed in the course of the calls, at the moment that is kept. -/
theorem exists_proposed (nobody : a.pendingOwner = none)
    (pending : (afterAll e a ks).pendingOwner = some heir) :
    ∃ since first j rest, (afterAll e a ks).pendingSince = some since ∧
      Proposed e a ks heir since first j rest := by
  -- The last call decides: it is the proposal itself, or no step of a handover at all.
  induction ks using List.reverseRecOn with
  | nil =>
    have hnone : (afterAll e a []).pendingOwner = none := nobody
    rw [hnone] at pending
    cases pending
  | append_singleton ks k ih =>
    rw [afterAll_append] at pending ⊢
    by_cases hk : k.HandsOver e (afterAll e a ks)
    · obtain ⟨since, hop, howner, hsince⟩ := hk.proposal pending
      have hsame : (afterAll e a (ks ++ [k])).owner = (afterAll e a ks).owner := by
        rw [afterAll_append]
        exact howner
      refine ⟨since, ks, k, [], hsince, rfl, ?_, hsame.symm, hk.2, trivial⟩
      rw [hsame]
      exact hop
    · obtain ⟨-, howner, hsince⟩ := Call.handover_of_not_handsOver hk
      obtain ⟨since, first, j, rest, hlast, hproposed⟩ := ih (howner.symm.trans pending)
      exact ⟨since, first, j, rest ++ [k], hsince.trans hlast, hproposed.snoc hk⟩

/-- Who is neither the owner nor pending has no rights of an owner. -/
theorem dispossessed_of_ne {address : String} (notOwner : ¬ a.IsOwner address)
    (notPending : ¬ a.IsPendingOwner address) : Dispossessed e a address := by
  constructor
  · intro k hsender hmanages
    have hrefused : ¬ k.Accepted e a := by
      intro haccepted
      have heffect := haccepted.effect
      subst hsender
      generalize k.after e a = b at heffect
      generalize k.operation = o at heffect hmanages notOwner notPending
      cases heffect with
      | execute trail messages => exact hmanages
      | canSpend sender now ms => exact hmanages
      | confirmOwner isPending elapsed => exact notPending isPending
      | cancelOwner entitled => exact entitled.elim notOwner notPending
      | addWallet isOwner => exact notOwner isOwner
      | removeWallet isOwner => exact notOwner isOwner
      | addRule isOwner => exact notOwner isOwner
      | removeRule isOwner => exact notOwner isOwner
      | proposeOwner newOwner now isOwner => exact notOwner isOwner
    exact ⟨hrefused, Call.after_of_not_accepted hrefused⟩
  · rintro s ms c r b d rfl haccepted x hx
    obtain ⟨htrail, -⟩ := execute_accepted haccepted
    obtain ⟨hframe, hpasses⟩ := htrail.of_mem hx
    exact hpasses.covered_or_debited notOwner hframe

/-- The owner changes only in a confirmation. In every run from an account with nobody pending,
an accepted confirmation was preceded by an accepted proposal of the heir, by the present owner
and at least the safety delay ago; all other accepted proposals, cancellations and confirmations
lie before that one. Afterwards nobody is pending, and a former owner has no rights left. -/
theorem handover_safe (nobody : a.pendingOwner = none) (ks : List (Call σ)) (k : Call σ) :
    ((k.after e (afterAll e a ks)).owner ≠ (afterAll e a ks).owner →
        ∃ heir now, k.Confirms e (afterAll e a ks) heir now) ∧
      ∀ heir now, k.Confirms e (afterAll e a ks) heir now →
        (∃ since first j rest, Proposed e a ks heir since first j rest ∧
          since + a.updateDelay ≤ now ∧
          ∀ pre i post, ks = pre ++ i :: post → i.HandsOver e (afterAll e a pre) →
            pre.length < first.length ∨ pre = first ∧ i = j ∧ post = rest) ∧
        (k.after e (afterAll e a ks)).owner = heir ∧
        (k.after e (afterAll e a ks)).pendingOwner = none ∧
        (k.after e (afterAll e a ks)).pendingSince = none ∧
        ((afterAll e a ks).owner ≠ heir →
          Dispossessed e (k.after e (afterAll e a ks)) (afterAll e a ks).owner) := by
  have hdelay := (fixed_afterAll e a ks).updateDelay
  refine ⟨Call.exists_confirms, ?_⟩
  intro heir now hconfirms
  obtain ⟨hpending, helapsed, hafter⟩ := hconfirms.effect
  obtain ⟨since, first, j, rest, hsince, hproposed⟩ := exists_proposed nobody hpending
  refine ⟨⟨since, first, j, rest, hproposed, ?_, ?_⟩, ?_⟩
  · rw [confirmableFrom, hsince, hdelay] at helapsed
    exact helapsed
  · intro pre i post hks hi
    exact hproposed.before hks hi
  · rw [hafter]
    refine ⟨rfl, rfl, rfl, fun hne => ?_⟩
    exact dispossessed_of_ne (Ne.symm hne) (by simp [IsPendingOwner])

end

theorem handover_safe_sample :
    (confirmation.after engine (afterAll engine guarded succession)).owner = "heir" ∧
      (∃ since first j rest,
        Proposed engine guarded succession "heir" since first j rest ∧ since + 60 ≤ 160) ∧
      Dispossessed engine (confirmation.after engine (afterAll engine guarded succession))
        "owner" := by
  have howner : (afterAll engine guarded succession).owner = "owner" := by decide +kernel
  have hconfirms : confirmation.Confirms engine (afterAll engine guarded succession) "heir" 160 :=
    ⟨rfl, by decide +kernel⟩
  obtain ⟨-, hsafe⟩ := handover_safe (a := guarded) rfl succession confirmation
  obtain ⟨⟨since, first, j, rest, hproposed, hdelay, -⟩, hheir, -, -, hformer⟩ :=
    hsafe "heir" 160 hconfirms
  rw [howner] at hformer
  exact ⟨hheir, ⟨since, first, j, rest, hproposed, hdelay⟩, hformer (by decide)⟩

end Handover

end AllowanceProxy
