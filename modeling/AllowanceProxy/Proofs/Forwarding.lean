import AllowanceProxy.Proofs.Passage
import Mathlib.Logic.Basic

/-!
Soundness of forwarding. Nothing of a sender who is not the owner passes, unless a rule covers it
or the sender's wallet is debited for every coin that it moves.
-/
namespace AllowanceProxy

open Asking

variable {σ : Type}

namespace Passage

variable [Json.Nesting]

/-- A rule covers the message of a passage; nothing is debited, and the account stays as it is. -/
structure Covered (a : Account) (sender : String) (x : Passage σ) : Prop where
  rule : x.message.Covered a sender
  nothing : x.added.reductions = []
  same : x.after = x.before

/-- The message of a passage moves coins, not all of them zero, and the sender has a valid wallet
with one limit. Once the debt is repaid every coin is priced, and the sum is what the response
tells and what the wallet is debited. -/
structure Debits (e : Engine σ) (s : Sending) (a : Account) (x : Passage σ) (coins : List Coin)
    (w : Wallet) (l : SpendLimit) (prices : List Sourced) : Prop where
  moves : x.message.Moves coins
  nonzero : ∃ coin ∈ coins, coin.amount ≠ 0
  found : a.wallet? s.sender = some w
  flag : w.isDefaultLimit = true
  limits : w.limits = [l]
  denom : l.denom = e.reference
  priced : ∃ mv b r repayments c, Movement.ofMessage x.message = .ok mv ∧ mv.funds = coins ∧
    Account.Repays e x.before mv x.asked b r repayments c ∧
    (e.converter a).Prices coins c prices x.left
  reduction : x.added.reductions = [Sourced.total prices]
  booked : ∃ u v, x.before.wallet? s.sender = some u ∧ x.after.wallet? s.sender = some v ∧
    u.Books s.now (Sourced.total prices) v

def Debited (e : Engine σ) (s : Sending) (a : Account) (x : Passage σ) : Prop :=
  ∃ coins w l prices, x.Debits e s a coins w l prices

theorem Covered.not_debited {e : Engine σ} {s : Sending} {a : Account} {x : Passage σ}
    (h : x.Covered a s.sender) : ¬ x.Debited e s a := by
  rintro ⟨coins, w, l, prices, k⟩
  have hr := h.nothing.symm.trans k.reduction
  cases hr

end Passage

namespace Account

variable {e : Engine σ} {s : Sending} {a b : Account} {m : Message} {ms : List Message} {c d : σ}
  {r : Response} {x : Passage σ}

/-- The rules in force for a sender are not touched by what it spends. -/
theorem SpentBy.covered_iff [Json.Nesting] {sender : String} (h : SpentBy sender a b) :
    m.Covered b sender ↔ m.Covered a sender := by
  unfold Message.Covered
  rw [h.rules, h.ownRules]

/-- A valid wallet in the course of a batch was valid before the batch, with the same flag and
the same denomination. -/
theorem SpentBy.valid_before {reference sender : String} {v : Wallet} (h : SpentBy sender a b)
    (found : b.wallet? sender = some v) (valid : v.IsValid reference) :
    ∃ w l, a.wallet? sender = some w ∧ w.isDefaultLimit = true ∧ w.limits = [l] ∧
      l.denom = reference := by
  cases hw : a.wallet? sender with
  | none =>
    rw [h.wallet?_none hw] at found
    cases found
  | some w =>
    have hvalid : w.IsValid reference := by
      obtain hb | ⟨reset, left, hb⟩ := h.wallet?_some hw
      · rw [hb] at found
        obtain rfl := Option.some.inj found
        exact valid
      · rw [hb] at found
        obtain rfl := Option.some.inj found
        exact (w.isValid_withStanding reset left reference).mp valid
    obtain ⟨l, hl, hd⟩ := hvalid.limits_eq
    exact ⟨w, l, rfl, hvalid.1, hl, hd⟩

theorem SpentBy.converter {sender : String} (h : SpentBy sender a b) :
    e.converter b = e.converter a := by
  unfold Engine.converter
  rw [h.pools]

theorem SpentBy.isOwner_iff {sender y : String} (h : SpentBy sender a b) :
    b.IsOwner y ↔ a.IsOwner y := by
  unfold IsOwner
  rw [h.owner]

/-- What a passage found is what the batch found, as far as it matters to the passage. -/
theorem Passes.covered_or_debited [Json.Nesting] (notOwner : ¬ a.IsOwner s.sender)
    (frame : SpentBy s.sender a x.before)
    (h : Passes e s x.before x.message x.asked x.after x.added x.left) :
    x.Covered a s.sender ∨ x.Debited e s a := by
  generalize hb : x.after = b at h
  generalize hr : x.added = r at h
  generalize hd : x.left = d at h
  cases h with
  | owner isOwner movement repays => exact absurd (frame.isOwner_iff.mp isOwner) notOwner
  | covered notOwner' covered =>
    refine .inl ⟨frame.covered_iff.mp (covered_of_coveredByRule covered), ?_, hb⟩
    rw [hr, Response.reductions_forward, Response.reductions_add_of_ne _ _ (by decide)]
    rfl
  | @spent mv u v b₁ r₁ repayments d₁ d₂ out amount notOwner' movement uncovered priceable found
      valid repays debited numeral =>
    obtain ⟨hmoves, hsome⟩ := Movement.moves_of_priceable movement priceable
    obtain ⟨w, l, hw, hflag, hl, hdenom⟩ := frame.valid_before found valid
    obtain ⟨xs, hprices, hbooks, hout, -⟩ := debit_yields debited
    rw [(repays.spentBy s.sender).converter, frame.converter] at hprices
    rw [hout] at numeral
    refine .inr ⟨mv.funds, w, l, xs, ?_⟩
    constructor
    · exact hmoves
    · exact hsome
    · exact hw
    · exact hflag
    · exact hl
    · exact hdenom
    · rw [hd]
      exact ⟨mv, b₁, r₁, repayments, d₁, movement, rfl, repays, hprices⟩
    · rw [hr]
      exact repays.reductions_spend numeral out _
    · rw [hb]
      exact ⟨u, v, found, repays.wallet?_setWallet found hbooks, hbooks⟩

/-- A batch of a sender who is not the owner is accepted only if every message in it is covered by
a rule and debits nothing, or moves coins that the sender's wallet is debited for. -/
theorem forwarding_sound [Json.Nesting] (notOwner : ¬ a.IsOwner s.sender)
    (accepted : ((execute e a s ms).run c).run = ((.ok r, b), d)) :
    Trail e s a c (passages e s a c ms) b d ∧ (passages e s a c ms).map Passage.message = ms ∧
      r = .join ((passages e s a c ms).map Passage.added) ∧
      ∀ x ∈ passages e s a c ms, Xor (x.Covered a s.sender) (x.Debited e s a) := by
  obtain ⟨htrail, hmessages, hresponse⟩ := execute_accepted accepted
  refine ⟨htrail, hmessages, hresponse, ?_⟩
  intro x hx
  obtain ⟨hframe, hpasses⟩ := htrail.of_mem hx
  rcases hpasses.covered_or_debited notOwner hframe with hcovered | hdebited
  · exact .inl ⟨hcovered, hcovered.not_debited⟩
  · exact .inr ⟨hdebited, fun hcovered => hcovered.not_debited hdebited⟩

/-- A call that a rule covers, and a send that repays the debt and refills the wallet. -/
theorem forwarding_sound_claim_and_send :
    ∃ r b, ((execute Sample.engine Sample.account Sample.late [Sample.claim, Sample.send 30]).run
        ()).run = ((.ok r, b), ()) ∧ r.reductions = [30] ∧
      ∀ x ∈ passages Sample.engine Sample.late Sample.account () [Sample.claim, Sample.send 30],
        Xor (x.Covered Sample.account "spender")
          (x.Debited Sample.engine Sample.late Sample.account) := by
  have hreductions : ((execute Sample.engine Sample.account Sample.late
      [Sample.claim, Sample.send 30]).run ()).run.1.1.toOption.map Response.reductions =
        some [30] := by decide +kernel
  rcases h : ((execute Sample.engine Sample.account Sample.late
    [Sample.claim, Sample.send 30]).run ()).run with ⟨⟨_ | r, b⟩, ⟨⟩⟩
  · rw [h] at hreductions
    cases hreductions
  · rw [h] at hreductions
    obtain ⟨-, -, -, hpassages⟩ := forwarding_sound (by decide) h
    exact ⟨r, b, rfl, Option.some.inj hreductions, hpassages⟩

end Account

end AllowanceProxy
