import AllowanceProxy.Proofs.DryRun
import AllowanceProxy.Proofs.Owner
import AllowanceProxy.Proofs.Reachable
import AllowanceProxy.Proofs.Rollover

/-!
Verdicts. Whether a sender could execute messages is answered on every reachable account, but for
two kinds of numbers: those with too many digits to be written, and the moment at which a period
that is over would start anew, if it has no date.
-/
namespace AllowanceProxy

open Asking

namespace Calendar

variable {t : Int} {err : Error}

/-- The moments from the first second of year one to the last second of the year 9999. -/
def Dated (t : Int) : Prop := -62135596800 ≤ t ∧ t < 253402300800

instance (t : Int) : Decidable (Dated t) := inferInstanceAs (Decidable (_ ∧ _))

theorem dated_iff : Dated t ↔ 1 ≤ yearOf (dayOfSecond t) ∧ yearOf (dayOfSecond t) ≤ 9999 := by
  have hfirst : yearStart 1 = 0 := by decide
  have hlast : yearStart 10000 = 3652059 := by decide
  have hday : Dated t ↔ yearStart 1 ≤ dayOfSecond t ∧ dayOfSecond t < yearStart 10000 := by
    rw [hfirst, hlast]
    simp only [Dated, dayOfSecond, secondsPerDay, epochDay]
    omega
  rw [hday]
  have hleast := yearStart_yearOf_le (dayOfSecond t)
  constructor
  · rintro ⟨hfrom, hto⟩
    refine ⟨le_yearOf hfrom, ?_⟩
    by_contra hlate
    have hnext := yearStart_mono (show 10000 ≤ yearOf (dayOfSecond t) by omega)
    omega
  · rintro ⟨hfrom, hto⟩
    have hmost := lt_yearStart_yearOf_add_one (dayOfSecond t)
    have hstart := yearStart_mono hfrom
    have hend := yearStart_mono (show yearOf (dayOfSecond t) + 1 ≤ 10000 by omega)
    omega

theorem dateOfSecond_of_dated (h : Dated t) : dateOfSecond t = .ok (dateOf (dayOfSecond t)) := by
  have hclock : Clock t (dateOf (dayOfSecond t)) (t % 86400) := ⟨fallsOn_iff.mpr rfl, rfl⟩
  obtain ⟨hfirst, hlast⟩ := dated_iff.mp h
  exact dateOfSecond_of_clock hclock hfirst hlast

/-- At any other moment the date fails with something that is no refusal. -/
theorem dateOfSecond_of_not_dated (h : ¬ Dated t) :
    ∃ err, dateOfSecond t = .error err ∧ err.isRefusal = false := by
  have hyear : (dateOf (dayOfSecond t)).year = yearOf (dayOfSecond t) := rfl
  rw [dated_iff] at h
  unfold dateOfSecond
  by_cases hword : t < -timeBound ∨ timeBound ≤ t
  · exact ⟨_, if_pos hword, rfl⟩
  · rw [if_neg hword]
    simp only
    split
    · exact ⟨_, rfl, rfl⟩
    · refine ⟨_, if_pos ?_, rfl⟩
      unfold firstYear lastYear
      omega

end Calendar

open Calendar

namespace Wallet

variable {w : Wallet} {now : Int} {err : Error}

/-- The two faults of the next reset that its wallet is refused for. -/
def ResetRefused (err : Error) : Prop := err = .dayOutOfRange ∨ err = .monthOutOfRange

theorem resetRefused_of_dated (h : Dated now) (failed : w.resetAfter now = .error err) :
    ResetRefused err := by
  have hdate := dateOfSecond_of_dated h
  cases hu : w.unit with
  | days =>
    rw [resetAfter_eq_of_days hu hdate] at failed
    split at failed
    · cases failed
      exact .inl rfl
    · cases failed
  | months =>
    rw [resetAfter_eq_of_months hu hdate] at failed
    split at failed
    · cases failed
      exact .inr rfl
    · cases failed

theorem resetAfter_of_not_dated (h : ¬ Dated now) (w : Wallet) :
    ∃ err, w.resetAfter now = .error err ∧ err.isRefusal = false := by
  obtain ⟨err, hdate, hrefusal⟩ := dateOfSecond_of_not_dated h
  exact ⟨err, by rw [resetAfter, hdate]; rfl, hrefusal⟩

/-- The next reset fails with nothing but its two refusals exactly at the moments with a date. -/
theorem forall_resetRefused_iff (w : Wallet) (now : Int) :
    (∀ err, w.resetAfter now = .error err → ResetRefused err) ↔ Dated now := by
  constructor
  · intro hrefused
    by_contra hundated
    obtain ⟨err, hfailed, hrefusal⟩ := resetAfter_of_not_dated hundated w
    rcases hrefused err hfailed with rfl | rfl
    · cases hrefusal
    · cases hrefusal
  · exact fun hdated err hfailed => resetRefused_of_dated hdated hfailed

end Wallet

variable {σ τ : Type}

/-- Whatever a query and its answer fail with is reported as a refusal. -/
def Chain.Surfaces (chain : Chain σ) : Prop :=
  ∀ contract (q : PriceQuery) s err, (chain.query contract q.wire s).1.bind q.interpret =
    .error err → (q.fault contract err).isRefusal = true

namespace Account

variable {e : Engine σ} {a b : Account} {sender : String} {s : Sending} {m : Message}
  {ms : List Message} {now : Int} {c d : σ} {err : Error}

theorem unreadable_of_coveredByRule [Json.Nesting] (h : a.coveredByRule sender m = .error err) :
    m.Unreadable := by
  obtain ⟨contract, msg, rfl, hsingle⟩ := single?_of_coveredByRule h
  exact .tooDeep (Payload.single?_eq_error_iff.mp hsingle).1

/-- What the messages of a sender make of an account: its debt stays or is paid, and the next reset
of the sender's wallet is not moved back. -/
structure Underway (sender : String) (a b : Account) : Prop where
  spent : SpentBy sender a b
  debt : b.feeDebt = a.feeDebt ∨ b.feeDebt = 0
  reset : ∀ v w, a.wallet? sender = some v → b.wallet? sender = some w → v.nextReset ≤ w.nextReset

namespace Underway

theorem refl (sender : String) (a : Account) : Underway sender a a where
  spent := .refl sender a
  debt := .inl rfl
  reset v w hv hw := by
    obtain rfl := Option.some.inj (hv.symm.trans hw)
    exact Int.le_refl _

/-- Each message takes it one step further. -/
theorem step [Json.Nesting] {x : Account} {r : Response} (h : Underway s.sender a b)
    (sound : b.Sound e.reference) (passes : Passes e s b m c x r d) : Underway s.sender a x where
  spent := h.spent.trans passes.spentBy
  debt := by
    rcases passes.feeDebt with hsame | ⟨hzero, -⟩
    · rw [hsame]
      exact h.debt
    · exact .inr hzero
  reset v w hv hw := by
    rcases passes.standing with ⟨-, hwallets⟩ | ⟨u, u', n, -, hu, hu', hbooks⟩
    · unfold wallet? at hw
      rw [hwallets] at hw
      exact h.reset v w hv hw
    · obtain rfl := Option.some.inj (hw.symm.trans hu')
      have hadmissible := sound.admissible u (List.mem_of_find?_eq_some hu)
      exact Int.le_trans (h.reset v u hv hu) (hbooks.nextReset_le hadmissible.toWellFormed)

/-- A wallet that is due on the way was due at first, and its next reset was the same. -/
theorem due {w : Wallet} (h : Underway sender a b) (found : b.wallet? sender = some w)
    (due : w.nextReset < now) : ∃ v, a.wallet? sender = some v ∧ v.nextReset < now ∧
      v.resetAfter now = w.resetAfter now := by
  cases hv : a.wallet? sender with
  | none =>
    rw [h.spent.wallet?_none hv] at found
    cases found
  | some v =>
    have hle := h.reset v w hv found
    refine ⟨v, rfl, by omega, ?_⟩
    rcases h.spent.wallet?_some hv with hw | ⟨reset, left, hw⟩
    · rw [Option.some.inj (found.symm.trans hw)]
    · rw [Option.some.inj (found.symm.trans hw), Wallet.resetAfter_withStanding]

variable [Json.Nesting]

theorem written {n : Nat} (h : Underway sender a b) (written : Written e b m n)
    (long : ¬ Number.Writable n) : Written e a m n := by
  cases written with
  | debt =>
    rcases h.debt with hsame | hzero
    · rw [hsame]
      exact .debt
    · rw [hzero] at long
      exact absurd (by decide +kernel) long
  | spend movement written =>
    have hconverter : e.converter b = e.converter a := by
      rw [Engine.converter, h.spent.pools]
      rfl
    exact .spend movement (hconverter ▸ written)

end Underway

variable [Json.Nesting]

/-- Why there may be no verdict: the wallet of the sender is due at a moment without a date, or a
number has too many digits. -/
inductive Unjudged (e : Engine σ) (a : Account) (sender : String) (now : Int) (ms : List Message) :
    Error → Prop where
  | undated {w : Wallet} {err : Error} (undated : ¬ Dated now) (notOwner : ¬ a.IsOwner sender)
      (found : a.wallet? sender = some w) (due : w.nextReset < now)
      (failed : w.resetAfter now = .error err) : Unjudged e a sender now ms err
  | unwritable {m : Message} {n : Nat} (mem : m ∈ ms) (written : Written e a m n)
      (long : ¬ Number.Writable n) : Unjudged e a sender now ms (.numeral .unwritable)

/-- A batch of messages that can be read is refused, if it fails at all, but for these reasons. -/
theorem faultsIn_verdict (surfaces : e.chain.Surfaces) (sound : a.Sound e.reference)
    (readable : ∀ m ∈ ms, ¬ m.Unreadable) (s : Sending) :
    FaultsIn (fun err => err.isRefusal = true ∨ Unjudged e a s.sender s.now ms err)
      (executeAll e s ⟨a, .empty⟩ ms) := by
  refine faultsIn_executeAll (R := fun b => b.Sound e.reference ∧ Underway s.sender a b)
    (fun b hb => hb.1) ?_ ?_ ⟨sound, .refl s.sender a⟩
  · rintro b ⟨-, hunderway⟩ m hm
    constructor
    · exact ⟨fun err h => .inl h, fun contract q t err h => .inl (surfaces contract q t err h)⟩
    · rintro err (hread | hcovered)
      · exact absurd (Movement.ofMessage_error_iff.mp ⟨err, hread⟩) (readable m hm)
      · exact absurd (unreadable_of_coveredByRule hcovered) (readable m hm)
    · intro n hn hlong
      exact .inr (.unwritable hm (hunderway.written hn hlong) hlong)
    · intro w err notOwner found due failed
      obtain ⟨v, hv, hdue, hreset⟩ := hunderway.due found due
      rw [hunderway.spent.isOwner_iff] at notOwner
      by_cases hdated : Dated s.now
      · refine .inl ?_
        rcases Wallet.resetRefused_of_dated hdated failed with rfl | rfl
        · rfl
        · rfl
      · exact .inr (.undated hdated notOwner hv hdue (hreset.trans failed))
  · rintro b x m c r d ⟨hsound, hunderway⟩ hpasses
    exact ⟨hpasses.sound hsound, hunderway.step hsound hpasses⟩

theorem verdict_eq (e : Engine σ) (a : Account) (sender : String) (now : Int)
    (ms : List Message) (c : σ) : ((canSpend e a sender now ms).ask c).1 =
      match ((executeAll e ⟨sender, now, true⟩ ⟨a, .empty⟩ ms).ask c).1 with
      | .ok _ => .ok ⟨true, ""⟩
      | .error err => if err.isRefusal then .ok ⟨false, err.message⟩ else .error err := by
  rw [ask_canSpend, run_execute]
  rcases (executeAll e ⟨sender, now, true⟩ ⟨a, .empty⟩ ms).ask c with ⟨err | p, d⟩
  · simp only
    split <;> rfl
  · rfl

/-- The message goes through the limit of a wallet that is due. -/
structure Due (e : Engine σ) (a : Account) (sender : String) (now : Int) (m : Message)
    (w : Wallet) : Prop where
  notOwner : ¬ a.IsOwner sender
  movement : ∃ mv, Movement.ofMessage m = .ok mv ∧ checkPriceable m mv = .ok ()
  uncovered : a.coveredByRule sender m = .ok false
  found : a.wallet? sender = some w
  due : w.nextReset < now
  debtless : a.feeDebt = 0

theorem ask_executeMessage_of_due {w : Wallet} (h : Due e a s.sender s.now m w)
    (valid : w.IsValid e.reference) (failed : w.resetAfter s.now = .error err) (c : σ) :
    (executeMessage e s ⟨a, .empty⟩ m).ask c = (.error err, c) := by
  obtain ⟨mv, hmovement, hpriceable⟩ := h.movement
  obtain ⟨l, hl, -⟩ := valid.limits_eq
  have hvalid : w.checkValid e.reference = .ok () := if_pos valid
  have hidle : repayWith e ⟨a, .empty⟩ mv = pure (⟨a, .empty⟩, []) :=
    repayWith_idle fun howed => howed.2.2 h.debtless
  have hroll : rollOverIfDue w s.now = .error err := by
    simp [rollOverIfDue, Wallet.dueReset, h.due, Wallet.rollOver_eq hl, failed]
  simp only [executeMessage, hmovement, lift_ok_bind, if_neg h.notOwner, executeAsOther,
    h.uncovered, Bool.false_eq_true, ↓reduceIte, hpriceable, executeSpend, h.found, hvalid, hidle,
    pure_bind, debit, hroll]
  rfl

/-- At a moment without a date the first spend of a wallet that is due leaves no verdict. -/
theorem verdict_of_due {w : Wallet} (h : Due e a sender now m w) (valid : w.IsValid e.reference)
    (undated : ¬ Dated now) (ms : List Message) (c : σ) :
    ∃ err, w.resetAfter now = .error err ∧
      ((canSpend e a sender now (m :: ms)).ask c).1 = .error err := by
  obtain ⟨err, hfailed, hrefusal⟩ := Wallet.resetAfter_of_not_dated undated w
  have hmessage := ask_executeMessage_of_due (s := ⟨sender, now, true⟩) h valid hfailed c
  refine ⟨err, hfailed, ?_⟩
  rw [verdict_eq, executeAll, ask_bind, hmessage]
  simp [hrefusal]

theorem verdict_or_unjudged (surfaces : e.chain.Surfaces) (sound : a.Sound e.reference)
    (readable : ∀ m ∈ ms, ¬ m.Unreadable) (sender : String) (now : Int) (c : σ) :
    (∃ v, ((canSpend e a sender now ms).ask c).1 = .ok v) ∨
      ∃ err, ((canSpend e a sender now ms).ask c).1 = .error err ∧
        Unjudged e a sender now ms err := by
  have hfaults := faultsIn_verdict surfaces sound readable ⟨sender, now, true⟩
  rw [verdict_eq]
  rcases hall : (executeAll e ⟨sender, now, true⟩ ⟨a, .empty⟩ ms).ask c with ⟨err | p, d⟩
  · by_cases hrefusal : err.isRefusal = true
    · exact .inl ⟨_, if_pos hrefusal⟩
    · exact .inr ⟨err, if_neg hrefusal, (hfaults c err d hall).resolve_left hrefusal⟩
  · exact .inl ⟨_, rfl⟩

/-- On a reachable account, against a chain whose failures are reported as refusals, messages that
can be read get a verdict at every moment with a date, unless a number has too many digits to be
written. At another moment only a sender whose wallet is due may get none, and gets none for a
first message that goes through the limit. The next reset of a wallet fails with nothing but its
two refusals exactly at the moments with a date. -/
theorem verdict_dated {e₀ : Engine τ} (reachable : Reachable e₀ a) {chain : Chain σ}
    (surfaces : chain.Surfaces) (readable : ∀ m ∈ ms, ¬ m.Unreadable) (sender : String)
    (now : Int) (c : σ) :
    let e : Engine σ := ⟨chain, e₀.reference⟩
    let verdict := ((canSpend e a sender now ms).ask c).1
    ((∃ v, verdict = .ok v) ∨ ∃ err, verdict = .error err ∧ Unjudged e a sender now ms err) ∧
      (∀ m rest w, ms = m :: rest → Due e a sender now m w → ¬ Dated now →
        ∃ err, w.resetAfter now = .error err ∧ verdict = .error err) ∧
      ∀ w : Wallet, (∀ err, w.resetAfter now = .error err → Wallet.ResetRefused err) ↔
        Dated now := by
  intro e verdict
  have hsound : a.Sound e.reference := reachable.sound
  refine ⟨verdict_or_unjudged surfaces hsound readable sender now c, ?_,
    fun w => w.forall_resetRefused_iff now⟩
  rintro m rest w rfl hdue hundated
  have hvalid := hsound.valid w (List.mem_of_find?_eq_some hdue.found)
  exact verdict_of_due hdue hvalid hundated rest c

end Account

theorem Chain.surfaces_silent : Chain.silent.Surfaces := by
  intro contract q s err h
  cases h
  rfl

namespace Sample

open Account

/-- The founded account, with a second wallet whose months are over at 100. -/
def joined : Account := afterAll engine founded [⟨.addWallet "owner" friend, ()⟩]

theorem reachable_joined : Reachable engine joined :=
  reachable_founded.afterAll (by simp [Operation.Admissible, admissible_friend])

theorem readable_send (amount : Nat) : ∀ m ∈ [send amount], ¬ m.Unreadable := by
  intro m hm
  obtain rfl := List.mem_singleton.mp hm
  rintro ⟨⟩

end Sample

namespace Account

open Sample

/-- In the last second of the calendar no month follows, and there is a verdict that says so. A
second later there is none. -/
theorem verdict_dated_ends :
    let verdict (now : Int) := ((canSpend engine joined "friend" now [send 30]).ask ()).1
    Reachable engine joined ∧ Chain.silent.Surfaces ∧
      (∀ m ∈ [send 30], ¬ m.Unreadable) ∧
      verdict 253402300799 = .ok ⟨false, "Failed to advance the reset month"⟩ ∧
      verdict 253402300800 = .error (.yearOutOfRange 10000) ∧
      Unjudged engine joined "friend" 253402300800 [send 30] (.yearOutOfRange 10000) := by
  intro verdict
  have hnone : verdict 253402300800 = .error (.yearOutOfRange 10000) := by decide +kernel
  have hcases := (verdict_dated reachable_joined Chain.surfaces_silent (readable_send 30) "friend"
    253402300800 ()).1
  refine ⟨reachable_joined, Chain.surfaces_silent, readable_send 30, by decide +kernel, hnone, ?_⟩
  rcases hcases with ⟨v, hv⟩ | ⟨err, herr, hunjudged⟩
  · cases hnone.symm.trans hv
  · cases hnone.symm.trans herr
    exact hunjudged

/-- A moment in nanoseconds leaves no verdict. -/
theorem no_verdict_nanoseconds :
    Reachable engine joined ∧ Chain.silent.Surfaces ∧ (∀ m ∈ [send 30], ¬ m.Unreadable) ∧
      ((canSpend engine joined "friend" 1654344001000000000 [send 30]).ask ()).1 =
        .error .yearTooLarge :=
  ⟨reachable_joined, Chain.surfaces_silent, readable_send 30, by decide +kernel⟩

end Account

end AllowanceProxy
