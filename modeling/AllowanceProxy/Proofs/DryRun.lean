import AllowanceProxy.Proofs.Batch
import AllowanceProxy.Proofs.Privilege

/-!
Dry runs. Whether messages are forwarded decides nothing: a dry run asks the chain the same, fails
with the same fault, and otherwise comes to the same account and the same attributes. The verdict
on a batch tells which of these it is.
-/
namespace AllowanceProxy

open Asking Account

variable {σ : Type}

/-- A refusal has a text to tell. -/
theorem Error.message_ne_empty {err : Error} (h : err.isRefusal = true) : err.message ≠ "" := by
  cases err with
  | queryFailed text =>
    change (if text = "" then "Proxy error." else text) ≠ ""
    split
    next => decide
    next htext => exact htext
  | unpriceableKind _ | aboveLimit _ _ | poolNotFound _ _ _ | priceCheckFailed _ _ _
  | debtFirst _ =>
    change _ ++ _ ≠ ""
    simp
  | notOwner | noSuchAuthorization | authorizationExists | spendNotAuthorized | notPendingOwner
  | updateDelayActive | severalLimits | zeroSpend | dayOutOfRange | monthOutOfRange
  | walletExists | walletUnknown | notInitialized => decide
  | _ => cases h

namespace Response

/-- The response with nothing to forward. -/
def silent (r : Response) : Response := ⟨[], r.attributes⟩

theorem carries_silent (sender : String) (now : Int) :
    Carries silent ⟨sender, now, false⟩ ⟨sender, now, true⟩ where
  sender := rfl
  now := rfl
  add _ _ _ := rfl
  addSources _ _ := rfl
  forward _ _ := rfl

end Response

namespace Account

variable {e : Engine σ} {a b : Account} {sender : String} {now : Int} {ms : List Message}
  {c d : σ} {r : Response} {err : Error}

section

variable [Json.Nesting]

/-- A dry run is the run itself, with nothing to forward. -/
theorem run_execute_dry (e : Engine σ) (a : Account) (sender : String) (now : Int)
    (ms : List Message) (c : σ) :
    ((execute e a ⟨sender, now, true⟩ ms).run c).run =
      ((((execute e a ⟨sender, now, false⟩ ms).run c).run.1.1.map Response.silent,
        ((execute e a ⟨sender, now, false⟩ ms).run c).run.1.2),
        ((execute e a ⟨sender, now, false⟩ ms).run c).run.2) := by
  have hdry : executeAll e ⟨sender, now, true⟩ ⟨a, .empty⟩ ms =
      Progress.through Response.silent <$> executeAll e ⟨sender, now, false⟩ ⟨a, .empty⟩ ms :=
    executeAll_through (Response.carries_silent sender now) e ⟨a, .empty⟩ ms
  rw [run_execute, run_execute, hdry, ask_map]
  rcases (executeAll e ⟨sender, now, false⟩ ⟨a, .empty⟩ ms).ask c with ⟨_ | p, d⟩
  · rfl
  · rfl

theorem dry_eq_error : ((execute e a ⟨sender, now, true⟩ ms).run c).run = ((.error err, b), d) ↔
    ((execute e a ⟨sender, now, false⟩ ms).run c).run = ((.error err, b), d) := by
  rw [run_execute_dry]
  rcases ((execute e a ⟨sender, now, false⟩ ms).run c).run with ⟨⟨_ | r, b'⟩, d'⟩
  · simp [Except.map]
  · simp [Except.map]

theorem dry_eq_ok : ((execute e a ⟨sender, now, true⟩ ms).run c).run = ((.ok r, b), d) ↔
    r.messages = [] ∧ ∃ r', ((execute e a ⟨sender, now, false⟩ ms).run c).run = ((.ok r', b), d) ∧
      r.attributes = r'.attributes := by
  rw [run_execute_dry]
  rcases ((execute e a ⟨sender, now, false⟩ ms).run c).run with ⟨⟨_ | r', b'⟩, d'⟩
  · simp [Except.map]
  · have hsilent : r'.silent = r ↔ r.messages = [] ∧ r.attributes = r'.attributes := by
      rw [eq_comm, Response.ext_iff]
      rfl
    simp [Except.map, hsilent, and_assoc, and_comm]

/-- What a verdict tells of the outcome of the execution: that it is accepted, or that it is
refused and why. Any other fault is no matter for a verdict. -/
structure Judges (verdict : Except Error Answer) (outcome : Except Error Response) : Prop where
  can : verdict = .ok (.verdict ⟨true, ""⟩) ↔ ∃ r, outcome = .ok r
  cannot : ∀ reason, verdict = .ok (.verdict ⟨false, reason⟩) ↔
    ∃ err, outcome = .error err ∧ err.isRefusal = true ∧ reason = err.message
  fails : ∀ err, verdict = .error err ↔ outcome = .error err ∧ err.isRefusal = false
  told : verdict ≠ .ok (.verdict ⟨false, ""⟩)

theorem ask_canSpend (e : Engine σ) (a : Account) (sender : String) (now : Int)
    (ms : List Message) (c : σ) : (canSpend e a sender now ms).ask c =
      match ((execute e a ⟨sender, now, true⟩ ms).run c).run with
      | ((.ok _, _), d) => (.ok ⟨true, ""⟩, d)
      | ((.error err, _), d) =>
        if err.isRefusal then (.ok ⟨false, err.message⟩, d) else (.error err, d) := rfl

theorem performed_canSpend_eq (e : Engine σ) (a : Account) (sender : String) (now : Int)
    (ms : List Message) (c : σ) : performed e a (.canSpend sender now ms) c =
      match ((execute e a ⟨sender, now, true⟩ ms).run c).run with
      | ((.ok _, _), d) => ((.ok (.verdict ⟨true, ""⟩), a), d)
      | ((.error err, _), d) =>
        if err.isRefusal then ((.ok (.verdict ⟨false, err.message⟩), a), d)
        else ((.error err, a), d) := by
  have hask : performed e a (.canSpend sender now ms) c =
      ((((canSpend e a sender now ms).ask c).1.map .verdict, a),
        ((canSpend e a sender now ms).ask c).2) := rfl
  rw [hask, ask_canSpend]
  rcases ((execute e a ⟨sender, now, true⟩ ms).run c).run with ⟨⟨err | r, b⟩, d⟩
  · simp only
    split
    · rfl
    · rfl
  · rfl

theorem judges_dry (e : Engine σ) (a : Account) (sender : String) (now : Int)
    (ms : List Message) (c : σ) :
    Judges (performed e a (.canSpend sender now ms) c).1.1
      ((execute e a ⟨sender, now, true⟩ ms).run c).run.1.1 := by
  rw [performed_canSpend_eq]
  rcases ((execute e a ⟨sender, now, true⟩ ms).run c).run with ⟨⟨err | r, b⟩, d⟩
  · by_cases hr : err.isRefusal = true
    · constructor
      · simp [hr]
      · intro reason
        simpa [hr] using eq_comm
      · simp [hr]
      · simpa [hr] using Error.message_ne_empty hr
    · constructor
      · simp [hr]
      · simp [hr]
      · simp [hr]
      · simp [hr]
  · constructor
    · simp
    · simp
    · simp
    · simp

end

theorem Judges.of_map {verdict : Except Error Answer} {outcome : Except Error Response}
    {f : Response → Response} (h : Judges verdict (outcome.map f)) : Judges verdict outcome := by
  cases outcome with
  | error err => exact h
  | ok r =>
    -- That the execution is accepted matters, but not with which response.
    obtain ⟨hcan, hcannot, hfails, htold⟩ := h
    constructor
    · simpa [Except.map] using hcan
    · simpa [Except.map] using hcannot
    · simpa [Except.map] using hfails
    · exact htold

variable [Json.Nesting]

/-- The verdict is on the execution that forwards messages as well. -/
theorem judges_canSpend (e : Engine σ) (a : Account) (s : Sending) (ms : List Message) (c : σ) :
    Judges (performed e a (.canSpend s.sender s.now ms) c).1.1
      ((execute e a s ms).run c).run.1.1 := by
  obtain ⟨sender, now, simulate⟩ := s
  have hdry := judges_dry e a sender now ms c
  cases simulate with
  | true => exact hdry
  | false =>
    rw [run_execute_dry] at hdry
    exact hdry.of_map

/-- The verdict leaves the chain as the dry run does. -/
theorem performed_canSpend_snd (e : Engine σ) (a : Account) (sender : String) (now : Int)
    (ms : List Message) (c : σ) : (performed e a (.canSpend sender now ms) c).2 =
      ((execute e a ⟨sender, now, true⟩ ms).run c).run.2 := by
  rw [performed_canSpend_eq]
  rcases ((execute e a ⟨sender, now, true⟩ ms).run c).run with ⟨⟨err | r, b⟩, d⟩
  · simp only
    split
    · rfl
    · rfl
  · rfl

end Account

/-- A dry run and the run itself fail with the same fault, or both succeed, with the same account
and the same attributes, the dry run with nothing to forward; and they ask the chain the same. The
verdict is that the batch can be executed exactly if its execution succeeds, that it cannot, with
the text of the refusal, exactly if it is refused, and otherwise it fails with the same fault. It
never refuses without a text, and leaves the account as it is. -/
theorem dry_run_agrees [Json.Nesting] (e : Engine σ) (a : Account) (sender : String) (now : Int)
    (ms : List Message) (c : σ) :
    (∀ err b d, ((execute e a ⟨sender, now, true⟩ ms).run c).run = ((.error err, b), d) ↔
      ((execute e a ⟨sender, now, false⟩ ms).run c).run = ((.error err, b), d)) ∧
    (∀ r b d, ((execute e a ⟨sender, now, true⟩ ms).run c).run = ((.ok r, b), d) ↔
      r.messages = [] ∧ ∃ r', ((execute e a ⟨sender, now, false⟩ ms).run c).run =
        ((.ok r', b), d) ∧ r.attributes = r'.attributes) ∧
    (Call.mk (.execute ⟨sender, now, true⟩ ms) c).queries e a =
      (Call.mk (.execute ⟨sender, now, false⟩ ms) c).queries e a ∧
    (Call.mk (.canSpend sender now ms) c).queries e a =
      (Call.mk (.execute ⟨sender, now, false⟩ ms) c).queries e a ∧
    (∀ simulate, Judges (performed e a (.canSpend sender now ms) c).1.1
      ((execute e a ⟨sender, now, simulate⟩ ms).run c).run.1.1) ∧
    (performed e a (.canSpend sender now ms) c).1.2 = a := by
  have hqueries : (Call.mk (.execute ⟨sender, now, true⟩ ms) c).queries e a =
      (Call.mk (.execute ⟨sender, now, false⟩ ms) c).queries e a := by
    unfold Call.queries
    rw [performed_execute, performed_execute, run_execute_dry]
  refine ⟨fun _ _ _ => dry_eq_error, fun _ _ _ => dry_eq_ok, hqueries, ?_, ?_, rfl⟩
  · rw [← hqueries]
    unfold Call.queries
    rw [performed_execute, performed_canSpend_snd]
  · intro simulate
    exact judges_canSpend e a ⟨sender, now, simulate⟩ ms c

/-- One refusal, told as such, and one batch that passes. -/
example :
    ((canSpend Sample.engine Sample.account "spender" 200 [Sample.send 60]).ask ()).1.toOption =
        some ⟨false, "You cannot spend more than your available spend limit. " ++
          "Trying to spend 60 uusd"⟩ ∧
      ((canSpend Sample.engine Sample.account "spender" 200 [Sample.send 30]).ask ()).1.toOption =
        some ⟨true, ""⟩ := by
  decide +kernel

end AllowanceProxy
