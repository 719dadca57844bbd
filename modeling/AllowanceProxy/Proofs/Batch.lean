import AllowanceProxy.Proofs.Operation
import AllowanceProxy.Proofs.Passage

/-!
Batches one after the other. To execute two lists of messages as one is to execute the second on
the account and the chain that the first one leaves; only what is kept after a fault differs.
-/
namespace AllowanceProxy.Account

open Asking

variable {σ : Type} {e : Engine σ} {s : Sending} {a a₁ b : Account} {ms ns : List Message}
  {c c₁ d : σ} {r r₁ : Response} {err : Error}

section

variable [Json.Nesting]

theorem run_execute_eq_ok : ((execute e a s ms).run c).run = ((.ok r, b), d) ↔
    Yields (executeAll e s ⟨a, .empty⟩ ms) c ⟨b, r⟩ d := by
  rw [run_execute, Yields]
  rcases (executeAll e s ⟨a, .empty⟩ ms).ask c with ⟨_ | ⟨b', r'⟩, d'⟩
  · simp
  · simp [and_comm]

theorem run_execute_eq_error : ((execute e a s ms).run c).run = ((.error err, b), d) ↔
    (executeAll e s ⟨a, .empty⟩ ms).ask c = (.error err, d) ∧ a = b := by
  rw [run_execute]
  rcases (executeAll e s ⟨a, .empty⟩ ms).ask c with ⟨err' | p, d'⟩
  · simp [and_right_comm]
  · simp

theorem exists_accepted (h : ((execute e a s ms).run c).run.1.1.toOption.isSome) :
    ∃ r b d, ((execute e a s ms).run c).run = ((.ok r, b), d) := by
  rcases hrun : ((execute e a s ms).run c).run with ⟨⟨err | r, b⟩, d⟩
  · rw [hrun] at h
    cases h
  · exact ⟨r, b, d, rfl⟩

theorem exists_refused (h : ((execute e a s ms).run c).run.1.1.toOption.isNone) :
    ∃ err d, ((execute e a s ms).run c).run = ((.error err, a), d) := by
  rcases hrun : ((execute e a s ms).run c).run with ⟨⟨err | r, b⟩, d⟩
  · obtain ⟨-, rfl⟩ := run_execute_eq_error.mp hrun
    exact ⟨err, d, rfl⟩
  · rw [hrun] at h
    cases h

theorem executeAll_append (e : Engine σ) (s : Sending) (p : Progress) (ms ns : List Message) :
    executeAll e s p (ms ++ ns) = executeAll e s p ms >>= fun q => executeAll e s q ns := by
  induction ms generalizing p with
  | nil => rw [List.nil_append, executeAll, pure_bind]
  | cons m ms ih => simp only [List.cons_append, executeAll, bind_assoc, ih]

/-- Messages are executed alike behind a response, which stays in front of theirs. -/
theorem executeAll_eq_behind (e : Engine σ) (s : Sending) (p : Progress) (ms : List Message) :
    executeAll e s p ms = Progress.behind p.response <$> executeAll e s ⟨p.account, .empty⟩ ms := by
  rw [← executeAll_behind]
  simp only [Progress.behind, Response.append_empty]

theorem yields_executeAll_append :
    Yields (executeAll e s ⟨a, .empty⟩ (ms ++ ns)) c ⟨b, r⟩ d ↔
      ∃ r₁ a₁ c₁ r₂, Yields (executeAll e s ⟨a, .empty⟩ ms) c ⟨a₁, r₁⟩ c₁ ∧
        Yields (executeAll e s ⟨a₁, .empty⟩ ns) c₁ ⟨b, r₂⟩ d ∧ r₁ ++ r₂ = r := by
  rw [executeAll_append, yields_bind]
  constructor
  · rintro ⟨⟨a₁, r₁⟩, c₁, hfirst, hsecond⟩
    rw [executeAll_eq_behind] at hsecond
    obtain ⟨⟨b', r₂⟩, hrest, hjoin⟩ := yields_map.mp hsecond
    obtain ⟨rfl, hr⟩ := Progress.mk.inj hjoin
    exact ⟨r₁, a₁, c₁, r₂, hfirst, hrest, hr⟩
  · rintro ⟨r₁, a₁, c₁, r₂, hfirst, hsecond, rfl⟩
    refine ⟨⟨a₁, r₁⟩, c₁, hfirst, ?_⟩
    rw [executeAll_eq_behind]
    exact yields_map.mpr ⟨⟨b, r₂⟩, hsecond, rfl⟩

/-- Once a first part is accepted, a fault of the second one is a fault of both. -/
theorem ask_executeAll_append_of_error (hfirst : Yields (executeAll e s ⟨a, .empty⟩ ms) c ⟨a₁, r₁⟩ c₁)
    (hsecond : (executeAll e s ⟨a₁, .empty⟩ ns).ask c₁ = (.error err, d)) :
    (executeAll e s ⟨a, .empty⟩ (ms ++ ns)).ask c = (.error err, d) := by
  have hask : (executeAll e s ⟨a, .empty⟩ ms).ask c = (.ok ⟨a₁, r₁⟩, c₁) := hfirst
  rw [executeAll_append, ask_bind, hask]
  simp only
  rw [executeAll_eq_behind, ask_map, hsecond]
  rfl

/-- A batch of two parts is accepted exactly if the first is, and the second on what the first
leaves. It leaves the same account and the same chain, and its messages and attributes are those
of the two one after another. Otherwise it fails with the fault of the part that fails. -/
theorem execute_append (e : Engine σ) (a : Account) (s : Sending) (ms ns : List Message) (c : σ) :
    (∀ r b d, ((execute e a s (ms ++ ns)).run c).run = ((.ok r, b), d) ↔
      ∃ r₁ a₁ c₁ r₂, ((execute e a s ms).run c).run = ((.ok r₁, a₁), c₁) ∧
        ((execute e a₁ s ns).run c₁).run = ((.ok r₂, b), d) ∧
        r.messages = r₁.messages ++ r₂.messages ∧
        r.attributes = r₁.attributes ++ r₂.attributes) ∧
    (∀ err b d, ((execute e a s ms).run c).run = ((.error err, b), d) →
      ((execute e a s (ms ++ ns)).run c).run = ((.error err, a), d)) ∧
    ∀ r₁ a₁ c₁ err b d, ((execute e a s ms).run c).run = ((.ok r₁, a₁), c₁) →
      ((execute e a₁ s ns).run c₁).run = ((.error err, b), d) →
      ((execute e a s (ms ++ ns)).run c).run = ((.error err, a), d) := by
  have hjoined (r r₁ r₂ : Response) : r₁ ++ r₂ = r ↔
      r.messages = r₁.messages ++ r₂.messages ∧ r.attributes = r₁.attributes ++ r₂.attributes := by
    rw [eq_comm, Response.ext_iff, Response.messages_append, Response.attributes_append]
  refine ⟨?_, ?_, ?_⟩
  · intro r b d
    simp only [run_execute_eq_ok, yields_executeAll_append, hjoined]
  · intro err b d h
    obtain ⟨hfirst, -⟩ := run_execute_eq_error.mp h
    refine run_execute_eq_error.mpr ⟨?_, rfl⟩
    rw [executeAll_append, ask_bind, hfirst]
  · intro r₁ a₁ c₁ err b d h k
    obtain ⟨hsecond, -⟩ := run_execute_eq_error.mp k
    exact run_execute_eq_error.mpr
      ⟨ask_executeAll_append_of_error (run_execute_eq_ok.mp h) hsecond, rfl⟩

end

/-- A send that refills the wallet, and a second one that it has no longer enough for; and a send
that is above the limit from the start. -/
theorem execute_append_sends :
    (∃ r b err, ((execute Sample.engine Sample.account Sample.late
        [Sample.claim, Sample.send 30]).run ()).run = ((.ok r, b), ()) ∧
      ((execute Sample.engine b Sample.late [Sample.send 30]).run ()).run =
        ((.error err, b), ()) ∧
      ((execute Sample.engine Sample.account Sample.late
        ([Sample.claim, Sample.send 30] ++ [Sample.send 30])).run ()).run =
          ((.error err, Sample.account), ())) ∧
    ∃ err, ((execute Sample.engine Sample.account Sample.late [Sample.send 60]).run ()).run =
        ((.error err, Sample.account), ()) ∧
      ((execute Sample.engine Sample.account Sample.late
        ([Sample.send 60] ++ [Sample.claim])).run ()).run =
          ((.error err, Sample.account), ()) := by
  constructor
  · have hfirst : ((execute Sample.engine Sample.account Sample.late
        [Sample.claim, Sample.send 30]).run ()).run.1.1.toOption.isSome := by decide +kernel
    have hsecond : ((execute Sample.engine ((execute Sample.engine Sample.account Sample.late
        [Sample.claim, Sample.send 30]).run ()).run.1.2 Sample.late
          [Sample.send 30]).run ()).run.1.1.toOption.isNone := by decide +kernel
    obtain ⟨r, b, ⟨⟩, h⟩ := exists_accepted hfirst
    rw [h] at hsecond
    obtain ⟨err, ⟨⟩, k⟩ := exists_refused hsecond
    exact ⟨r, b, err, h, k, (execute_append _ _ _ _ _ _).2.2 _ _ _ _ _ _ h k⟩
  · have hnone : ((execute Sample.engine Sample.account Sample.late
        [Sample.send 60]).run ()).run.1.1.toOption.isNone := by decide +kernel
    obtain ⟨err, ⟨⟩, h⟩ := exists_refused hnone
    exact ⟨err, h, (execute_append _ _ _ _ _ _).2.1 _ _ _ h⟩

end AllowanceProxy.Account
