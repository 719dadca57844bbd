import AllowanceProxy.Proofs.Batch
import AllowanceProxy.Proofs.Privilege
import AllowanceProxy.Proofs.Reading

/-!
The owner's batches. Without a debt the owner passes with every message that can be read: nothing
is asked, the account stays as it is, and the whole list is forwarded. What cannot be read is a
payload that is nested too deep, or one with the amount of a token instruction in more digits than
are read.
-/
namespace AllowanceProxy

open Asking Account

variable {σ : Type}

namespace Instruction

variable {i : Instruction} {fields : Members}

/-- The fields are complete, and they give an amount in more digits than are read. -/
structure Overlong (i : Instruction) (fields : Members) : Prop where
  complete : i.hasRequired fields = true
  required : "amount" ∈ i.requiredFields
  amount : ∃ digits, Json.lookup? "amount" fields = some (.str (.plain digits)) ∧
    isDigits digits = true ∧ Number.maxDigits < digits.toList.length

theorem ofName?_name (i : Instruction) : ofName? i.name = some i := by
  cases i <;> decide

theorem name_of_ofName? {name : String} (h : ofName? name = some i) : i.name = name := by
  simpa using List.find?_some h

/-- A text of too many digits is the one value that an amount is not read from. -/
theorem amount?_error_iff {v : Json} : (∃ err, amount? v = .error err) ↔
    ∃ digits, v = .str (.plain digits) ∧ isDigits digits = true ∧
      Number.maxDigits < digits.toList.length := by
  unfold amount?
  split
  next n => simp
  next digits =>
    by_cases hlong : Number.maxDigits < digits.toList.length
    · by_cases hdigits : isDigits digits = true <;> simp [hdigits, Number.readDigits, hlong]
    · by_cases hdigits : isDigits digits = true <;> simp [hdigits, Number.readDigits, hlong]
  next hint htext => simp_all

theorem amountIn?_error_iff : (∃ err, i.amountIn? fields = .error err) ↔
    "amount" ∈ i.requiredFields ∧ ∃ digits,
      Json.lookup? "amount" fields = some (.str (.plain digits)) ∧ isDigits digits = true ∧
        Number.maxDigits < digits.toList.length := by
  unfold amountIn?
  cases hamount : Json.lookup? "amount" fields with
  | none => simp
  | some v =>
    by_cases hrequired : "amount" ∈ i.requiredFields
    · simp [hrequired, amount?_error_iff]
    · simp [hrequired]

theorem accepts_error_iff : (∃ err, i.accepts fields = .error err) ↔ i.Overlong fields := by
  unfold accepts
  constructor
  · rintro ⟨err, h⟩
    split at h
    next hcomplete =>
      split at h
      · rcases except_bind_eq_error.mp h with h | ⟨n, -, h⟩
        · obtain ⟨hrequired, hamount⟩ := amountIn?_error_iff.mp ⟨err, h⟩
          exact ⟨hcomplete, hrequired, hamount⟩
        · cases h
      · cases h
    · cases h
  · rintro ⟨hcomplete, hrequired, hamount⟩
    obtain ⟨err, herr⟩ := amountIn?_error_iff.mpr ⟨hrequired, hamount⟩
    refine ⟨err, ?_⟩
    simp only [hcomplete, List.contains_eq_mem, hrequired, decide_true, ↓reduceIte]
    exact except_bind_eq_error.mpr (.inl herr)

end Instruction

section

variable [Json.Nesting]

/-- The payload of a contract call is nested too deep, or it is a token instruction that gives an
amount in more digits than are read. -/
inductive Message.Unreadable : Message → Prop where
  | tooDeep {contract msg : String} {funds : List Coin} (deep : Json.read msg = .error .tooDeep) :
      Unreadable (.wasmExecute contract msg funds)
  | overlong {contract msg : String} {funds : List Coin} {i : Instruction} {fields : Members}
      (read : Json.read msg = .ok (.obj [(i.name, .obj fields)])) (overlong : i.Overlong fields) :
      Unreadable (.wasmExecute contract msg funds)

theorem Payload.single?_eq_error_iff {p : Payload} {err : Error} :
    p.single? = .error err ↔ p.read = .error .tooDeep ∧ err = .tooDeep := by
  unfold single?
  split
  next member hread => simp [hread]
  next hread => simp [hread, eq_comm]
  next hsingle hdeep => exact ⟨nofun, fun h => (hdeep h.1).elim⟩

theorem Payload.single?_eq_some_iff {p : Payload} {member : LooseText × Json} :
    p.single? = .ok (some member) ↔ p.read = .ok (.obj [member]) := by
  unfold single?
  split
  next found hread => simp [hread]
  next hread => simp [hread]
  next hsingle hdeep => exact ⟨nofun, fun h => (hsingle _ h).elim⟩

theorem Movement.ofMessage_error_iff {m : Message} :
    (∃ err, ofMessage m = .error err) ↔ m.Unreadable := by
  constructor
  · rintro ⟨err, h⟩
    cases m with
    | bankSend address coins => cases h
    | bankBurn coins => cases h
    | chainOperation kind payload => cases h
    | wasmExecute contract msg funds =>
      rcases except_bind_eq_error.mp h with h | ⟨decoded, hd, h⟩
      · rcases except_bind_eq_error.mp h with h | ⟨single, hsingle, h⟩
        · exact .tooDeep (Payload.single?_eq_error_iff.mp h).1
        · split at h
          next name fields =>
            split at h
            next i hi =>
              obtain rfl := Instruction.name_of_ofName? hi
              rcases except_bind_eq_error.mp h with h | ⟨accepted, -, h⟩
              · exact .overlong (Payload.single?_eq_some_iff.mp hsingle)
                  (Instruction.accepts_error_iff.mp ⟨err, h⟩)
              · split at h <;> cases h
            · cases h
          · cases h
      · split at h
        · cases h
        next i fields =>
          -- An amount that was accepted is read a second time.
          split at h
          next hmoves =>
            obtain ⟨v, n, -, -, hread⟩ := Instruction.amountIn?_of_accepts hmoves
              (Instruction.accepts_of_decode? hd)
            rw [hread] at h
            cases h
          · cases h
  · rintro (⟨hdeep⟩ | ⟨hread, hoverlong⟩)
    · exact ⟨.tooDeep, except_bind_eq_error.mpr <| .inl <| except_bind_eq_error.mpr <| .inl <|
        Payload.single?_eq_error_iff.mpr ⟨hdeep, rfl⟩⟩
    · obtain ⟨err, herr⟩ := Instruction.accepts_error_iff.mpr hoverlong
      refine ⟨err, except_bind_eq_error.mpr <| .inl <| except_bind_eq_error.mpr <| .inr
        ⟨_, Payload.single?_eq_some_iff.mpr hread, ?_⟩⟩
      simp only [Instruction.ofName?_name]
      exact except_bind_eq_error.mpr (.inl herr)

instance (m : Message) : Decidable m.Unreadable :=
  decidable_of_iff ((Movement.ofMessage m).toOption.isNone = true) <| by
    rw [← Movement.ofMessage_error_iff]
    cases Movement.ofMessage m <;> simp [Except.toOption]

/-- A burn of too many digits cannot be read, whatever they are. -/
theorem Message.unreadable_burning_iff {contract amount : String} {funds : List Coin}
    (digits : Instruction.isDigits amount = true) :
    (wasmExecute contract (Json.burning amount) funds).Unreadable ↔
      Number.maxDigits < amount.toList.length := by
  have hdigits : ∀ c ∈ amount.toList, Json.Literal c := by
    simp only [Instruction.isDigits, Bool.and_eq_true, List.all_eq_true] at digits
    exact fun c hc => Json.literal_of_isDigit (digits.2 c hc)
  have hread := Json.read_burning hdigits
  constructor
  · rintro (⟨hdeep⟩ | ⟨hread', hoverlong⟩)
    · rw [hread] at hdeep
      cases hdeep
    · simp only [hread, Except.ok.injEq, Json.obj.injEq, List.cons.injEq, Prod.mk.injEq,
        and_true] at hread'
      obtain ⟨-, rfl⟩ := hread'
      obtain ⟨text, hamount, -, hlong⟩ := hoverlong.amount
      obtain rfl : amount = text := by simpa [Json.lookup?] using hamount
      exact hlong
  · intro hlong
    exact .overlong (i := .burn) hread ⟨rfl, by decide, amount, rfl, digits, hlong⟩

theorem Movement.exists_ofMessage {m : Message} (readable : ¬ m.Unreadable) :
    ∃ mv, ofMessage m = .ok mv := by
  cases h : ofMessage m with
  | error err => exact absurd (ofMessage_error_iff.mp ⟨err, h⟩) readable
  | ok mv => exact ⟨mv, rfl⟩

end

theorem Sending.forwarded_cons (s : Sending) (m : Message) (ms : List Message) :
    s.forwarded (m :: ms) = s.forwarded [m] ++ s.forwarded ms := by
  cases h : s.simulate <;> simp [forwarded, h]

/-- What the owner's messages add to the response. -/
def Response.ofOwner (s : Sending) (ms : List Message) : Response :=
  ⟨s.forwarded ms, List.replicate ms.length ("action", "execute_execute")⟩

theorem Response.ofOwner_nil (s : Sending) : ofOwner s [] = .empty := by
  cases h : s.simulate <;> simp [ofOwner, Sending.forwarded, h, empty]

theorem Response.ofOwner_cons (s : Sending) (m : Message) (ms : List Message) :
    ofOwner s (m :: ms) = ofOwner s [m] ++ ofOwner s ms := by
  ext1
  · exact s.forwarded_cons m ms
  · rfl

namespace Account

variable {e : Engine σ} {s : Sending} {a : Account} {r : Response} {m : Message}
  {ms : List Message}

variable [Json.Nesting]

theorem executeMessage_of_owner (isOwner : a.IsOwner s.sender) (clear : a.feeDebt = 0)
    (readable : ¬ m.Unreadable) :
    executeMessage e s ⟨a, r⟩ m = pure ⟨a, r ++ .ofOwner s [m]⟩ := by
  obtain ⟨mv, hmv⟩ := Movement.exists_ofMessage readable
  have hidle : ¬ (mv.kind = .bankSend ∧ mv.funds ≠ [] ∧ a.feeDebt ≠ 0) :=
    fun howing => howing.2.2 clear
  rw [executeMessage, hmv, lift_ok_bind, if_pos isOwner, executeAsOwner, repayWith_idle hidle]
  rfl

/-- Messages that can be read all pass, and nothing but the response changes. -/
theorem executeAll_of_owner (isOwner : a.IsOwner s.sender) (clear : a.feeDebt = 0)
    (readable : ∀ m ∈ ms, ¬ m.Unreadable) :
    executeAll e s ⟨a, r⟩ ms = pure ⟨a, r ++ .ofOwner s ms⟩ := by
  induction ms generalizing r with
  | nil => rw [executeAll, Response.ofOwner_nil, Response.append_empty]
  | cons m ms ih =>
    obtain ⟨hm, hms⟩ := List.forall_mem_cons.mp readable
    rw [executeAll, executeMessage_of_owner isOwner clear hm, pure_bind, ih hms,
      Response.append_assoc, ← Response.ofOwner_cons]

/-- The first message that cannot be read is a fault. -/
theorem executeAll_of_unreadable (isOwner : a.IsOwner s.sender) (clear : a.feeDebt = 0)
    (unreadable : ∃ m ∈ ms, m.Unreadable) : ∃ err, executeAll e s ⟨a, r⟩ ms = throw err := by
  induction ms generalizing r with
  | nil => simp at unreadable
  | cons m ms ih =>
    by_cases hm : m.Unreadable
    · obtain ⟨err, herr⟩ := Movement.ofMessage_error_iff.mpr hm
      refine ⟨err, ?_⟩
      rw [executeAll, executeMessage, herr]
      rfl
    · obtain ⟨n, hn, hunreadable⟩ := unreadable
      have hrest : ∃ n ∈ ms, n.Unreadable := by
        rcases List.mem_cons.mp hn with rfl | hn
        · exact absurd hunreadable hm
        · exact ⟨n, hn, hunreadable⟩
      rw [executeAll, executeMessage_of_owner isOwner clear hm, pure_bind]
      exact ih hrest

theorem run_execute_of_unreadable (e : Engine σ) (isOwner : a.IsOwner s.sender)
    (clear : a.feeDebt = 0) (unreadable : ∃ m ∈ ms, m.Unreadable) (c : σ) :
    ∃ err, ((execute e a s ms).run c).run = ((.error err, a), c) := by
  obtain ⟨err, herr⟩ := executeAll_of_unreadable (e := e) (r := .empty) isOwner clear unreadable
  refine ⟨err, run_execute_eq_error.mpr ⟨?_, rfl⟩⟩
  rw [herr, ask_throw]

theorem still_executeAll_of_owner (isOwner : a.IsOwner s.sender) (clear : a.feeDebt = 0) :
    Still (executeAll e s ⟨a, r⟩ ms) := by
  by_cases hreadable : ∀ m ∈ ms, ¬ m.Unreadable
  · rw [executeAll_of_owner isOwner clear hreadable]
    exact still_pure _
  · have hunreadable : ∃ m ∈ ms, m.Unreadable := by simpa using hreadable
    obtain ⟨err, herr⟩ := executeAll_of_unreadable (e := e) (r := r) isOwner clear hunreadable
    rw [herr]
    exact still_throw err

/-- A batch that asks nothing while it is executed is no query of its call. -/
theorem queries_of_still (c : σ) (h : Still (executeAll e.noting s ⟨a, .empty⟩ ms)) :
    (Call.mk (.execute s ms) c).queries e a = [] := by
  have hlog := h (c, [])
  unfold Call.queries
  rw [performed_execute, run_execute]
  rcases hall : (executeAll e.noting s ⟨a, .empty⟩ ms).ask (c, []) with ⟨_ | p, d⟩
  all_goals
    rw [hall] at hlog
    exact congrArg Prod.snd hlog

/-- While no debt is owed, the owner's batch passes if each of its messages can be read, and is
forwarded as it is; otherwise it is refused. Either way nothing is asked, and the account and the
chain stay as they are. -/
theorem owner_passes (e : Engine σ) {a : Account} {s : Sending} (isOwner : a.IsOwner s.sender)
    (clear : a.feeDebt = 0) (ms : List Message) (c : σ) :
    ((∀ m ∈ ms, ¬ m.Unreadable) → ((execute e a s ms).run c).run =
        ((.ok ⟨s.forwarded ms, List.replicate ms.length ("action", "execute_execute")⟩, a), c)) ∧
      ((∃ m ∈ ms, m.Unreadable) →
        ∃ err, ((execute e a s ms).run c).run = ((.error err, a), c)) ∧
      (Call.mk (.execute s ms) c).queries e a = [] := by
  refine ⟨fun hreadable => ?_, fun hunreadable => ?_, ?_⟩
  · refine run_execute_eq_ok.mpr ?_
    rw [executeAll_of_owner isOwner clear hreadable]
    exact yields_pure.mpr ⟨rfl, rfl⟩
  · exact run_execute_of_unreadable e isOwner clear hunreadable c
  · exact queries_of_still c (still_executeAll_of_owner isOwner clear)

end Account

namespace Sample

/-- The account once its debt is paid. -/
def cleared : Account := { account with feeDebt := 0 }

def owner : Sending := ⟨"owner", 200, false⟩

/-- What only the owner may send, among it a call that no contract understands. -/
def anything : List Message :=
  [.wasmExecute "farm" "\x7b no message" [⟨"uusd", 0⟩], .chainOperation "stake" [],
    .bankSend "shop" [], send 1000]

/-- A burn of an amount in so many digits. -/
def burn (digits : Nat) : Message :=
  .wasmExecute "token" (Json.burning (String.ofList (List.replicate digits '1'))) []

variable [Json.Nesting]

theorem unreadable_burn_iff {digits : Nat} (positive : 0 < digits) :
    (burn digits).Unreadable ↔ Number.maxDigits < digits := by
  have hdigits : Instruction.isDigits (String.ofList (List.replicate digits '1')) = true := by
    have hone : (List.replicate digits '1').all Char.isDigit = true := by
      simp [List.all_replicate]
    have hsome : String.ofList (List.replicate digits '1') ≠ "" := by
      intro hempty
      have hnil := congrArg String.toList hempty
      simp at hnil
      omega
    simp [Instruction.isDigits, hone, hsome]
  rw [burn, Message.unreadable_burning_iff hdigits, String.toList_ofList, List.length_replicate]

end Sample

namespace Account

/-- The owner sends what it likes, and more than the limit of any wallet. -/
theorem owner_passes_anything :
    ((execute Sample.engine Sample.cleared Sample.owner Sample.anything).run ()).run =
        ((.ok ⟨Sample.anything, List.replicate 4 ("action", "execute_execute")⟩,
          Sample.cleared), ()) ∧
      (Call.mk (.execute Sample.owner Sample.anything) ()).queries Sample.engine
        Sample.cleared = [] := by
  have hreadable : ∀ m ∈ Sample.anything, ¬ m.Unreadable := by decide +kernel
  obtain ⟨hpasses, -, hqueries⟩ := owner_passes Sample.engine (s := Sample.owner)
    (a := Sample.cleared) rfl rfl Sample.anything ()
  exact ⟨hpasses hreadable, hqueries⟩

/-- One digit more than is read, and the owner is refused. -/
theorem owner_refused_long_burn :
    ∃ err, ((execute Sample.engine Sample.cleared Sample.owner [Sample.burn 4301]).run ()).run =
      ((.error err, Sample.cleared), ()) := by
  have hlong : (Sample.burn 4301).Unreadable :=
    (Sample.unreadable_burn_iff (by decide)).mpr (by decide)
  have hunreadable : ∃ m ∈ [Sample.burn 4301], m.Unreadable :=
    ⟨_, List.mem_singleton_self _, hlong⟩
  exact run_execute_of_unreadable Sample.engine (a := Sample.cleared) (s := Sample.owner) rfl rfl
    hunreadable ()

end Account

end AllowanceProxy
