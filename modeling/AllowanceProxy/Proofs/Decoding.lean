import AllowanceProxy.Proofs.Owner

/-!
The two readings of a payload. The rules look at the named message that a contract call holds, the
limit at the token instruction that it is. The second reading is the first one with a condition on
the fields, so that a rule sees the very message that would be priced.
-/
namespace AllowanceProxy

open Number

namespace Instruction

variable {i : Instruction} {fields : Members}

/-- The values that give an amount: whole numbers from zero on, and texts of ASCII digits, which
are some and not more than are read. -/
inductive GivesAmount : Json → Nat → Prop where
  | int (n : Nat) : GivesAmount (.int n) n
  | text {s : String} (nonempty : s ≠ "") (digits : ∀ c ∈ s.toList, c.isDigit)
      (short : s.toList.length ≤ maxDigits) :
      GivesAmount (.str s) (Nat.ofDigitChars 10 s.toList 0)

/-- The fields hold all that the instruction requires, and an amount where there must be one. -/
structure Complete (i : Instruction) (fields : Members) : Prop where
  required : ∀ f ∈ i.requiredFields, ∃ v, Json.lookup? f fields = some v
  amount : "amount" ∈ i.requiredFields →
    ∃ v n, Json.lookup? "amount" fields = some v ∧ GivesAmount v n

theorem isDigits_iff {s : String} : isDigits s = true ↔ s ≠ "" ∧ ∀ c ∈ s.toList, c.isDigit := by
  simp [isDigits]

theorem amount?_eq_some_iff {v : Json} {n : Nat} :
    amount? v = .ok (some n) ↔ GivesAmount v n := by
  constructor
  · intro h
    unfold amount? at h
    split at h
    next z =>
      split at h
      next hz =>
        obtain ⟨m, rfl⟩ := Int.eq_ofNat_of_zero_le hz
        obtain rfl : m = n := by simpa using h
        exact .int m
      next => cases h
    next s =>
      split at h
      next hs =>
        obtain ⟨hnonempty, hdigits⟩ := isDigits_iff.mp hs
        by_cases hlong : maxDigits < s.toList.length
        · simp [readDigits, hlong] at h
        · obtain rfl : Nat.ofDigitChars 10 s.toList 0 = n := by simpa [readDigits, hlong] using h
          exact .text hnonempty hdigits (Nat.not_lt.mp hlong)
      next => cases h
    next => cases h
  · rintro (n | ⟨hnonempty, hdigits, hshort⟩)
    · simp [amount?]
    · simp [amount?, isDigits_iff.mpr ⟨hnonempty, hdigits⟩, readDigits, Nat.not_lt.mpr hshort]

theorem hasRequired_iff :
    i.hasRequired fields = true ↔ ∀ f ∈ i.requiredFields, ∃ v, Json.lookup? f fields = some v := by
  simp [hasRequired, Option.isSome_iff_exists]

/-- The amount of complete fields is the one that their value gives. -/
theorem amountIn?_eq_some_iff {n : Nat} (required : "amount" ∈ i.requiredFields) :
    i.amountIn? fields = .ok (some n) ↔
      ∃ v, Json.lookup? "amount" fields = some v ∧ GivesAmount v n := by
  unfold amountIn?
  cases Json.lookup? "amount" fields with
  | none => simp
  | some v => simp [required, amount?_eq_some_iff]

theorem accepts_eq_true_iff : i.accepts fields = .ok true ↔ i.Complete fields := by
  constructor
  · intro h
    unfold accepts at h
    split at h
    next hrequired =>
      refine ⟨hasRequired_iff.mp hrequired, fun hamount => ?_⟩
      simp only [List.contains_eq_mem, hamount, decide_true, ↓reduceIte] at h
      obtain ⟨read, hread, h⟩ := except_bind_eq_ok.mp h
      cases read with
      | none => cases h
      | some n =>
        obtain ⟨v, hv, hn⟩ := (amountIn?_eq_some_iff hamount).mp hread
        exact ⟨v, n, hv, hn⟩
    next => cases h
  · intro h
    rw [accepts, if_pos (hasRequired_iff.mpr h.required)]
    by_cases hamount : "amount" ∈ i.requiredFields
    · obtain ⟨v, n, hv, hn⟩ := h.amount hamount
      have hread := (amountIn?_eq_some_iff hamount).mpr ⟨v, hv, hn⟩
      simp [hamount, hread, except_ok_bind, except_pure]
    · simp [hamount, except_pure]

end Instruction

section

variable [Json.Nesting]

theorem Payload.named?_eq_some_iff {p : Payload} {name : LooseText} {fields : Members} :
    p.named? = .ok (some (name, fields)) ↔ p.read = .ok (.obj [(name, .obj fields)]) := by
  rw [← Payload.single?_eq_some_iff]
  unfold named?
  constructor
  · intro h
    obtain ⟨single, hsingle, h⟩ := except_bind_eq_ok.mp h
    split at h
    next =>
      obtain ⟨rfl, rfl⟩ : _ ∧ _ := by simpa [except_pure] using h
      exact hsingle
    next => cases h
  · intro h
    rw [h]
    rfl

theorem Instruction.decode?_eq_some_iff {p : Payload} {i : Instruction} {fields : Members} :
    decode? p = .ok (some (i, fields)) ↔
      p.read = .ok (.obj [(.plain i.name, .obj fields)]) ∧ i.Complete fields := by
  rw [← Payload.single?_eq_some_iff, ← accepts_eq_true_iff]
  constructor
  · intro h
    refine ⟨?_, accepts_of_decode? h⟩
    obtain ⟨single, hsingle, h⟩ := except_bind_eq_ok.mp h
    split at h
    next name body =>
      split at h
      next j hj =>
        obtain rfl := name_of_ofName? hj
        obtain ⟨accepted, -, h⟩ := except_bind_eq_ok.mp h
        cases accepted with
        | false => cases h
        | true =>
          cases h
          exact hsingle
      next => cases h
    next => cases h
  · rintro ⟨hsingle, haccepts⟩
    simp [decode?, hsingle, except_ok_bind, ofName?_name, haccepts, except_pure]

/-- A payload that cannot be read as a named message cannot be read as an instruction either. -/
theorem Instruction.decode?_of_named?_error {p : Payload} {err : Error}
    (h : p.named? = .error err) : decode? p = .error err := by
  rcases except_bind_eq_error.mp h with hsingle | ⟨single, -, h⟩
  · exact except_bind_eq_error.mpr (.inl hsingle)
  · split at h <;> cases h

/-- The instruction of a contract call is the one that its payload is decoded to. -/
theorem Movement.decode?_of_ofMessage {contract msg : String} {funds : List Coin} {mv : Movement}
    {i : Instruction} (h : ofMessage (.wasmExecute contract msg funds) = .ok mv)
    (called : mv.instruction = some i) :
    Instruction.decode? (.text msg) = .ok (some (i, mv.fields)) := by
  obtain ⟨decoded, hdecoded, h⟩ := except_bind_eq_ok.mp h
  split at h
  next =>
    obtain rfl := Except.ok.inj h
    cases called
  next j fields =>
    split at h
    all_goals
      obtain ⟨moved, -, h⟩ := except_bind_eq_ok.mp h
      obtain rfl := Except.ok.inj h
      obtain rfl := Option.some.inj called
      exact hdecoded

/-- A call moves the tokens of the contract if its instruction moves the caller's own. -/
theorem Movement.ofMessage_of_decode? {contract msg : String} {funds : List Coin}
    {i : Instruction} {fields : Members} {n : Nat}
    (decoded : Instruction.decode? (.text msg) = .ok (some (i, fields)))
    (amount : i.movesOwnFunds = true → i.amountIn? fields = .ok (some n)) :
    ofMessage (.wasmExecute contract msg funds) =
      .ok ⟨.executeWasm, funds ++ (if i.movesOwnFunds then [⟨contract, n⟩] else []), some i,
        some contract, fields⟩ := by
  rw [ofMessage, decoded, except_ok_bind]
  by_cases hmoves : i.movesOwnFunds = true
  · simp [hmoves, amount hmoves, except_ok_bind, except_pure]
  · simp [hmoves, except_ok_bind, except_pure]

/-- The book judges a named message by its name and its fields. -/
theorem RuleBook.check_of_named? {p : Payload} {name : LooseText} {fields : Members}
    (h : p.named? = .ok (some (name, fields))) (rules : RuleBook) (actor contract : String)
    (own : List Rule) :
    rules.check actor contract p own =
      .ok (match rules.covering? actor contract name fields own with
        | some r => .allowed r name
        | none => .noRule name) := by
  rw [check, h, except_ok_bind]
  cases hrule : rules.covering? actor contract name fields own <;> simp [hrule, except_pure]

/-- A payload is a token instruction exactly if it is a named message under the name of the
instruction whose fields are complete; where it cannot be read as the one, it cannot be read as the
other. So the rules judge a call by the very instruction and fields by which it is priced. -/
theorem decodings_agree (p : Payload) (i : Instruction) (fields : Members) :
    (Instruction.decode? p = .ok (some (i, fields)) ↔
        p.named? = .ok (some (i.name, fields)) ∧ i.Complete fields) ∧
      (∀ err, p.named? = .error err → Instruction.decode? p = .error err) ∧
      ∀ contract msg funds mv,
        Movement.ofMessage (.wasmExecute contract msg funds) = .ok mv → mv.instruction = some i →
        ∀ (rules : RuleBook) actor own, rules.check actor contract (.text msg) own =
          .ok (match rules.covering? actor contract i.name mv.fields own with
            | some r => .allowed r i.name
            | none => .noRule i.name) := by
  refine ⟨?_, fun err h => Instruction.decode?_of_named?_error h, ?_⟩
  · rw [Instruction.decode?_eq_some_iff, Payload.named?_eq_some_iff]
  · intro contract msg funds mv hmv hcalled rules actor own
    have hdecoded := Instruction.decode?_eq_some_iff.mp (Movement.decode?_of_ofMessage hmv hcalled)
    exact RuleBook.check_of_named? (Payload.named?_eq_some_iff.mpr hdecoded.1) rules actor _ own

end

/-- A burn whose amount is a text is read alike by the rules and by the limit. The call of it moves
the tokens, and a book without rules refuses it under its name. -/
theorem decodings_agree_burn :
    Instruction.decode? (.text (Json.burning "70")) =
        .ok (some (.burn, [("amount", .str "70")])) ∧
      (Payload.text (Json.burning "70")).named? = .ok (some ("burn", [("amount", .str "70")])) ∧
      Movement.ofMessage (.wasmExecute "token" (Json.burning "70") []) =
        .ok ⟨.executeWasm, [⟨"token", 70⟩], some .burn, some "token", [("amount", .str "70")]⟩ ∧
      RuleBook.check [] "spender" "token" (.text (Json.burning "70")) [] =
        .ok (.noRule "burn") := by
  have hread : Json.read (Json.burning "70") = _ := Json.read_burning (by simp [Json.Literal])
  have hnamed : (Payload.text (Json.burning "70")).named? =
      .ok (some (Instruction.burn.name, [("amount", .str "70")])) :=
    Payload.named?_eq_some_iff.mpr hread
  have hcomplete : Instruction.burn.Complete [("amount", .str "70")] :=
    Instruction.accepts_eq_true_iff.mp (by decide +kernel)
  obtain ⟨hiff, -, hchecked⟩ :=
    decodings_agree (.text (Json.burning "70")) .burn [("amount", .str "70")]
  have hdecoded := hiff.mpr ⟨hnamed, hcomplete⟩
  have hmoved : Movement.ofMessage (.wasmExecute "token" (Json.burning "70") []) =
      .ok ⟨.executeWasm, [⟨"token", 70⟩], some .burn, some "token", [("amount", .str "70")]⟩ :=
    Movement.ofMessage_of_decode? hdecoded fun _ => by rfl
  exact ⟨hdecoded, hnamed, hmoved, hchecked "token" _ [] _ hmoved rfl [] "spender" []⟩

end AllowanceProxy
