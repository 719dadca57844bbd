import AllowanceProxy.Proofs.Compact
import AllowanceProxy.Proofs.Decoding

/-!
Calls made from objects. The payload text of such a call is read as the object that it was made
from; so its named message is the single member of the object, and a token instruction in it moves
what its amount says.
-/
namespace AllowanceProxy

open Number

namespace Instruction

variable {i : Instruction} {fields : Members} {n : Nat}

theorem givesAmount_natText (writable : Writable n) : GivesAmount (.str (natText n)) n := by
  have hlist : (natText n).toList = natDigits n := String.toList_ofList
  have hnonempty : natText n ≠ "" := by
    intro hempty
    obtain ⟨c, cs, hcs, -⟩ := exists_natDigits n
    have hnil := congrArg String.toList hempty
    rw [hlist, hcs] at hnil
    cases hnil
  have hdigits : ∀ c ∈ (natText n).toList, c.isDigit := by
    rw [hlist]
    exact fun c hc => isDigit_of_mem_natDigits hc
  have hshort : (natText n).toList.length ≤ maxDigits := by
    rw [hlist]
    exact Nat.not_lt.mp (Json.not_maxDigits_lt writable)
  have hvalue : Nat.ofDigitChars 10 (natText n).toList 0 = n := by
    rw [hlist, ofDigitChars_natDigits]
  have htext := GivesAmount.text hnonempty hdigits hshort
  rwa [hvalue] at htext

/-- The fields give the amount `n`, as a whole number or as the text of one. -/
def Specifies (fields : Members) (n : Nat) : Prop :=
  Json.lookup? "amount" fields = some (.int n) ∨
    Writable n ∧ Json.lookup? "amount" fields = some (.str (natText n))

theorem givesAmount_of_specifies (h : Specifies fields n) :
    ∃ v, Json.lookup? "amount" fields = some v ∧ GivesAmount v n := by
  rcases h with hv | ⟨hwritable, hv⟩
  · exact ⟨_, hv, .int n⟩
  · exact ⟨_, hv, givesAmount_natText hwritable⟩

theorem complete_of_specifies
    (required : ∀ f ∈ i.requiredFields, ∃ v, Json.lookup? f fields = some v)
    (amount : "amount" ∈ i.requiredFields → Specifies fields n) : i.Complete fields where
  required := required
  amount h :=
    have ⟨v, hv, hn⟩ := givesAmount_of_specifies (amount h)
    ⟨v, n, hv, hn⟩

theorem movesOwnFunds_iff :
    i.movesOwnFunds = true ↔ i ∈ [.transfer, .burn, .send, .increaseAllowance] :=
  ⟨mem_of_movesOwnFunds, by cases i <;> simp [movesOwnFunds]⟩

end Instruction

theorem Payload.named?_eq_none [Json.Nesting] {p : Payload} {ms : Members}
    (read : p.read = .ok (.obj ms)) (other : ∀ name fields, ms ≠ [(name, .obj fields)]) :
    p.named? = .ok none := by
  by_cases hsingle : ∃ member, ms = [member]
  · obtain ⟨member, rfl⟩ := hsingle
    rw [named?, single?_eq_some_iff.mpr read, except_ok_bind]
    split
    next name fields hmember =>
      exact absurd (congrArg List.singleton (Option.some.inj hmember)) (other name fields)
    next => rfl
  · have hnone : p.single? = .ok none := by
      unfold single?
      rw [read]
      split
      next member h =>
        exact absurd ⟨member, by simpa using h⟩ hsingle
      next h => cases h
      next => rfl
    rw [named?, hnone]
    rfl

/-- A call that is made from an object is read as a named message exactly if the object is one
member that holds an object, and then under its name and with its fields. Under the name of an
instruction, with the fields that it requires, it moves the attached funds, and behind them the
amount in tokens of the contract if the tokens are the caller's own. Of the object it is only asked
that it can be written and is nested no deeper than what is read, as two hundred levels always
are. -/
theorem payload_round_trip [Json.Nesting] {depth : Nat} {p : Members}
    (shallow : depth ≤ Json.Nesting.depth) (plain : Json.Plain depth (.obj p)) (contract : String)
    (funds : List Coin) :
    ∃ msg, Message.ofPayload contract p funds = .wasmExecute contract msg funds ∧
      (∀ name fields, p = [(name, .obj fields)] →
        (Payload.text msg).named? = .ok (some (name, fields))) ∧
      ((∀ name fields, p ≠ [(name, .obj fields)]) →
        (Payload.text msg).named? = .ok none) ∧
      ∀ (i : Instruction) (fields : Members) (n : Nat), p = [(.plain i.name, .obj fields)] →
        (∀ f ∈ i.requiredFields, ∃ v, Json.lookup? f fields = some v) →
        ("amount" ∈ i.requiredFields → Instruction.Specifies fields n) →
        Movement.ofMessage (.wasmExecute contract msg funds) =
          .ok ⟨.executeWasm, funds ++
            (if i ∈ [.transfer, .burn, .send, .increaseAllowance] then [⟨contract, n⟩] else []),
            some i, some contract, fields⟩ := by
  have hread : (Payload.text (Json.obj p).compact).read = .ok (.obj p) :=
    Json.read_compact (plain.mono shallow)
  refine ⟨_, rfl, ?_, Payload.named?_eq_none hread, ?_⟩
  · rintro name fields rfl
    exact Payload.named?_eq_some_iff.mpr hread
  · rintro i fields n rfl hrequired hamount
    have hdecoded := Instruction.decode?_eq_some_iff.mpr
      ⟨hread, Instruction.complete_of_specifies hrequired hamount⟩
    have hmoved (h : i.movesOwnFunds = true) : i.amountIn? fields = .ok (some n) := by
      have hin : "amount" ∈ i.requiredFields := by simpa using Instruction.amount_required h
      exact (Instruction.amountIn?_eq_some_iff hin).mpr
        (Instruction.givesAmount_of_specifies (hamount hin))
    rw [Movement.ofMessage_of_decode? hdecoded hmoved]
    simp only [Instruction.movesOwnFunds_iff]

namespace Sample

/-- A transfer with a memo that no contract asks for, whose recipient needs escapes of every kind. -/
def memoFields : Members :=
  [("recipient", .str "a\"\\\n\x01é😀"), ("amount", .str "70"),
    ("memo", .arr [.null, .bool true, .int (-12), .obj [("", .arr [])]])]

theorem plain_memo : Json.Plain 5 (.obj [("transfer", .obj memoFields)]) := by
  have hnegative : Json.Plain 2 (.int (-12)) := .int (by decide +kernel)
  have hempty : Json.Plain 1 (.arr []) := .arr (by simp)
  have hobject : Json.Plain 2 (.obj [("", .arr [])]) := .obj (by simp) (by simp) (by simp [hempty])
  have hmemo : Json.Plain 3 (.arr [.null, .bool true, .int (-12), .obj [("", .arr [])]]) :=
    .arr (by simp [Json.Plain.null, Json.Plain.bool, hnegative, hobject])
  have hfields : Json.Plain 4 (.obj memoFields) :=
    .obj (by simp [memoFields]) (by simp [memoFields]) (by simp [memoFields, Json.Plain.str, hmemo])
  exact .obj (by simp) (by simp) (by simp [hfields])

end Sample

/-- The escaped recipient and the amount come back, and the tokens that are moved are told. -/
theorem payload_round_trip_memo :
    5 ≤ Json.Nesting.depth ∧ Json.Plain 5 (.obj [("transfer", .obj Sample.memoFields)]) ∧
      Movement.ofMessage
          (.ofPayload "token" [("transfer", .obj Sample.memoFields)] [⟨"uusd", 3⟩]) =
        .ok ⟨.executeWasm, [⟨"uusd", 3⟩, ⟨"token", 70⟩], some .transfer, some "token",
          Sample.memoFields⟩ := by
  have hshallow : 5 ≤ Json.Nesting.depth := by decide
  obtain ⟨msg, hmsg, -, -, hmoves⟩ :=
    payload_round_trip hshallow Sample.plain_memo "token" [⟨"uusd", 3⟩]
  have hrequired : ∀ f ∈ Instruction.transfer.requiredFields,
      ∃ v, Json.lookup? f Sample.memoFields = some v := by
    simp [Instruction.requiredFields, Sample.memoFields, Json.lookup?]
  have hamount : Instruction.Specifies Sample.memoFields 70 :=
    .inr ⟨by decide +kernel, rfl⟩
  refine ⟨hshallow, Sample.plain_memo, ?_⟩
  rw [hmsg]
  exact hmoves .transfer Sample.memoFields 70 rfl hrequired fun _ => hamount

end AllowanceProxy
