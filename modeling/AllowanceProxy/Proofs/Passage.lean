import AllowanceProxy.Proofs.Message

/-!
An accepted batch as a list of passages: which message passed, what it found and what it left, and
what it added to the response. Each message passes from where the one before it left.
-/
namespace AllowanceProxy

open Asking

variable {σ : Type}

namespace Number

theorem readDigits_of_numeralOf {n : Nat} {s : String} (h : Error.numeralOf n = .ok s) :
    readDigits s = .ok n := by
  unfold Error.numeralOf numeral at h
  by_cases hw : Writable n
  · simp only [hw, ↓reduceIte, Except.ok.injEq] at h
    subst h
    have hlen := (natDigits_length_le_iff n (k := maxDigits) (by decide)).mpr hw
    simp [readDigits, intText, intDigits, Nat.not_lt.mpr hlen, ofDigitChars_natDigits]
  · simp [hw] at h

end Number

namespace Response

def reductionKey : String := "spend_limit_reduction"

/-- The amount that an attribute tells to be debited. -/
def reduction? (x : Attribute) : Option Nat :=
  if x.1 = reductionKey then (Number.readDigits x.2).toOption else none

/-- The amounts debited, as the response tells them. -/
def reductions (r : Response) : List Nat := r.attributes.filterMap reduction?

variable (r r' : Response)

@[simp] theorem reductions_append : (r ++ r').reductions = r.reductions ++ r'.reductions :=
  List.filterMap_append

@[simp] theorem reductions_empty : Response.empty.reductions = [] := rfl

@[simp] theorem reductions_forward (ms : List Message) :
    (r.forward ms).reductions = r.reductions := rfl

theorem reductions_add_of_ne {key : String} (value : String) (h : key ≠ reductionKey) :
    (r.add key value).reductions = r.reductions := by
  simp [reductions, add, reduction?, h]

theorem reductions_add_of_numeral {n : Nat} {value : String}
    (h : Error.numeralOf n = .ok value) :
    (r.add "spend_limit_reduction" value).reductions = r.reductions ++ [n] := by
  simp [reductions, add, reduction?, reductionKey, Number.readDigits_of_numeralOf h,
    Except.toOption]

theorem toAttribute_ne_reductionKey (x : Source) : x.toAttribute.1 ≠ reductionKey := by
  unfold Source.toAttribute reductionKey
  intro h
  have hfirst := congrArg (fun key : String => key.toList.head?) h
  simp at hfirst

/-- Responses one behind the other. -/
def join (rs : List Response) : Response := rs.foldr (· ++ ·) .empty

@[simp] theorem join_nil : join [] = .empty := rfl

@[simp] theorem join_cons (rs : List Response) : join (r :: rs) = r ++ join rs := rfl

theorem reductions_join (rs : List Response) : (join rs).reductions = rs.flatMap reductions := by
  induction rs with
  | nil => rfl
  | cons r rs ih => rw [join_cons, reductions_append, ih, List.flatMap_cons]

@[simp] theorem reductions_addSources (x : Sourced) :
    (r.addSources x).reductions = r.reductions := by
  have hnone : x.attributes.filterMap reduction? = [] := by
    simp [Sourced.attributes, reduction?, toAttribute_ne_reductionKey]
  simp [reductions, addSources, hnone]

end Response

/-- A message that passed: the account and the chain before it and after it, and what it added
to the response. -/
structure Passage (σ : Type) where
  message : Message
  before : Account
  asked : σ
  after : Account
  left : σ
  added : Response

namespace Account

variable {e : Engine σ} {s : Sending} {a b : Account} {m : Message} {ms : List Message}
  {mv : Movement} {c d : σ} {r : Response} {repayments : List Message}

theorem Repays.reductions (h : Repays e a mv c b r repayments d) : r.reductions = [] := by
  cases h with
  | nothing idle => rfl
  | debt kind funds owed convertible price =>
    rw [Response.reductions_addSources, Response.reductions_add_of_ne _ _ (by decide)]
    rfl

/-- The response to a spend tells the one amount that is debited. -/
theorem Repays.reductions_spend {n : Nat} {amount : String} (h : Repays e a mv c b r repayments d)
    (numeral : Error.numeralOf n = .ok amount) (out : Sourced) (ms : List Message) :
    ((((r.add "action" "execute_spend_limit").add "spend_limit_reduction" amount).addSources
      out).forward ms).reductions = [n] := by
  rw [Response.reductions_forward, Response.reductions_addSources,
    Response.reductions_add_of_numeral _ numeral, Response.reductions_add_of_ne _ _ (by decide),
    h.reductions, List.nil_append]

theorem Repays.eq_setDebt (h : Repays e a mv c b r repayments d) :
    ∃ n, b = { a with feeDebt := n } := by
  cases h with
  | nothing idle => exact ⟨a.feeDebt, rfl⟩
  | debt kind funds owed convertible price => exact ⟨0, rfl⟩

theorem Repays.spentBy (h : Repays e a mv c b r repayments d) (sender : String) :
    SpentBy sender a b := by
  obtain ⟨n, rfl⟩ := h.eq_setDebt
  exact .debt n

/-- The debited wallet is the wallet of the sender afterwards. -/
theorem Repays.wallet?_setWallet {sender : String} {now : Int} {n : Nat} {w v : Wallet}
    (h : Repays e a mv c b r repayments d) (found : a.wallet? sender = some w)
    (books : w.Books now n v) : (b.setWallet v).wallet? sender = some v := by
  have haddress : v.address = sender := by
    have hw := address_of_wallet? found
    cases books with
    | within limits early fits => exact hw
    | anew limits late next fits => exact hw
  obtain ⟨m, rfl⟩ := h.eq_setDebt
  exact wallet?_setWallet_self (a := { a with feeDebt := m }) haddress found

variable [Json.Nesting]

theorem Passes.spentBy (h : Passes e s a m c b r d) : SpentBy s.sender a b := by
  cases h with
  | owner isOwner movement repays =>
    obtain ⟨n, rfl⟩ := repays.eq_setDebt
    exact .debt n
  | covered notOwner covered => exact .refl s.sender a
  | spent notOwner movement uncovered priceable found valid repays debited numeral =>
    obtain ⟨n, rfl⟩ := repays.eq_setDebt
    obtain ⟨xs, -, hbooks, -⟩ := debit_yields debited
    cases hbooks with
    | within limits early fits => exact .wallet n found _ _
    | anew limits late next fits => exact .wallet n found _ _

/-- A message debits nothing and leaves all wallets alone, or it debits the sender's wallet what
the response tells. -/
theorem Passes.standing (h : Passes e s a m c b r d) :
    r.reductions = [] ∧ b.wallets = a.wallets ∨
      ∃ w v n, r.reductions = [n] ∧ a.wallet? s.sender = some w ∧
        b.wallet? s.sender = some v ∧ w.Books s.now n v := by
  cases h with
  | @owner mv b r repayments d isOwner movement repays =>
    obtain ⟨n, rfl⟩ := repays.eq_setDebt
    refine .inl ⟨?_, rfl⟩
    rw [Response.reductions_forward, Response.reductions_add_of_ne _ _ (by decide),
      repays.reductions]
  | covered notOwner covered =>
    refine .inl ⟨?_, rfl⟩
    rw [Response.reductions_forward, Response.reductions_add_of_ne _ _ (by decide)]
    rfl
  | @spent mv w v b r repayments d d' out amount notOwner movement uncovered priceable found valid
      repays debited numeral =>
    obtain ⟨xs, -, hbooks, hout, -⟩ := debit_yields debited
    rw [hout] at numeral
    exact .inr ⟨w, v, _, repays.reductions_spend numeral out _, found,
      repays.wallet?_setWallet found hbooks, hbooks⟩

/-- The messages of a batch that pass, up to the first one that does not. -/
def passages (e : Engine σ) (s : Sending) : Account → σ → List Message → List (Passage σ)
  | _, _, [] => []
  | a, c, m :: ms =>
    match (executeMessage e s ⟨a, .empty⟩ m).ask c with
    | (.ok p, d) => ⟨m, a, c, p.account, d, p.response⟩ :: passages e s p.account d ms
    | (.error _, _) => []

/-- Messages that pass one after another, each from where the one before it left. -/
inductive Trail (e : Engine σ) (s : Sending) :
    Account → σ → List (Passage σ) → Account → σ → Prop where
  | nil (a : Account) (c : σ) : Trail e s a c [] a c
  | cons {x : Passage σ} {xs : List (Passage σ)} {b : Account} {d : σ}
      (passes : Passes e s x.before x.message x.asked x.after x.added x.left)
      (rest : Trail e s x.after x.left xs b d) : Trail e s x.before x.asked (x :: xs) b d

variable {xs : List (Passage σ)} {x : Passage σ}

theorem Trail.spentBy (h : Trail e s a c xs b d) : SpentBy s.sender a b := by
  induction h with
  | nil a c => exact .refl s.sender a
  | cons passes rest ih => exact passes.spentBy.trans ih

theorem Trail.of_mem (h : Trail e s a c xs b d) (hx : x ∈ xs) :
    SpentBy s.sender a x.before ∧ Passes e s x.before x.message x.asked x.after x.added x.left := by
  induction h with
  | nil a c => cases hx
  | @cons y ys b d passes rest ih =>
    rcases List.mem_cons.mp hx with rfl | hx
    · exact ⟨.refl s.sender x.before, passes⟩
    · obtain ⟨hs, hp⟩ := ih hx
      exact ⟨passes.spentBy.trans hs, hp⟩

theorem executeAll_yields {p : Progress} (h : Yields (executeAll e s ⟨a, .empty⟩ ms) c p d) :
    Trail e s a c (passages e s a c ms) p.account d ∧
      (passages e s a c ms).map Passage.message = ms ∧
      p.response = .join ((passages e s a c ms).map Passage.added) := by
  induction ms generalizing a c p with
  | nil =>
    obtain ⟨rfl, rfl⟩ := yields_pure.mp h
    exact ⟨.nil a c, rfl, rfl⟩
  | cons m ms ih =>
    obtain ⟨q, u, hm, h⟩ := yields_bind.mp h
    have hq : q = Progress.behind q.response ⟨q.account, .empty⟩ := by simp [Progress.behind]
    rw [hq, executeAll_behind] at h
    obtain ⟨p', hrest, rfl⟩ := yields_map.mp h
    obtain ⟨ht, hms, hr⟩ := ih hrest
    have hcons : passages e s a c (m :: ms) =
        ⟨m, a, c, q.account, u, q.response⟩ :: passages e s q.account u ms := by
      rw [passages, show (executeMessage e s ⟨a, .empty⟩ m).ask c = (.ok q, u) from hm]
    rw [hcons]
    refine ⟨.cons (x := ⟨m, a, c, q.account, u, q.response⟩) (executeMessage_yields hm) ht, ?_, ?_⟩
    · rw [List.map_cons, hms]
    · rw [List.map_cons, Response.join_cons, ← hr, Progress.response_behind]

/-- A batch is accepted only if all of its messages pass, and its response joins what they add. -/
theorem execute_accepted (h : ((execute e a s ms).run c).run = ((.ok r, b), d)) :
    Trail e s a c (passages e s a c ms) b d ∧ (passages e s a c ms).map Passage.message = ms ∧
      r = .join ((passages e s a c ms).map Passage.added) := by
  unfold execute at h
  rw [StateT.run_bind, Id.run_bind] at h
  rcases hall : (executeAll e s ⟨a, .empty⟩ ms).ask c with ⟨_ | p, u⟩
  all_goals
    have hrun := hall
    unfold ask at hrun
    rw [hrun] at h
    cases h
  exact executeAll_yields hall

end Account

/-- A chain that answers no query. -/
def Chain.silent : Chain Unit where
  query _ _ c := (.error (.queryFailed "no answer"), c)

theorem Chain.steady_silent : Chain.silent.Steady :=
  ⟨fun _ _ => .error (.queryFailed "no answer"), fun _ _ _ => rfl⟩

/-! An account with a debt, a wallet whose reset has passed at 200, and a rule. -/
namespace Sample

def engine : Engine Unit := ⟨.silent, "uusd"⟩

def wallet : Wallet where
  address := "spender"
  nextReset := 100
  unit := .days
  multiple := 1
  limits := [⟨"uusd", 50, 20⟩]
  isDefaultLimit := true
  rules := none

def account : Account where
  owner := "owner"
  pendingOwner := none
  pendingSince := none
  updateDelay := 0
  signers := []
  wallets := [wallet]
  rules := [⟨"spender", "farm", "claim", none⟩]
  pools := []
  feeDebt := 5
  feeRepayAddress := "fees"
  homeNetwork := "test"

def claim : Message := .wasmExecute "farm" "\x7b\"claim\": \x7b\x7d\x7d" []

def send (amount : Nat) : Message := .bankSend "shop" [⟨"uusd", amount⟩]

def late : Sending := ⟨"spender", 200, false⟩

end Sample

end AllowanceProxy
