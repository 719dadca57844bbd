import AllowanceProxy.Proofs.Batch
import AllowanceProxy.Proofs.Privilege

/-!
The debt of an account. The first native send of some coin that is forwarded while a debt is owed
is followed by the one repayment; every other message is forwarded as it is, and once the debt is
paid it stays so.
-/
namespace AllowanceProxy

open Asking Account

variable {σ : Type}

/-- The coin that names the denomination in which a native send would repay a debt. -/
def Message.asset? : Message → Option Coin
  | .bankSend _ (asset :: _) => some asset
  | _ => none

/-- A message repays with a coin exactly if it moves as a native send with that coin in front. -/
theorem Message.asset?_eq_some_iff [Json.Nesting] {m : Message} {mv : Movement} {asset : Coin}
    (movement : Movement.ofMessage m = .ok mv) :
    m.asset? = some asset ↔ mv.kind = .bankSend ∧ mv.funds.head? = some asset := by
  constructor
  · intro h
    unfold asset? at h
    split at h
    next address first coins =>
      obtain rfl := Except.ok.inj movement
      exact ⟨rfl, h⟩
    next => cases h
  · rintro ⟨hkind, hhead⟩
    obtain ⟨address, coins, rfl⟩ := exists_bankSend_of_kind movement hkind
    obtain rfl := Except.ok.inj movement
    cases coins with
    | nil => cases hhead
    | cons first coins => exact hhead

theorem Sending.forwarded_eq {s : Sending} (real : s.simulate = false) (ms : List Message) :
    s.forwarded ms = ms := by
  simp [Sending.forwarded, real]

namespace Response

variable (r : Response)

@[simp] theorem messages_add (key value : String) : (r.add key value).messages = r.messages := rfl

@[simp] theorem messages_addSources (x : Sourced) : (r.addSources x).messages = r.messages := rfl

@[simp] theorem messages_forward (ms : List Message) :
    (r.forward ms).messages = r.messages ++ ms := rfl

end Response

namespace Account

variable {e : Engine σ} {s : Sending} {a b : Account} {m : Message} {mv : Movement}
  {pre post ms : List Message} {repayments : List Message} {r : Response} {asset : Coin}
  {xs : List (Passage σ)} {c d : σ}

theorem Repays.messages (h : Repays e a mv c b r repayments d) : r.messages = [] := by
  cases h <;> rfl

section

variable [Json.Nesting]

theorem Repays.untouched (h : Repays e a mv c b r repayments d)
    (movement : Movement.ofMessage m = .ok mv) (idle : a.feeDebt = 0 ∨ m.asset? = none) :
    repayments = [] ∧ b.feeDebt = a.feeDebt := by
  cases h with
  | nothing => exact ⟨rfl, rfl⟩
  | debt kind funds owed convertible price =>
    have hasset := (Message.asset?_eq_some_iff movement).mpr ⟨kind, by rw [funds, List.head?_cons]⟩
    rcases idle with hzero | hnone
    · exact absurd hzero owed
    · rw [hnone] at hasset
      cases hasset

theorem Repays.repaid (h : Repays e a mv c b r repayments d)
    (movement : Movement.ofMessage m = .ok mv) (owed : a.feeDebt ≠ 0)
    (first : m.asset? = some asset) :
    b.feeDebt = 0 ∧ ∃ paid,
      Yields ((e.converter a).convert ⟨asset.denom, a.feeDebt⟩ true) c paid d ∧
      repayments = [.bankSend a.feeRepayAddress [paid.coin]] := by
  obtain ⟨hkind, hhead⟩ := (Message.asset?_eq_some_iff movement).mp first
  cases h with
  | nothing idle =>
    refine absurd ⟨hkind, ?_, owed⟩ idle
    intro hnil
    rw [hnil] at hhead
    cases hhead
  | debt kind funds owed convertible price =>
    rw [funds] at hhead
    obtain rfl := Option.some.inj hhead
    exact ⟨rfl, _, price, rfl⟩

/-- What a message adds to what is forwarded: itself, and what is repaid before it is debited. -/
theorem Passes.forwards (h : Passes e s a m c b r d) (real : s.simulate = false) :
    (m.asset? = none ∧ r.messages = [m] ∧ b.feeDebt = a.feeDebt) ∨
      ∃ mv b' r' repayments d', Movement.ofMessage m = .ok mv ∧
        Repays e a mv c b' r' repayments d' ∧ r.messages = m :: repayments ∧
        b.feeDebt = b'.feeDebt := by
  cases h with
  | owner isOwner movement repays =>
    refine .inr ⟨_, _, _, _, _, movement, repays, ?_, rfl⟩
    simp [s.forwarded_eq real, repays.messages]
  | covered notOwner covered =>
    refine .inl ⟨?_, ?_, rfl⟩
    · obtain ⟨contract, msg, name, fields, rule, rfl, -⟩ := covered_of_coveredByRule covered
      rfl
    · simp [s.forwarded_eq real, Response.empty]
  | spent notOwner movement uncovered priceable found valid repays debited numeral =>
    refine .inr ⟨_, _, _, _, _, movement, repays, ?_, rfl⟩
    simp [s.forwarded_eq real, repays.messages]

theorem Passes.untouched (h : Passes e s a m c b r d) (real : s.simulate = false)
    (idle : a.feeDebt = 0 ∨ m.asset? = none) : r.messages = [m] ∧ b.feeDebt = a.feeDebt := by
  rcases h.forwards real with ⟨-, hforwarded⟩ | ⟨mv, b', r', repayments, d', hm, hr, hms, hdebt⟩
  · exact hforwarded
  · obtain ⟨rfl, hsame⟩ := hr.untouched hm idle
    exact ⟨hms, hdebt.trans hsame⟩

theorem Passes.repaid (h : Passes e s a m c b r d) (real : s.simulate = false)
    (owed : a.feeDebt ≠ 0) (first : m.asset? = some asset) :
    b.feeDebt = 0 ∧ ∃ paid v,
      Yields ((e.converter a).convert ⟨asset.denom, a.feeDebt⟩ true) c paid v ∧
      r.messages = [m, .bankSend a.feeRepayAddress [paid.coin]] := by
  rcases h.forwards real with ⟨hnone, -⟩ | ⟨mv, b', r', repayments, d', hm, hr, hms, hdebt⟩
  · rw [hnone] at first
    cases first
  · obtain ⟨hzero, paid, hprice, rfl⟩ := hr.repaid hm owed first
    exact ⟨hdebt.trans hzero, paid, d', hprice, hms⟩

theorem Trail.untouched (h : Trail e s a c xs b d) (real : s.simulate = false)
    (idle : a.feeDebt = 0 ∨ ∀ x ∈ xs, x.message.asset? = none) :
    (Response.join (xs.map Passage.added)).messages = xs.map Passage.message ∧
      b.feeDebt = a.feeDebt := by
  induction h with
  | nil a c => exact ⟨rfl, rfl⟩
  | @cons x xs b d passes rest ih =>
    obtain ⟨hms, hdebt⟩ := passes.untouched real (idle.imp_right fun h => h x List.mem_cons_self)
    -- The debt that the rest finds is the one that was there at first.
    obtain ⟨hrest, hlast⟩ := ih (idle.imp hdebt.trans fun h y hy => h y (List.mem_cons_of_mem x hy))
    refine ⟨?_, hlast.trans hdebt⟩
    simp [hms, hrest]

theorem executeAll_untouched (accepted : Yields (executeAll e s ⟨a, .empty⟩ ms) c ⟨b, r⟩ d)
    (real : s.simulate = false) (idle : a.feeDebt = 0 ∨ ∀ m ∈ ms, m.asset? = none) :
    r.messages = ms ∧ b.feeDebt = a.feeDebt := by
  obtain ⟨htrail, hmessages, hresponse⟩ := executeAll_yields accepted
  have hidle : a.feeDebt = 0 ∨ ∀ x ∈ passages e s a c ms, x.message.asset? = none := by
    refine idle.imp_right fun h x hx => h x.message ?_
    rw [← hmessages]
    exact List.mem_map_of_mem hx
  obtain ⟨hforwarded, hdebt⟩ := htrail.untouched real hidle
  refine ⟨?_, hdebt⟩
  calc r.messages = (passages e s a c ms).map Passage.message := by rw [← hforwarded, ← hresponse]
    _ = ms := hmessages

theorem executeAll_singleton (e : Engine σ) (s : Sending) (p : Progress) (m : Message) :
    executeAll e s p [m] = executeMessage e s p m := by
  simp only [executeAll, bind_pure]

/-- In a batch the price of the debt is asked where the messages before the first send leave. -/
theorem executeAll_repaid
    (accepted : Yields (executeAll e s ⟨a, .empty⟩ (pre ++ m :: post)) c ⟨b, r⟩ d)
    (real : s.simulate = false) (owed : a.feeDebt ≠ 0) (before : ∀ x ∈ pre, x.asset? = none)
    (first : m.asset? = some asset) :
    b.feeDebt = 0 ∧ ∃ q a' u paid v, Yields (executeAll e s ⟨a, .empty⟩ pre) c ⟨a', q⟩ u ∧
      Yields ((e.converter a).convert ⟨asset.denom, a.feeDebt⟩ true) u paid v ∧
      r.messages = pre ++ m :: .bankSend a.feeRepayAddress [paid.coin] :: post := by
  obtain ⟨q, a₁, u, r', hpre, hrest, rfl⟩ := yields_executeAll_append.mp accepted
  rw [← List.singleton_append] at hrest
  obtain ⟨q₂, a₂, u₂, q₃, hm, hpost, rfl⟩ := yields_executeAll_append.mp hrest
  have hspent : SpentBy s.sender a a₁ := (executeAll_yields hpre).1.spentBy
  obtain ⟨hq, hdebt⟩ := executeAll_untouched hpre real (.inr before)
  rw [executeAll_singleton] at hm
  have hpasses : Passes e s a₁ m u a₂ q₂ u₂ := executeMessage_yields hm
  obtain ⟨hzero, paid, v, hprice, hq₂⟩ := hpasses.repaid real (by rwa [hdebt]) first
  obtain ⟨hq₃, hlast⟩ := executeAll_untouched hpost real (.inl hzero)
  rw [hdebt, hspent.converter] at hprice
  rw [hspent.fixed.feeRepayAddress] at hq₂
  refine ⟨hlast.trans hzero, q, a₁, u, paid, v, hpre, hprice, ?_⟩
  simp [hq, hq₂, hq₃]

end

/-- Of messages either none repays, or there is a first one. -/
theorem forall_asset?_or_first (ms : List Message) : (∀ m ∈ ms, m.asset? = none) ∨
    ∃ pre m asset post, ms = pre ++ m :: post ∧ (∀ x ∈ pre, x.asset? = none) ∧
      m.asset? = some asset := by
  cases hfirst : ms.findSome? Message.asset? with
  | none => exact .inl (List.findSome?_eq_none_iff.mp hfirst)
  | some asset =>
    obtain ⟨pre, m, post, hms, hm, hpre⟩ := List.findSome?_eq_some_iff.mp hfirst
    exact .inr ⟨pre, m, asset, post, hms, hpre, hm⟩

/-- What is forwarded of messages that are executed for an account, and the debt after them: either
nothing is repaid, or the first native send of some coin is followed by the debt at the price
that its denomination has then. -/
inductive Settles (e : Engine σ) (a : Account) : List Message → List Message → Nat → Prop where
  | untouched {ms : List Message} (idle : a.feeDebt = 0 ∨ ∀ m ∈ ms, m.asset? = none) :
      Settles e a ms ms a.feeDebt
  | repaid {pre post : List Message} {m : Message} {asset : Coin} {paid : Sourced} {c d : σ}
      (owed : a.feeDebt ≠ 0) (before : ∀ x ∈ pre, x.asset? = none)
      (first : m.asset? = some asset)
      (price : Yields ((e.converter a).convert ⟨asset.denom, a.feeDebt⟩ true) c paid d) :
      Settles e a (pre ++ m :: post)
        (pre ++ m :: .bankSend a.feeRepayAddress [paid.coin] :: post) 0

variable {ns forwarded forwarded' : List Message} {n n' : Nat}

theorem Settles.of_feeDebt_eq_zero (h : Settles e a ms forwarded n) (paid : a.feeDebt = 0) :
    forwarded = ms ∧ n = 0 := by
  cases h with
  | untouched => exact ⟨rfl, paid⟩
  | repaid owed => exact absurd paid owed

/-- After a payment nothing is left to repay, and before it no message repaid. -/
theorem Settles.append (h : Settles e a ms forwarded n) (k : Settles e b ns forwarded' n')
    (fixed : Fixed a b) (debt : b.feeDebt = n) :
    Settles e a (ms ++ ns) (forwarded ++ forwarded') n' := by
  have hconverter : e.converter b = e.converter a := by rw [Engine.converter, fixed.pools]; rfl
  cases h with
  | untouched idle =>
    cases k with
    | untouched idle' =>
      rw [debt] at idle' ⊢
      refine .untouched ?_
      rcases idle with hzero | hms
      · exact .inl hzero
      · refine idle'.imp_right fun hns x hx => ?_
        exact (List.mem_append.mp hx).elim (hms x) (hns x)
    | @repaid pre post m asset paid c d owed before first price =>
      rw [debt] at owed price
      rw [hconverter] at price
      have hms := idle.resolve_left owed
      have hbefore : ∀ x ∈ ms ++ pre, x.asset? = none := fun x hx =>
        (List.mem_append.mp hx).elim (hms x) (before x)
      have hrepaid : Settles e a ((ms ++ pre) ++ m :: post) _ 0 :=
        .repaid owed hbefore first price
      simpa only [fixed.feeRepayAddress, List.append_assoc] using hrepaid
  | @repaid pre post m asset paid c d owed before first price =>
    obtain ⟨rfl, rfl⟩ := k.of_feeDebt_eq_zero debt
    have hrepaid : Settles e a (pre ++ m :: (post ++ forwarded')) _ 0 :=
      .repaid owed before first price
    simpa only [List.append_assoc, List.cons_append] using hrepaid

section Execute

variable [Json.Nesting] {sender : String} {now : Int}
  (accepted : ((execute e a ⟨sender, now, false⟩ ms).run c).run = ((.ok r, b), d))
include accepted

theorem execute_untouched (idle : a.feeDebt = 0 ∨ ∀ m ∈ ms, m.asset? = none) :
    r.messages = ms ∧ b.feeDebt = a.feeDebt :=
  executeAll_untouched (run_execute_eq_ok.mp accepted) rfl idle

theorem execute_repaid (busy : ¬ (a.feeDebt = 0 ∨ ∀ m ∈ ms, m.asset? = none)) :
    b.feeDebt = 0 ∧ ∃ pre m asset post, ms = pre ++ m :: post ∧ (∀ x ∈ pre, x.asset? = none) ∧
      m.asset? = some asset ∧
      ∃ q a' u paid v, ((execute e a ⟨sender, now, false⟩ pre).run c).run = ((.ok q, a'), u) ∧
        Yields ((e.converter a).convert ⟨asset.denom, a.feeDebt⟩ true) u paid v ∧
        r.messages = pre ++ m :: .bankSend a.feeRepayAddress [paid.coin] :: post := by
  obtain ⟨owed, hsome⟩ := not_or.mp busy
  obtain ⟨pre, m, asset, post, rfl, hpre, hm⟩ := (forall_asset?_or_first ms).resolve_left hsome
  obtain ⟨hzero, q, a', u, paid, v, hbefore, hprice, hmessages⟩ :=
    executeAll_repaid (run_execute_eq_ok.mp accepted) rfl owed hpre hm
  exact ⟨hzero, pre, m, asset, post, rfl, hpre, hm, q, a', u, paid, v,
    run_execute_eq_ok.mpr hbefore, hprice, hmessages⟩

theorem settles_execute : Settles e a ms r.messages b.feeDebt := by
  by_cases hidle : a.feeDebt = 0 ∨ ∀ m ∈ ms, m.asset? = none
  · obtain ⟨hmessages, hdebt⟩ := execute_untouched accepted hidle
    rw [hmessages, hdebt]
    exact .untouched hidle
  · obtain ⟨hzero, pre, m, asset, post, rfl, hpre, hm, q, a', u, paid, v, -, hprice, hmessages⟩ :=
      execute_repaid accepted hidle
    have owed : a.feeDebt ≠ 0 := fun hnone => hidle (.inl hnone)
    rw [hmessages, hzero]
    exact .repaid owed hpre hm hprice

end Execute

end Account

/-- What comes of calls one after another, each at the account that it finds. -/
def collect [Json.Nesting] {α : Type} (e : Engine σ) (f : Account → Call σ → List α) :
    Account → List (Call σ) → List α
  | _, [] => []
  | a, k :: ks => f a k ++ collect e f (k.after e a) ks

namespace Call

/-- The call executes messages and forwards them. -/
def Sends (k : Call σ) : Prop :=
  ∃ sender now ms, k.operation = .execute ⟨sender, now, false⟩ ms

variable [Json.Nesting] (e : Engine σ) (a : Account) (k : Call σ)

/-- The messages that a call executes: none if it is refused. -/
def executed : List Message :=
  match k.operation, k.answer e a with
  | .execute _ ms, .ok _ => ms
  | _, _ => []

def forwarded : List Message :=
  match k.answer e a with
  | .ok (.response r) => r.messages
  | _ => []

variable {k}

theorem settles (h : k.Sends) :
    Settles e a (k.executed e a) (k.forwarded e a) (k.after e a).feeDebt := by
  obtain ⟨sender, now, ms, hop⟩ := h
  unfold executed forwarded
  cases hx : k.answer e a with
  | error err =>
    rw [hop, after_of_refused hx]
    exact .untouched (.inr fun m hm => nomatch hm)
  | ok x =>
    obtain ⟨r, d, rfl, hrun⟩ := answer_execute hop hx
    rw [hop]
    exact settles_execute hrun

end Call

theorem settles_collect [Json.Nesting] (e : Engine σ) (a : Account) {ks : List (Call σ)}
    (sends : ∀ k ∈ ks, k.Sends) :
    Settles e a (collect e (Call.executed e) a ks) (collect e (Call.forwarded e) a ks)
      (afterAll e a ks).feeDebt := by
  induction ks generalizing a with
  | nil => exact .untouched (.inr fun m hm => nomatch hm)
  | cons k ks ih =>
    have hfirst := Call.settles e a (sends k List.mem_cons_self)
    have hrest := ih (k.after e a) fun l hl => sends l (List.mem_cons_of_mem k hl)
    exact hfirst.append hrest (k.fixed e a) rfl

/-- What is forwarded of an accepted batch is the batch itself, and the debt stays, if nothing is
owed or no message is a native send of some coin. Otherwise nothing is owed any more, and right
behind the first such message stands the one repayment: the debt at its price in the denomination
of that message, asked where the messages before it leave the chain. So it is with all that calls
forward one after another, and with a debt once paid they only forward what they execute. -/
theorem repayment_once [Json.Nesting] (e : Engine σ) (a : Account) :
    (∀ sender now ms c r b d,
      ((execute e a ⟨sender, now, false⟩ ms).run c).run = ((.ok r, b), d) →
      ((a.feeDebt = 0 ∨ ∀ m ∈ ms, m.asset? = none) → r.messages = ms ∧ b.feeDebt = a.feeDebt) ∧
      (¬ (a.feeDebt = 0 ∨ ∀ m ∈ ms, m.asset? = none) → b.feeDebt = 0 ∧
        ∃ pre m asset post, ms = pre ++ m :: post ∧ (∀ x ∈ pre, x.asset? = none) ∧
          m.asset? = some asset ∧
          ∃ q a' u paid v,
            ((execute e a ⟨sender, now, false⟩ pre).run c).run = ((.ok q, a'), u) ∧
            Yields ((e.converter a).convert ⟨asset.denom, a.feeDebt⟩ true) u paid v ∧
            r.messages = pre ++ m :: .bankSend a.feeRepayAddress [paid.coin] :: post)) ∧
    ∀ ks : List (Call σ), (∀ k ∈ ks, k.Sends) →
      Settles e a (collect e (Call.executed e) a ks) (collect e (Call.forwarded e) a ks)
        (afterAll e a ks).feeDebt ∧
      ∀ ls : List (Call σ), (∀ k ∈ ls, k.Sends) → (afterAll e a ks).feeDebt = 0 →
        collect e (Call.forwarded e) (afterAll e a ks) ls =
          collect e (Call.executed e) (afterAll e a ks) ls ∧
        (afterAll e a (ks ++ ls)).feeDebt = 0 := by
  refine ⟨?_, ?_⟩
  · intro sender now ms c r b d accepted
    exact ⟨execute_untouched accepted, execute_repaid accepted⟩
  · intro ks sends
    refine ⟨settles_collect e a sends, ?_⟩
    intro ls sends' hpaid
    rw [afterAll_append]
    exact (settles_collect e (afterAll e a ks) sends').of_feeDebt_eq_zero hpaid

namespace Sample

def batch : List Message := [claim, send 30, send 5]

def paying : Call Unit := ⟨.execute late batch, ()⟩

def later : Call Unit := ⟨.execute ⟨"owner", 300, false⟩ [send 7], ()⟩

end Sample

/-- The debt is paid behind the first of two sends, and the owner's send afterwards pays nothing. -/
theorem repayment_once_sample :
    (∃ r b, ((execute Sample.engine Sample.account Sample.late Sample.batch).run ()).run =
        ((.ok r, b), ()) ∧ b.feeDebt = 0 ∧
      r.messages.map Message.asset? =
        [none, some ⟨"uusd", 30⟩, some ⟨"uusd", 5⟩, some ⟨"uusd", 5⟩] ∧
      ∃ pre m coin post, Sample.batch = pre ++ m :: post ∧
        r.messages = pre ++ m :: .bankSend "fees" [coin] :: post) ∧
    (collect Sample.engine (Call.forwarded Sample.engine)
      (afterAll Sample.engine Sample.account [Sample.paying]) [Sample.later]).map Message.asset? =
        [some ⟨"uusd", 7⟩] ∧
    (afterAll Sample.engine Sample.account ([Sample.paying] ++ [Sample.later])).feeDebt = 0 := by
  obtain ⟨hcall, hrun⟩ := repayment_once Sample.engine Sample.account
  refine ⟨?_, by decide +kernel, ?_⟩
  · have haccepted : ((execute Sample.engine Sample.account Sample.late Sample.batch).run
        ()).run.1.1.toOption.isSome := by decide +kernel
    obtain ⟨r, b, ⟨⟩, h⟩ := exists_accepted haccepted
    have hassets : ((execute Sample.engine Sample.account Sample.late Sample.batch).run
        ()).run.1.1.toOption.map (fun r => r.messages.map Message.asset?) =
          some [none, some ⟨"uusd", 30⟩, some ⟨"uusd", 5⟩, some ⟨"uusd", 5⟩] := by
      decide +kernel
    rw [h] at hassets
    have hbusy : ¬ (Sample.account.feeDebt = 0 ∨ ∀ m ∈ Sample.batch, m.asset? = none) := by decide
    obtain ⟨hzero, pre, m, asset, post, hms, -, -, q, a', u, paid, v, -, -, hmessages⟩ :=
      (hcall _ _ _ _ _ _ _ h).2 hbusy
    exact ⟨r, b, h, hzero, Option.some.inj hassets, pre, m, paid.coin, post, hms, hmessages⟩
  · have hpaying : ∀ k ∈ [Sample.paying], k.Sends := by
      intro k hk
      obtain rfl := List.mem_singleton.mp hk
      exact ⟨_, _, _, rfl⟩
    have hlater : ∀ k ∈ [Sample.later], k.Sends := by
      intro k hk
      obtain rfl := List.mem_singleton.mp hk
      exact ⟨_, _, _, rfl⟩
    exact ((hrun [Sample.paying] hpaying).2 [Sample.later] hlater (by decide +kernel)).2

end AllowanceProxy
