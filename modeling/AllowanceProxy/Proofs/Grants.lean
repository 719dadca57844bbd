import AllowanceProxy.Proofs.Agreement
import AllowanceProxy.Proofs.Passage
import Mathlib.Data.Finset.Dedup

/-!
What a rule grants is in its key: the actor, the contract, the message and the set of the pins. Of
the rules in force for a sender only the set of their keys matters to a batch, not their order, how
often they are repeated, or whether the account or the wallet holds them.
-/
namespace AllowanceProxy

open Asking

variable {σ : Type}

/-- Computations that differ in what a projection forgets fail alike or succeed alike. -/
theorem Asking.outcomes_of_map_eq {α β : Type} {f : α → β} {x y : Asking σ α}
    (h : f <$> y = f <$> x) (c : σ) :
    (∃ err d, x.ask c = (.error err, d) ∧ y.ask c = (.error err, d)) ∨
      ∃ a b d, Yields x c a d ∧ Yields y c b d ∧ f b = f a := by
  have hmap := congrArg (fun z => z.ask c) h
  simp only [ask_map] at hmap
  unfold Yields
  generalize x.ask c = u at hmap ⊢
  generalize y.ask c = v at hmap ⊢
  rcases u with ⟨err | a, d⟩ <;> rcases v with ⟨err' | b, d'⟩ <;>
    simp_all [Except.map]

namespace Rule

/-- What tells rules apart. -/
def key (r : Rule) : String × String × String × Finset (String × String) :=
  (r.actor, r.contract, r.messageName, r.pins.toFinset)

theorem key_eq_iff {r r' : Rule} : r.key = r'.key ↔ r.SameKey r' := by
  simp only [key, SameKey, Prod.mk.injEq, Finset.ext_iff, List.mem_toFinset]
  grind

variable {r r' : Rule} {actor contract : String} {name : LooseText} {fields : Members}

/-- A rule with more pins covers less. -/
theorem Covers.of_pins (h : r.Covers actor contract name fields) (sameActor : r'.actor = r.actor)
    (sameContract : r'.contract = r.contract) (sameName : r'.messageName = r.messageName)
    (pins : r'.pins ⊆ r.pins) : r'.Covers actor contract name fields := by
  obtain ⟨⟨hactor, hcontract, hname⟩, hpins⟩ := h
  exact ⟨⟨sameActor.trans hactor, sameContract.trans hcontract, sameName ▸ hname⟩,
    fun p hp => hpins p (pins hp)⟩

theorem covers_iff_of_key (same : r.key = r'.key) :
    r.Covers actor contract name fields ↔ r'.Covers actor contract name fields := by
  obtain ⟨hactor, hcontract, hname, hpins, hpins'⟩ := key_eq_iff.mp same
  exact ⟨fun h => h.of_pins hactor.symm hcontract.symm hname.symm hpins',
    fun h => h.of_pins hactor hcontract hname hpins⟩

end Rule

namespace Wallet

/-- The wallet with no rules of its own. -/
def withoutRules (w : Wallet) : Wallet := { w with rules := none }

variable (w : Wallet) (n : Nat) (now : Int)

@[simp] theorem address_withoutRules : w.withoutRules.address = w.address := rfl

@[simp] theorem limits_withoutRules : w.withoutRules.limits = w.limits := rfl

@[simp] theorem limit_withoutRules : w.withoutRules.limit = w.limit := rfl

@[simp] theorem dueReset_withoutRules : w.withoutRules.dueReset now = w.dueReset now := rfl

@[simp] theorem resetAfter_withoutRules : w.withoutRules.resetAfter now = w.resetAfter now := rfl

@[simp] theorem checkValid_withoutRules (reference : String) :
    w.withoutRules.checkValid reference = w.checkValid reference := rfl

theorem setRemaining_withoutRules :
    w.withoutRules.setRemaining n = (w.setRemaining n).map id withoutRules := by
  unfold setRemaining
  rw [limits_withoutRules]
  cases w.limits <;> rfl

theorem refill_withoutRules : w.withoutRules.refill = w.refill.map id withoutRules := by
  unfold refill
  rw [limit_withoutRules]
  cases w.limit with
  | error err => rfl
  | ok l => exact setRemaining_withoutRules w l.amount

theorem rollOver_withoutRules :
    w.withoutRules.rollOver now = (w.rollOver now).map id withoutRules := by
  unfold rollOver
  rw [resetAfter_withoutRules, refill_withoutRules]
  cases w.resetAfter now with
  | error err => rfl
  | ok t => rcases w.refill with ⟨_ | ⟨⟩, v⟩ <;> rfl

theorem deduct_withoutRules (total : Sourced) :
    w.withoutRules.deduct total = (w.deduct total).map (Prod.map withoutRules id) := by
  unfold deduct
  rw [limit_withoutRules]
  cases w.limit with
  | error err => rfl
  | ok l =>
    simp only [setRemaining_withoutRules]
    rcases w.setRemaining (l.remaining - total.coin.amount) with ⟨_ | ⟨⟩, v⟩ <;> rfl

end Wallet

namespace Account

/-- The account with no rules, and none in its wallets. -/
def withoutRules (a : Account) : Account :=
  { a with rules := [], wallets := a.wallets.map Wallet.withoutRules }

/-- The rules in force for a sender. -/
def grants (a : Account) (sender : String) : List Rule :=
  a.rules ++ ((a.wallet? sender).map Wallet.ownRules).getD []

def grantKeys (a : Account) (sender : String) :
    Finset (String × String × String × Finset (String × String)) :=
  ((a.grants sender).map Rule.key).toFinset

section Coverage

variable {a b : Account} {sender : String}

theorem coveredByRule_call [Json.Nesting] (a : Account) (sender contract msg : String) :
    a.coveredByRule sender (.wasmExecute contract msg []) =
      (Payload.text msg).named?.map fun named => named.any fun call =>
        (a.grants sender).any fun r => r.Covers sender contract call.1 call.2 := by
  simp only [coveredByRule, RuleBook.check]
  rcases (Payload.text msg).named? with err | _ | ⟨name, fields⟩
  · rfl
  · rfl
  · have hfound : (RuleBook.covering? a.rules sender contract name fields
        (((a.wallet? sender).map Wallet.ownRules).getD [])).isSome =
        (a.grants sender).any fun r => r.Covers sender contract name fields := List.isSome_find?
    simp only [except_ok_bind, Except.map, Option.any, ← hfound]
    cases RuleBook.covering? a.rules sender contract name fields
      (((a.wallet? sender).map Wallet.ownRules).getD []) <;> rfl

/-- A rule among those of the one account has its like among those of the other. -/
theorem exists_covers_of_keys (keys : b.grantKeys sender = a.grantKeys sender)
    {contract : String} {name : LooseText} {fields : Members}
    (h : ∃ r ∈ b.grants sender, r.Covers sender contract name fields) :
    ∃ r ∈ a.grants sender, r.Covers sender contract name fields := by
  obtain ⟨r, hr, hcovers⟩ := h
  have hkey : r.key ∈ a.grantKeys sender := by
    rw [← keys, grantKeys, List.mem_toFinset]
    exact List.mem_map_of_mem hr
  rw [grantKeys, List.mem_toFinset] at hkey
  obtain ⟨r', hr', hsame⟩ := List.mem_map.mp hkey
  exact ⟨r', hr', (Rule.covers_iff_of_key hsame).mpr hcovers⟩

theorem coveredByRule_of_keys [Json.Nesting] (keys : b.grantKeys sender = a.grantKeys sender)
    (m : Message) : b.coveredByRule sender m = a.coveredByRule sender m := by
  have hany (contract : String) (name : LooseText) (fields : Members) :
      (b.grants sender).any (fun r => r.Covers sender contract name fields) =
        (a.grants sender).any fun r => r.Covers sender contract name fields := by
    rw [Bool.eq_iff_iff]
    simp only [List.any_eq_true, decide_eq_true_eq]
    exact ⟨exists_covers_of_keys keys, exists_covers_of_keys keys.symm⟩
  cases m with
  | wasmExecute contract msg funds =>
    cases funds with
    | nil => simp only [coveredByRule_call, hany]
    | cons coin coins => rfl
  | bankSend address coins => rfl
  | bankBurn coins => rfl
  | chainOperation kind payload => rfl

/-- The rules in force are not touched by what a sender spends. -/
theorem SpentBy.grants (h : SpentBy sender a b) : b.grants sender = a.grants sender := by
  rw [Account.grants, Account.grants, h.rules, h.ownRules]

variable [Json.Nesting]

theorem SpentBy.coveredByRule (h : SpentBy sender a b) (m : Message) :
    b.coveredByRule sender m = a.coveredByRule sender m := by
  refine coveredByRule_of_keys ?_ m
  rw [grantKeys, grantKeys, h.grants]

end Coverage

section Erasure

variable (a : Account) (w : Wallet)

@[simp] theorem wallet?_withoutRules (x : String) :
    a.withoutRules.wallet? x = (a.wallet? x).map Wallet.withoutRules := List.find?_map

theorem withoutRules_setWallet :
    (a.setWallet w).withoutRules = a.withoutRules.setWallet w.withoutRules := by
  have hmap (ws : List Wallet) : (replaceWallet w ws).map Wallet.withoutRules =
      replaceWallet w.withoutRules (ws.map Wallet.withoutRules) := by
    induction ws with
    | nil => rfl
    | cons u us ih =>
      by_cases hu : u.address = w.address
      · simp [replaceWallet, hu]
      · simp [replaceWallet, hu, ih]
  simp only [setWallet, withoutRules, hmap]

/-- A progress whose account has no rules. -/
def Progress.withoutRules (p : Progress) : Progress := ⟨p.account.withoutRules, p.response⟩

@[simp] theorem Progress.account_withoutRules (p : Progress) :
    p.withoutRules.account = p.account.withoutRules := rfl

@[simp] theorem Progress.response_withoutRules (p : Progress) :
    p.withoutRules.response = p.response := rfl

variable (e : Engine σ) (s : Sending) (p : Progress) (m : Message) (mv : Movement)

theorem repayDebt_withoutRules (asset : Coin) :
    repayDebt e p.withoutRules asset =
      (fun q => (q.1.withoutRules, q.2)) <$> repayDebt e p asset := by
  simp only [repayDebt]
  change (if (!(e.converter p.account).canConvert asset.denom) = true then _ else _) = _
  split
  · rfl
  · simp only [map_bind, map_pure]
    rfl

theorem repayWith_withoutRules :
    repayWith e p.withoutRules mv = (fun q => (q.1.withoutRules, q.2)) <$> repayWith e p mv := by
  have hdebt : p.withoutRules.account.feeDebt = p.account.feeDebt := rfl
  simp only [repayWith, repayDebt_withoutRules, hdebt]
  split
  · split
    · rw [map_pure]
    · simp only [map_bind, map_pure, bind_map_left]
  · rw [map_pure]

theorem executeAsOwner_withoutRules :
    executeAsOwner e s p.withoutRules m mv =
      Progress.withoutRules <$> executeAsOwner e s p m mv := by
  rw [executeAsOwner, repayWith_withoutRules]
  simp only [executeAsOwner, map_bind, map_pure, bind_map_left]
  rfl

theorem rollOverIfDue_withoutRules (now : Int) :
    rollOverIfDue w.withoutRules now = (rollOverIfDue w now).map Wallet.withoutRules := by
  unfold rollOverIfDue
  rw [Wallet.dueReset_withoutRules, Wallet.rollOver_withoutRules]
  split
  · rcases w.rollOver now with ⟨_ | ⟨⟩, v⟩ <;> rfl
  · rfl

theorem debit_withoutRules (now : Int) (coins : List Coin) :
    debit e a.withoutRules w.withoutRules now coins =
      (fun x => (x.1.withoutRules, x.2)) <$> debit e a w now coins := by
  rw [debit_eq, debit_eq, rollOverIfDue_withoutRules]
  cases rollOverIfDue w now with
  | error err => rfl
  | ok v =>
    simp only [Except.map, lift_ok_bind, map_bind, Wallet.deduct_withoutRules]
    congr 1
    funext total
    cases v.deduct total <;> rfl

theorem executeSpend_withoutRules :
    executeSpend e s p.withoutRules m mv = Progress.withoutRules <$> executeSpend e s p m mv := by
  unfold executeSpend
  rw [Progress.account_withoutRules, wallet?_withoutRules]
  cases p.account.wallet? s.sender with
  | none => rfl
  | some w =>
    simp only [Option.map_some, Wallet.checkValid_withoutRules, repayWith_withoutRules, map_bind,
      map_pure, bind_map_left, Progress.account_withoutRules, Progress.response_withoutRules,
      debit_withoutRules, ← withoutRules_setWallet]
    rfl

end Erasure

section Execution

variable [Json.Nesting]

/-- The accounts differ in their rules only, which cover the same calls of a sender. -/
structure Progress.SameGrants (sender : String) (p q : Progress) : Prop where
  withoutRules : q.withoutRules = p.withoutRules
  covered : ∀ m, q.account.coveredByRule sender m = p.account.coveredByRule sender m

variable {e : Engine σ} {a b : Account} {s : Sending} {p q : Progress} {m : Message}
  {mv : Movement}

theorem map_executeAsOther (e : Engine σ) (s : Sending) (p : Progress) (m : Message)
    (mv : Movement) :
    Progress.withoutRules <$> executeAsOther e s p m mv =
      (Asking.lift (p.account.coveredByRule s.sender m) >>= fun covered =>
        if covered then
          let response := p.withoutRules.response.add "action" "execute_authorized_action"
          pure { p.withoutRules with response := response.forward (s.forwarded [m]) }
        else Asking.lift (checkPriceable m mv) >>= fun _ =>
          executeSpend e s p.withoutRules m mv) := by
  rw [executeAsOther, map_bind]
  congr 1
  funext covered
  cases covered
  · simp only [Bool.false_eq_true, ↓reduceIte, map_bind, executeSpend_withoutRules]
  · rfl

/-- Up to its rules a message leaves the same account, if the rules cover the same calls. -/
theorem Progress.SameGrants.map_executeMessage (h : p.SameGrants s.sender q) (e : Engine σ)
    (m : Message) :
    Progress.withoutRules <$> executeMessage e s q m =
      Progress.withoutRules <$> executeMessage e s p m := by
  have howner : q.account.IsOwner s.sender ↔ p.account.IsOwner s.sender := by
    have hsame : q.account.owner = p.account.owner := congrArg (·.account.owner) h.withoutRules
    rw [IsOwner, IsOwner, hsame]
  simp only [executeMessage, map_bind, howner]
  congr 1
  funext mv
  split
  · rw [← executeAsOwner_withoutRules, ← executeAsOwner_withoutRules, h.withoutRules]
  · rw [map_executeAsOther, map_executeAsOther, h.withoutRules, h.covered]

namespace Progress.SameGrants

/-- One message: the outcome is the same, and the rules still cover the same calls. -/
theorem agree_executeMessage (h : p.SameGrants s.sender q) (e : Engine σ) (m : Message) :
    Agree Eq (SameGrants s.sender) (executeMessage e s p m) (executeMessage e s q m) := by
  rintro c _ rfl
  rcases outcomes_of_map_eq (h.map_executeMessage e m) c with
    ⟨err, d, hp, hq⟩ | ⟨p', q', d, hp, hq, hsame⟩
  · rw [hp, hq]
    exact ⟨.error err, rfl⟩
  · -- Neither account has other rules after the message than before it.
    have hcovered (n : Message) :
        q'.account.coveredByRule s.sender n = p'.account.coveredByRule s.sender n := by
      obtain ⟨r, hpassed⟩ := passes_of_yields hp
      obtain ⟨r', hpassed'⟩ := passes_of_yields hq
      rw [hpassed'.spentBy.coveredByRule, h.covered, hpassed.spentBy.coveredByRule]
    rw [Yields] at hp hq
    rw [hp, hq]
    exact ⟨.ok ⟨hsame, hcovered⟩, rfl⟩

theorem agree_executeAll (h : p.SameGrants s.sender q) (e : Engine σ) (ms : List Message) :
    Agree Eq (SameGrants s.sender) (executeAll e s p ms) (executeAll e s q ms) := by
  induction ms generalizing p q with
  | nil => exact agree_pure h
  | cons m ms ih => exact agree_bind (h.agree_executeMessage e m) fun _ _ h' => ih h'

end Progress.SameGrants

end Execution

variable [Json.Nesting]

/-- Of the rules only the set of the keys of those in force for the sender matters. Where accounts
differ in their rules alone and these keys are the same, a batch has the same outcome on both, asks
the chain the same, and leaves accounts that differ in the same rules as before. Rules of the same
key cover the same calls, and a rule with more pins covers no more than the other. -/
theorem only_keys_matter :
    (∀ (e : Engine σ) (a b : Account) (s : Sending) (ms : List Message) (c : σ),
      b.withoutRules = a.withoutRules → b.grantKeys s.sender = a.grantKeys s.sender →
      ∃ outcome a' b' d, ((execute e a s ms).run c).run = ((outcome, a'), d) ∧
        ((execute e b s ms).run c).run = ((outcome, b'), d) ∧
        b'.withoutRules = a'.withoutRules ∧
        (a'.rules = a.rules ∧ a'.wallets.map Wallet.rules = a.wallets.map Wallet.rules) ∧
        b'.rules = b.rules ∧ b'.wallets.map Wallet.rules = b.wallets.map Wallet.rules) ∧
    ∀ (r r' : Rule) (actor contract : String) (name : LooseText) (fields : Members),
      (r.key = r'.key → (r.Covers actor contract name fields ↔
        r'.Covers actor contract name fields)) ∧
      (r'.actor = r.actor → r'.contract = r.contract → r'.messageName = r.messageName →
        r'.pins ⊆ r.pins → r.Covers actor contract name fields →
          r'.Covers actor contract name fields) := by
  refine ⟨fun e a b s ms c same keys => ?_, fun r r' actor contract name fields =>
    ⟨Rule.covers_iff_of_key, fun hactor hcontract hname hpins h =>
      h.of_pins hactor hcontract hname hpins⟩⟩
  have hstart : Progress.SameGrants s.sender ⟨a, .empty⟩ ⟨b, .empty⟩ :=
    ⟨by simp only [Progress.withoutRules, same], coveredByRule_of_keys keys⟩
  rcases (hstart.agree_executeAll e ms).outcomes (c := c) rfl with
    ⟨err, d, d', ha, hb, rfl⟩ | ⟨p, q, d, d', ha, hb, hpq, rfl⟩
  · refine ⟨.error err, a, b, d, ?_, ?_, same, ⟨rfl, rfl⟩, rfl, rfl⟩
    · rw [run_execute, ha]
    · rw [run_execute, hb]
  · obtain ⟨hspent, -⟩ := executeAll_yields ha
    obtain ⟨hspent', -⟩ := executeAll_yields hb
    have haccount : q.account.withoutRules = p.account.withoutRules :=
      congrArg Progress.account hpq.withoutRules
    have hresponse : q.withoutRules.response = p.withoutRules.response :=
      congrArg Progress.response hpq.withoutRules
    rw [Progress.response_withoutRules, Progress.response_withoutRules] at hresponse
    refine ⟨.ok p.response, p.account, q.account, d, ?_, ?_, haccount,
      ⟨hspent.spentBy.rules, hspent.spentBy.walletRules⟩,
      hspent'.spentBy.rules, hspent'.spentBy.walletRules⟩
    · rw [run_execute, ha]
    · rw [run_execute, hb, ← hresponse]

end Account

namespace Sample

/-- A rule of the account with two pins, and one of the wallet with none. -/
def granted : Account :=
  { account with
    wallets := [{ wallet with rules := some [⟨"spender", "farm", "stop", none⟩] }]
    rules := [⟨"spender", "farm", "claim", some [("to", "x"), ("n", "1")]⟩] }

/-- The other way round: the pins repeated in another order, and the rule without pins twice. -/
def regranted : Account :=
  { account with
    wallets := [{ wallet with
      rules := some [⟨"spender", "farm", "claim", some [("n", "1"), ("to", "x"), ("n", "1")]⟩] }]
    rules := [⟨"spender", "farm", "stop", some []⟩, ⟨"spender", "farm", "stop", none⟩] }

def pinnedClaim : Message :=
  .wasmExecute "farm" "\x7b\"claim\": \x7b\"n\": 1, \"to\": \"x\"\x7d\x7d" []

end Sample

/-- Both accounts let the same claim pass and debit the same send. -/
theorem Account.only_keys_matter_regranted :
    ∃ r a b, ((execute Sample.engine Sample.granted Sample.late
        [Sample.pinnedClaim, Sample.send 30]).run ()).run = ((.ok r, a), ()) ∧
      ((execute Sample.engine Sample.regranted Sample.late
        [Sample.pinnedClaim, Sample.send 30]).run ()).run = ((.ok r, b), ()) ∧
      r.reductions = [30] ∧ b.withoutRules = a.withoutRules ∧ b.rules = Sample.regranted.rules := by
  have hreductions : ((execute Sample.engine Sample.granted Sample.late
      [Sample.pinnedClaim, Sample.send 30]).run ()).run.1.1.toOption.map Response.reductions =
        some [30] := by decide +kernel
  obtain ⟨_ | r, a, b, ⟨⟩, ha, hb, hsame, -, hrules, -⟩ := only_keys_matter.1 Sample.engine
    Sample.granted Sample.regranted Sample.late [Sample.pinnedClaim, Sample.send 30] () rfl
    (by decide +kernel)
  · rw [ha] at hreductions
    cases hreductions
  · rw [ha] at hreductions
    exact ⟨r, a, b, ha, hb, Option.some.inj hreductions, hsame, hrules⟩

end AllowanceProxy
