import AllowanceProxy.Chain.Canned
import AllowanceProxy.Proofs.Agreement
import AllowanceProxy.Proofs.Owner
import AllowanceProxy.Proofs.Pricing
import AllowanceProxy.Proofs.Repayment

/-!
Provenance of prices. The attributes of an accepted batch tell every query that was made for it, in
order: one for each coin that a spend moves, after the one for a repayment, and none for a message
that a rule covers or the owner sends.
-/
namespace AllowanceProxy

open Asking Account Number

variable {σ : Type}

namespace Source

def keyPrefix : List Char := "query to contract ".toList

/-- The source that an attribute tells, if its key is one of a query. -/
def ofAttribute? (x : Attribute) : Option Source :=
  if keyPrefix <+: x.1.toList then
    some ⟨String.ofList (x.1.toList.drop keyPrefix.length), x.2⟩
  else none

theorem ofAttribute?_toAttribute (x : Source) : ofAttribute? x.toAttribute = some x := by
  have hkey : x.toAttribute.1.toList = keyPrefix ++ x.contract.toList := String.toList_append
  rw [ofAttribute?, hkey, if_pos (List.prefix_append _ _), List.drop_left, String.ofList_toList]
  rfl

/-- A query as the chain receives it, with the text of its message. -/
def ofQuery (q : String × WireQuery) : Source := ⟨q.1, q.2.text⟩

def IsQuery (x : Source) : Prop := x.contract ≠ Sourced.identityContract

instance (x : Source) : Decidable x.IsQuery := inferInstanceAs (Decidable (_ ≠ _))

end Source

namespace Response

/-- The sources that the attributes tell, in order. -/
def cited (r : Response) : List Source := r.attributes.filterMap Source.ofAttribute?

variable (r r' : Response)

@[simp] theorem cited_empty : Response.empty.cited = [] := rfl

@[simp] theorem cited_append : (r ++ r').cited = r.cited ++ r'.cited := List.filterMap_append

@[simp] theorem cited_forward (ms : List Message) : (r.forward ms).cited = r.cited := rfl

/-- The other attributes tell no query. -/
@[simp] theorem cited_add {key : String} (value : String)
    (h : key ∈ ["action", "note", "spend_limit_reduction"]) :
    (r.add key value).cited = r.cited := by
  have hnone : ∀ key ∈ ["action", "note", "spend_limit_reduction"],
      ¬ Source.keyPrefix <+: key.toList := by decide
  simp [cited, add, Source.ofAttribute?, hnone key h]

@[simp] theorem cited_addSources (x : Sourced) : (r.addSources x).cited = r.cited ++ x.sources := by
  have hall : x.attributes.filterMap Source.ofAttribute? = x.sources := by
    rw [Sourced.attributes, List.filterMap_map]
    have hsome : Source.ofAttribute? ∘ Source.toAttribute = some :=
      funext Source.ofAttribute?_toAttribute
    rw [hsome, List.filterMap_some]
  simp [cited, addSources, hall]

theorem cited_join (rs : List Response) : (join rs).cited = rs.flatMap cited := by
  induction rs with
  | nil => rfl
  | cons r rs ih => rw [join_cons, cited_append, ih, List.flatMap_cons]

end Response

section Conversion

variable {p : Pool} {x y : String} {reversed target : Bool} {n : Nat} {s t : σ} {out : Sourced}
  {coin : Coin}

theorem Registry.of_find? {ps : Registry} (h : ps.find? x y = some (p, reversed)) :
    p ∈ ps ∧ p.reversed? x y = some reversed := by
  rw [find?_eq] at h
  obtain ⟨first, hfirst, hmap⟩ := Option.bind_eq_some_iff.mp h
  obtain ⟨order, horder, hpair⟩ := Option.map_eq_some_iff.mp hmap
  obtain ⟨rfl, rfl⟩ := Prod.mk.inj hpair
  exact ⟨List.mem_of_find?_eq_some hfirst, horder⟩

theorem Pool.writable_of_priceQuery {q : PriceQuery} {flip : Bool}
    (h : p.priceQuery n flip target = .ok q) : Writable n := by
  by_cases hwritable : Writable n
  · exact hwritable
  · have herror : Error.numeralOf n = .error (.numeral .unwritable) := by
      unfold Error.numeralOf numeral
      simp only [if_neg hwritable]
    unfold priceQuery PriceRequest.toWire at h
    simp only [herror] at h
    cases h

/-- A price is from the one answer to the one question for it. -/
theorem Chain.price_yields {chain : Chain σ} (order : p.reversed? x y = some reversed)
    (h : Yields (chain.price p n reversed target target) s out t) :
    out.sources = [⟨p.contract, (p.question reversed target ⟨x, n⟩ y).text⟩] ∧
      t = (chain.query p.contract (p.question reversed target ⟨x, n⟩ y).wire s).2 := by
  rw [Yields, price, ask_mk, swapsSides_self] at h
  split at h
  · cases h
  next q hq =>
    rw [Pool.priceQuery_eq order (Pool.writable_of_priceQuery hq)] at hq
    obtain rfl := Except.ok.inj hq
    simp only at h
    split at h
    · cases h
    · obtain ⟨hout, rfl⟩ := Prod.mk.inj h
      obtain rfl := Except.ok.inj hout
      exact ⟨rfl, rfl⟩

/-- Where the worth of a coin is from, or with a target the amount that is worth it. The reference
denomination is worth itself; else the first pool of the pair is asked the one question. -/
inductive Converter.Cites (c : Converter σ) (coin : Coin) : Bool → Source → Prop where
  | identity (target : Bool) (same : coin.denom = c.reference) (side : String) :
      Cites c coin target ⟨Sourced.identityContract, "converted " ++ side ++ " to " ++ side⟩
  | worth {p : Pool} {reversed : Bool} (foreign : coin.denom ≠ c.reference)
      (found : c.registry.find? coin.denom c.reference = some (p, reversed)) :
      Cites c coin false ⟨p.contract, (p.question reversed false coin c.reference).text⟩
  | target {p : Pool} {reversed : Bool} (foreign : coin.denom ≠ c.reference)
      (found : c.registry.find? c.reference coin.denom = some (p, reversed)) :
      Cites c coin true
        ⟨p.contract, (p.question reversed true ⟨c.reference, coin.amount⟩ coin.denom).text⟩

variable {c : Converter σ}

theorem Converter.throughPool_yields (h : Yields (c.throughPool x y n target) s out t) :
    ∃ p reversed, c.registry.find? x y = some (p, reversed) ∧ p ∈ c.registry ∧
      out.sources = [⟨p.contract, (p.question reversed target ⟨x, n⟩ y).text⟩] ∧
      t = (c.chain.query p.contract (p.question reversed target ⟨x, n⟩ y).wire s).2 := by
  obtain ⟨⟨p, reversed⟩, u, hlift, h⟩ := yields_bind.mp h
  obtain ⟨hfind, rfl⟩ := yields_lift.mp hlift
  have hfound : c.registry.find? x y = some (p, reversed) := by
    unfold Registry.find at hfind
    split at hfind
    next found hfound => rw [hfound, Except.ok.inj hfind]
    · cases hfind
  obtain ⟨hmem, horder⟩ := Registry.of_find? hfound
  exact ⟨p, reversed, hfound, hmem, Chain.price_yields horder h⟩

/-- A conversion has one source: no query, or the one query that moves the chain. -/
theorem Converter.convert_yields (h : Yields (c.convert coin target) s out t) :
    ∃ source, c.Cites coin target source ∧ out.sources = [source] ∧
      (source.contract = Sourced.identityContract ∧ t = s ∨
        ∃ p q, p ∈ c.registry ∧ source = .ofQuery (p.contract, q) ∧
          t = (c.chain.query p.contract q s).2) := by
  unfold convert at h
  split at h
  next same =>
    obtain ⟨hidentity, rfl⟩ := yields_lift.mp h
    split at hidentity
    next known hknown =>
      obtain rfl := Except.ok.inj hidentity
      unfold Sourced.identity at hknown
      cases hn : numeral coin.amount with
      | error fault =>
        rw [hn] at hknown
        cases hknown
      | ok side =>
        rw [hn] at hknown
        cases hknown
        exact ⟨_, .identity target same _, rfl, .inl ⟨rfl, rfl⟩⟩
    · cases hidentity
  next foreign =>
    split at h
    next htarget =>
      obtain rfl : target = true := htarget
      obtain ⟨p, reversed, hfound, hmem, hsources, ht⟩ := throughPool_yields h
      exact ⟨_, .target foreign hfound, hsources, .inr ⟨p, _, hmem, rfl, ht⟩⟩
    next hvalue =>
      obtain rfl : target = false := by simpa using hvalue
      obtain ⟨p, reversed, hfound, hmem, hsources, ht⟩ := throughPool_yields h
      exact ⟨_, .worth foreign hfound, hsources, .inr ⟨p, _, hmem, rfl, ht⟩⟩

/-- Coins have one source each, in their order. -/
theorem Converter.Prices.cites {coins : List Coin} {xs : List Sourced}
    (h : c.Prices coins s xs t) :
    List.Forall₂ (fun coin source => c.Cites coin false source) coins
      (xs.flatMap Sourced.sources) := by
  induction h with
  | nil s => exact .nil
  | cons first rest ih =>
    obtain ⟨source, hcites, hsources, -⟩ := convert_yields first
    rw [List.flatMap_cons, hsources]
    exact .cons hcites ih

end Conversion

/-- What a message that passes cites: a source for the repayment, if it repays, and after it one for
each coin that it moves, in their order, if it is a spend. -/
structure Passage.Cites [Json.Nesting] (e : Engine σ) (s : Sending) (a : Account) (x : Passage σ)
    (repaid spent : List Source) : Prop where
  cited : x.added.cited = repaid ++ spent
  idle : x.before.feeDebt = 0 ∨ x.message.asset? = none → repaid = []
  repaid : ∀ asset, x.before.feeDebt ≠ 0 → x.message.asset? = some asset →
    ∃ source, repaid = [source] ∧
      (e.converter a).Cites ⟨asset.denom, x.before.feeDebt⟩ true source
  free : a.IsOwner s.sender ∨ x.message.Covered a s.sender → spent = []
  spent : ¬ a.IsOwner s.sender → ¬ x.message.Covered a s.sender →
    ∃ coins, x.message.Moves coins ∧
      List.Forall₂ (fun coin source => (e.converter a).Cites coin false source) coins spent

namespace Account

section Citing

variable {e : Engine σ} {s : Sending} {a b : Account} {m : Message} {mv : Movement} {r : Response}
  {repayments : List Message} {x : Passage σ} {c d : σ}

variable [Json.Nesting]

theorem Repays.cites_nothing (h : Repays e a mv c b r repayments d)
    (movement : Movement.ofMessage m = .ok mv) (idle : a.feeDebt = 0 ∨ m.asset? = none) :
    r.cited = [] := by
  cases h with
  | nothing => rfl
  | debt kind funds owed convertible price =>
    have hasset := (Message.asset?_eq_some_iff movement).mpr ⟨kind, by rw [funds, List.head?_cons]⟩
    rcases idle with hzero | hnone
    · exact absurd hzero owed
    · rw [hnone] at hasset
      cases hasset

theorem Repays.cites (h : Repays e a mv c b r repayments d)
    (movement : Movement.ofMessage m = .ok mv) {asset : Coin} (owed : a.feeDebt ≠ 0)
    (first : m.asset? = some asset) :
    ∃ source, r.cited = [source] ∧
      (e.converter a).Cites ⟨asset.denom, a.feeDebt⟩ true source := by
  obtain ⟨hkind, hhead⟩ := (Message.asset?_eq_some_iff movement).mp first
  cases h with
  | nothing idle =>
    refine absurd ⟨hkind, ?_, owed⟩ idle
    rintro hnil
    rw [hnil] at hhead
    cases hhead
  | debt kind funds owed convertible price =>
    rw [funds, List.head?_cons] at hhead
    obtain rfl := Option.some.inj hhead
    obtain ⟨source, hcites, hsources, -⟩ := Converter.convert_yields price
    exact ⟨source, by simp [hsources], hcites⟩

/-- Every message that passes cites its sources, as the account was before the batch. -/
theorem Passes.cites (frame : SpentBy s.sender a x.before)
    (h : Passes e s x.before x.message x.asked x.after x.added x.left) :
    ∃ repaid spent, x.Cites e s a repaid spent := by
  have hconverter := frame.converter (e := e)
  generalize hr : x.added = r at h
  generalize x.after = b at h
  generalize x.left = d at h
  cases h with
  | owner isOwner movement repays =>
    refine ⟨_, [], by rw [hr]; simp, repays.cites_nothing movement, ?_, fun _ => rfl, ?_⟩
    · rw [← hconverter]
      exact fun asset => repays.cites movement
    · exact fun notOwner => absurd (frame.isOwner_iff.mp isOwner) notOwner
  | covered notOwner covered =>
    have hcovered := frame.covered_iff.mp (covered_of_coveredByRule covered)
    refine ⟨[], [], by rw [hr]; simp, fun _ => rfl, ?_, fun _ => rfl, ?_⟩
    · obtain ⟨contract, msg, name, fields, rule, hmessage, -⟩ := hcovered
      intro asset _ first
      rw [hmessage] at first
      cases first
    · exact fun _ uncovered => absurd hcovered uncovered
  | spent notOwner movement uncovered priceable found valid repays debited numeral =>
    obtain ⟨xs, hprices, -, -, hsources⟩ := debit_yields debited
    rw [(repays.spentBy s.sender).converter, hconverter] at hprices
    refine ⟨_, xs.flatMap Sourced.sources, by rw [hr]; simp [hsources],
      repays.cites_nothing movement, ?_, ?_, ?_⟩
    · rw [← hconverter]
      exact fun asset => repays.cites movement
    · rintro (isOwner | covered)
      · exact absurd (frame.isOwner_iff.mpr isOwner) notOwner
      · have hcovered := coveredByRule_of_covered (frame.covered_iff.mpr covered)
        rw [uncovered] at hcovered
        cases hcovered
    · exact fun _ _ => ⟨_, (Movement.moves_of_priceable movement priceable).1, hprices.cites⟩

end Citing

end Account

/-- From one state of a noting chain to the other, the queries among the sources were made, and no
others. -/
def Noted (u v : σ × List (String × WireQuery)) (xs : List Source) : Prop :=
  v.2.map Source.ofQuery = u.2.map Source.ofQuery ++ xs.filter fun x => x.IsQuery

section Noted

variable {e : Engine σ} {s : Sending} {a b : Account} {m : Message} {mv : Movement} {r : Response}
  {repayments : List Message} {u v w : σ × List (String × WireQuery)} {xs ys : List Source}

theorem Noted.refl (u : σ × List (String × WireQuery)) : Noted u u [] := (List.append_nil _).symm

theorem Noted.trans (h : Noted u v xs) (k : Noted v w ys) : Noted u w (xs ++ ys) := by
  unfold Noted at *
  rw [k, h, List.filter_append, List.append_assoc]

theorem noted_convert {coin : Coin} {target : Bool} {out : Sourced}
    (named : ∀ p ∈ a.pools, p.contract ≠ Sourced.identityContract)
    (h : Yields ((e.noting.converter a).convert coin target) u out v) : Noted u v out.sources := by
  obtain ⟨source, -, hsources, hstep⟩ := Converter.convert_yields h
  rw [hsources]
  rcases hstep with ⟨hidentity, rfl⟩ | ⟨p, q, hp, rfl, rfl⟩
  · simp [Noted, Source.IsQuery, hidentity]
  · have hquery : (Source.ofQuery (p.contract, q)).IsQuery := named p hp
    simp [Noted, Engine.noting, Engine.converter, Chain.logged, hquery]

theorem noted_prices {coins : List Coin} {outs : List Sourced}
    (named : ∀ p ∈ a.pools, p.contract ≠ Sourced.identityContract)
    (h : (e.noting.converter a).Prices coins u outs v) :
    Noted u v (outs.flatMap Sourced.sources) := by
  induction h with
  | nil u => exact .refl u
  | cons first rest ih => exact (noted_convert named first).trans ih

namespace Account

theorem Repays.noted (named : ∀ p ∈ a.pools, p.contract ≠ Sourced.identityContract)
    (h : Repays e.noting a mv u b r repayments v) : Noted u v r.cited := by
  cases h with
  | nothing idle => exact .refl u
  | debt kind funds owed convertible price => simpa using noted_convert named price

variable [Json.Nesting]

theorem Passes.noted (named : ∀ p ∈ a.pools, p.contract ≠ Sourced.identityContract)
    (h : Passes e.noting s a m u b r v) : Noted u v r.cited := by
  cases h with
  | owner isOwner movement repays => simpa using repays.noted named
  | covered notOwner covered => exact .refl u
  | spent notOwner movement uncovered priceable found valid repays debited numeral =>
    obtain ⟨outs, hprices, -, -, hsources⟩ := debit_yields debited
    rw [(repays.spentBy s.sender).converter] at hprices
    simpa [hsources] using (repays.noted named).trans (noted_prices named hprices)

/-- Over a batch, the noted queries are those that the responses cite one after another. -/
theorem Trail.noted {ps : List (Passage (σ × List (String × WireQuery)))}
    (named : ∀ p ∈ a.pools, p.contract ≠ Sourced.identityContract)
    (h : Trail e.noting s a u ps b v) :
    Noted u v (Response.join (ps.map Passage.added)).cited := by
  induction h with
  | nil a u => exact .refl u
  | cons passes rest ih =>
    have hrest := ih (by rwa [passes.spentBy.pools])
    simpa using (passes.noted named).trans hrest

end Account

theorem Engine.alike_noting (e : Engine σ) : e.Alike (fun c u => u.1 = c) e.noting where
  reference := rfl
  chain := {
    answer := by
      rintro contract q c u rfl
      rfl
    next := by
      rintro contract q c u rfl
      rfl }

variable [Json.Nesting]

/-- The queries of an accepted batch are those that its response cites. -/
theorem Call.map_queries {ms : List Message} {c d : σ}
    (named : ∀ p ∈ a.pools, p.contract ≠ Sourced.identityContract)
    (accepted : ((execute e a s ms).run c).run = ((.ok r, b), d)) :
    ((Call.mk (.execute s ms) c).queries e a).map Source.ofQuery =
      r.cited.filter fun x => x.IsQuery := by
  obtain ⟨hanswer, -⟩ := (LikeFor.refl s.sender a).run_execute e.alike_noting
    (c := c) (d := (c, [])) rfl ms
  rw [accepted] at hanswer
  unfold queries
  rw [performed_execute]
  rcases hrun : ((execute e.noting a s ms).run (c, [])).run with ⟨⟨_ | r', b'⟩, u⟩
  · rw [hrun] at hanswer
    cases hanswer
  · rw [hrun] at hanswer
    obtain rfl := Except.ok.inj hanswer
    obtain ⟨htrail, -, hresponse⟩ := execute_accepted hrun
    have hnoted := htrail.noted named
    rw [← hresponse] at hnoted
    simpa [Noted] using hnoted

end Noted

namespace Account

section Covered

variable {e : Engine σ} {s : Sending} {a : Account} {m : Message} {ms : List Message}
  {r : Response}

variable [Json.Nesting]

/-- A message that a rule covers asks nothing and leaves the account alone, whoever sends it. -/
theorem executeMessage_of_covered (covered : m.Covered a s.sender) :
    (∃ err, executeMessage e s ⟨a, r⟩ m = throw err) ∨
      ∃ r', executeMessage e s ⟨a, r⟩ m = pure ⟨a, r'⟩ := by
  cases hmv : Movement.ofMessage m with
  | error err =>
    refine .inl ⟨err, ?_⟩
    rw [executeMessage, hmv]
    rfl
  | ok mv =>
    refine .inr ?_
    have hrule := coveredByRule_of_covered covered
    have hidle : ¬ (mv.kind = .bankSend ∧ mv.funds ≠ [] ∧ a.feeDebt ≠ 0) := by
      rintro ⟨hkind, -⟩
      obtain ⟨contract, msg, name, fields, rule, rfl, -⟩ := covered
      obtain ⟨recipient, coins, hsend⟩ := exists_bankSend_of_kind hmv hkind
      cases hsend
    by_cases howner : a.IsOwner s.sender
    · rw [executeMessage, hmv, lift_ok_bind, if_pos howner, executeAsOwner, repayWith_idle hidle]
      exact ⟨_, rfl⟩
    · rw [executeMessage, hmv, lift_ok_bind, if_neg howner, executeAsOther, hrule, lift_ok_bind]
      exact ⟨_, rfl⟩

theorem still_executeAll_of_covered (covered : ∀ m ∈ ms, m.Covered a s.sender) :
    Still (executeAll e s ⟨a, r⟩ ms) := by
  induction ms generalizing r with
  | nil => exact still_pure _
  | cons m ms ih =>
    obtain ⟨hm, hms⟩ := List.forall_mem_cons.mp covered
    rw [executeAll]
    rcases executeMessage_of_covered (e := e) (r := r) hm with ⟨err, herr⟩ | ⟨r', hr'⟩
    · rw [herr]
      exact still_throw err
    · rw [hr', pure_bind]
      exact ih hms

end Covered

variable [Json.Nesting]

/-- The attributes of an accepted batch tell its queries in order, each as often as it was made, as
long as no pool goes by the name of the identity. They come message by message, and each message
cites what it repays and what it spends. A batch that rules cover, or the owner's without a debt,
asks nothing. -/
theorem audit_trail {e : Engine σ} {a : Account}
    (named : ∀ p ∈ a.pools, p.contract ≠ Sourced.identityContract) (s : Sending)
    (ms : List Message) (c : σ) :
    (∀ r b d, ((execute e a s ms).run c).run = ((.ok r, b), d) →
      ((Call.mk (.execute s ms) c).queries e a).map Source.ofQuery =
          r.cited.filter (fun x => x.IsQuery) ∧
        (passages e s a c ms).map Passage.message = ms ∧
        r.cited = (passages e s a c ms).flatMap (fun x => x.added.cited) ∧
        ∀ x ∈ passages e s a c ms, ∃ repaid spent, x.Cites e s a repaid spent) ∧
      ((∀ m ∈ ms, m.Covered a s.sender) ∨ a.IsOwner s.sender ∧ a.feeDebt = 0 →
        (Call.mk (.execute s ms) c).queries e a = []) := by
  refine ⟨fun r b d accepted => ⟨Call.map_queries named accepted, ?_⟩, ?_⟩
  · obtain ⟨htrail, hmessages, hresponse⟩ := execute_accepted accepted
    refine ⟨hmessages, ?_, ?_⟩
    · rw [hresponse, Response.cited_join, List.flatMap_map]
    · intro x hx
      obtain ⟨hframe, hpasses⟩ := htrail.of_mem hx
      exact hpasses.cites hframe
  · rintro (covered | ⟨isOwner, clear⟩)
    · exact queries_of_still c (still_executeAll_of_covered covered)
    · exact queries_of_still c (still_executeAll_of_owner isOwner clear)

end Account

namespace Sample

/-- A pool for the tokens, which always answers the same. -/
def traded : Account := { account with pools := [⟨"pool", "uloop", "uusd", .simulation⟩] }

def answering : Engine Unit :=
  ⟨Canned.chain [⟨"pool", none, .response (.obj [("return_amount", .int 6),
    ("offer_amount", .int 4), ("commission_amount", .int 1)])⟩], "uusd"⟩

def purchase : Message := .bankSend "shop" [⟨"uloop", 5⟩, ⟨"uusd", 3⟩]

end Sample

/-- A purchase that first repays the debt cites three sources, and the last one is no query; a claim
asks nothing. -/
theorem Account.audit_trail_purchase :
    ∃ r b, ((execute Sample.answering Sample.traded Sample.late
        [Sample.claim, Sample.purchase]).run ()).run = ((.ok r, b), ()) ∧
      ((Call.mk (.execute Sample.late [Sample.claim, Sample.purchase]) ()).queries
        Sample.answering Sample.traded).map Source.ofQuery = r.cited.filter (fun x => x.IsQuery) ∧
      r.cited.map Source.contract = ["pool", "pool", Sourced.identityContract] ∧
      (Call.mk (.execute Sample.late [Sample.claim]) ()).queries
        Sample.answering Sample.traded = [] := by
  have hcited : ((execute Sample.answering Sample.traded Sample.late
      [Sample.claim, Sample.purchase]).run ()).run.1.1.toOption.map
        (fun r => r.cited.map Source.contract) =
          some ["pool", "pool", Sourced.identityContract] := by decide +kernel
  rcases h : ((execute Sample.answering Sample.traded Sample.late
    [Sample.claim, Sample.purchase]).run ()).run with ⟨⟨_ | r, b⟩, ⟨⟩⟩
  · rw [h] at hcited
    cases hcited
  · rw [h] at hcited
    have hnamed : ∀ p ∈ Sample.traded.pools, p.contract ≠ Sourced.identityContract := by decide
    have hcovered : ∀ m ∈ [Sample.claim], m.Covered Sample.traded "spender" := by
      intro m hm
      obtain rfl := List.mem_singleton.mp hm
      exact covered_of_coveredByRule (by decide +kernel)
    obtain ⟨hqueries, -⟩ := (audit_trail (e := Sample.answering) hnamed Sample.late
      [Sample.claim, Sample.purchase] ()).1 r b () h
    have hnone := (audit_trail (e := Sample.answering) hnamed Sample.late
      [Sample.claim] ()).2 (.inl hcovered)
    exact ⟨r, b, rfl, hqueries, Option.some.inj hcited, hnone⟩

end AllowanceProxy
