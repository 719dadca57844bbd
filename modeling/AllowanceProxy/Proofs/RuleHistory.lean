import AllowanceProxy.Proofs.Grants
import AllowanceProxy.Proofs.Reachable
import AllowanceProxy.Proofs.Repayment
import Mathlib.Data.List.Induction

/-!
The rule book and its history. The book holds each key at most once, and after any calls it holds
the additions that survive them, in their order: those of a key that was not in force, and that no
later call removes.
-/
namespace AllowanceProxy

open Account

namespace RuleBook

/-- A call on the book. -/
inductive Change where
  | add (rule : Rule)
  | remove (rule : Rule)
  deriving DecidableEq

def Change.rule : Change → Rule
  | .add r => r
  | .remove r => r

/-- The book after a call; one that fails leaves it as it is. -/
def changed (rules : RuleBook) : Change → RuleBook
  | .add r =>
    match rules.add r with
    | .ok more => more
    | .error _ => rules
  | .remove r =>
    match rules.remove r with
    | .ok (_, rest) => rest
    | .error _ => rules

def changedAll (rules : RuleBook) (cs : List Change) : RuleBook := cs.foldl changed rules

/-- Whether a key is in force after calls: the last of them on the key is an addition. -/
def inForce (r : Rule) (cs : List Change) : Bool :=
  match cs.reverse.find? fun c => c.rule.key = r.key with
  | some (.add _) => true
  | _ => false

/-- Whether some call removes a key. -/
def removes (r : Rule) (cs : List Change) : Bool :=
  cs.any fun
    | .remove x => x.key = r.key
    | .add _ => false

/-- The additions among calls that survive, in their order; other calls came before. -/
def survivors (before : List Change) : List Change → List Rule
  | [] => []
  | c :: after =>
    let rest := survivors (before ++ [c]) after
    match c with
    | .add r => if !inForce r before && !removes r after then r :: rest else rest
    | .remove _ => rest

section Keys

variable {rules rest : RuleBook} {r r' x : Rule}

theorem hasKey_iff : rules.hasKey r = true ↔ r.key ∈ rules.map Rule.key := by
  simp [hasKey, List.mem_map, Rule.key_eq_iff]

theorem add_of_mem (known : r.key ∈ rules.map Rule.key) :
    rules.add r = .error .authorizationExists := if_pos (hasKey_iff.mpr known)

theorem add_of_notMem (new : r.key ∉ rules.map Rule.key) : rules.add r = .ok (rules ++ [r]) := by
  rw [add, if_neg (by rwa [hasKey_iff])]

theorem extract?_eq_none_iff : rules.extract? r = none ↔ r.key ∉ rules.map Rule.key := by
  induction rules with
  | nil => simp [extract?]
  | cons y ys ih =>
    rw [extract?]
    split
    next hsame => simp [Rule.key_eq_iff.mpr hsame]
    next hother =>
      have hne : r.key ≠ y.key := fun h => hother (Rule.key_eq_iff.mp h.symm)
      simp [ih, hne]

/-- What is taken out is the first rule of the key. -/
theorem exists_of_extract? (h : rules.extract? r = some (x, rest)) :
    ∃ pre post, rules = pre ++ x :: post ∧ rest = pre ++ post ∧ x.key = r.key ∧
      r.key ∉ pre.map Rule.key := by
  induction rules generalizing rest with
  | nil => cases h
  | cons y ys ih =>
    rw [extract?] at h
    split at h
    next hsame =>
      cases h
      exact ⟨[], ys, rfl, rfl, Rule.key_eq_iff.mpr hsame, by simp⟩
    next hother =>
      obtain ⟨⟨x', rest'⟩, hrest, heq⟩ := Option.map_eq_some_iff.mp h
      obtain ⟨rfl, rfl⟩ := Prod.mk.inj heq
      obtain ⟨pre, post, rfl, rfl, hkey, hpre⟩ := ih hrest
      have hne : r.key ≠ y.key := fun h => hother (Rule.key_eq_iff.mp h.symm)
      exact ⟨y :: pre, post, rfl, rfl, hkey, by simp [hne, hpre]⟩

theorem remove_of_notMem (unknown : r.key ∉ rules.map Rule.key) :
    rules.remove r = .error .noSuchAuthorization := by
  rw [remove, extract?_eq_none_iff.mpr unknown]

/-- Where no key is held twice, none of the key is left. -/
theorem remove_of_mem (distinct : (rules.map Rule.key).Nodup) (known : r.key ∈ rules.map Rule.key) :
    ∃ pre x post, rules = pre ++ x :: post ∧ x.key = r.key ∧
      rules.remove r = .ok (x, pre ++ post) ∧ r.key ∉ (pre ++ post).map Rule.key := by
  cases hx : rules.extract? r with
  | none => exact absurd known (extract?_eq_none_iff.mp hx)
  | some found =>
    obtain ⟨x, rest⟩ := found
    obtain ⟨pre, post, rfl, rfl, hkey, hpre⟩ := exists_of_extract? hx
    refine ⟨pre, x, post, rfl, hkey, by rw [remove, hx], ?_⟩
    rw [List.map_append, List.map_cons, List.nodup_middle, List.nodup_cons, hkey,
      ← List.map_append] at distinct
    exact distinct.1

/-- A rule that was just added is the one that is removed, by whatever rule of its key. -/
theorem remove_append (new : r.key ∉ rules.map Rule.key) (same : r'.key = r.key) :
    remove (rules ++ [r]) r' = .ok (r, rules) := by
  have hextract : extract? (rules ++ [r]) r' = some (r, rules) := by
    induction rules with
    | nil => simp [extract?, Rule.key_eq_iff.mp same.symm]
    | cons y ys ih =>
      rw [List.map_cons, List.mem_cons, not_or] at new
      have hother : ¬ y.SameKey r' := fun h => new.1 (same ▸ (Rule.key_eq_iff.mpr h).symm)
      rw [List.cons_append, extract?, if_neg hother, ih new.2]
      rfl
  rw [remove, hextract]

end Keys

section History

variable {rules : RuleBook} {r : Rule} {cs : List Change}

theorem changed_add (rules : RuleBook) (r : Rule) :
    rules.changed (.add r) = if r.key ∈ rules.map Rule.key then rules else rules ++ [r] := by
  by_cases hknown : r.key ∈ rules.map Rule.key
  · rw [changed, add_of_mem hknown, if_pos hknown]
  · rw [changed, add_of_notMem hknown, if_neg hknown]

theorem filter_key_of_notMem (h : r.key ∉ rules.map Rule.key) :
    rules.filter (fun x => x.key ≠ r.key) = rules := by
  rw [List.filter_eq_self]
  intro x hx
  have hne : x.key ≠ r.key := fun hkey => h (hkey ▸ List.mem_map_of_mem hx)
  simpa using hne

theorem changed_remove (distinct : (rules.map Rule.key).Nodup) (r : Rule) :
    rules.changed (.remove r) = rules.filter fun x => x.key ≠ r.key := by
  by_cases hknown : r.key ∈ rules.map Rule.key
  · obtain ⟨pre, x, post, rfl, hkey, hremove, hrest⟩ := remove_of_mem distinct hknown
    have hdropped := filter_key_of_notMem hrest
    rw [changed, hremove]
    simp_all [List.filter_append]
  · rw [changed, remove_of_notMem hknown, filter_key_of_notMem hknown]

/-- No call makes the book hold a key twice. -/
theorem distinct_changed (distinct : (rules.map Rule.key).Nodup) (c : Change) :
    ((rules.changed c).map Rule.key).Nodup := by
  cases c with
  | add r =>
    rw [changed_add]
    split
    · exact distinct
    next hnew =>
      rw [List.map_append, List.nodup_append]
      refine ⟨distinct, by simp, ?_⟩
      rintro key hkey key' hkey' rfl
      obtain rfl : key = r.key := by simpa using hkey'
      exact hnew hkey
  | remove r =>
    rw [changed_remove distinct]
    exact distinct.sublist ((List.filter_sublist).map Rule.key)

theorem changedAll_concat (rules : RuleBook) (cs : List Change) (c : Change) :
    rules.changedAll (cs ++ [c]) = (rules.changedAll cs).changed c := by
  simp [changedAll]

theorem distinct_changedAll (cs : List Change) :
    ((changedAll [] cs).map Rule.key).Nodup := by
  induction cs using List.reverseRecOn with
  | nil => exact List.nodup_nil
  | append_singleton cs c ih =>
    rw [changedAll_concat]
    exact distinct_changed ih c

theorem inForce_concat_add (r x : Rule) (cs : List Change) :
    inForce r (cs ++ [.add x]) = (decide (x.key = r.key) || inForce r cs) := by
  by_cases hkey : x.key = r.key <;> simp [inForce, Change.rule, hkey]

theorem inForce_concat_remove (r x : Rule) (cs : List Change) :
    inForce r (cs ++ [.remove x]) = (!decide (x.key = r.key) && inForce r cs) := by
  by_cases hkey : x.key = r.key <;> simp [inForce, Change.rule, hkey]

/-- The book holds the keys that are in force, as the last call on each key decides. -/
theorem mem_changedAll_iff (r : Rule) (cs : List Change) :
    r.key ∈ (changedAll [] cs).map Rule.key ↔ inForce r cs = true := by
  induction cs using List.reverseRecOn with
  | nil => simp [changedAll, inForce]
  | append_singleton cs c ih =>
    rw [changedAll_concat]
    cases c with
    | add x =>
      rw [changed_add, inForce_concat_add, Bool.or_eq_true, ← ih, decide_eq_true_eq]
      split
      next hknown => exact ⟨.inr, fun h => h.elim (fun hkey => hkey ▸ hknown) id⟩
      next => simp [or_comm, eq_comm]
    | remove x =>
      rw [changed_remove (distinct_changedAll cs), inForce_concat_remove, Bool.and_eq_true, ← ih]
      simp only [List.mem_map, List.mem_filter, Bool.not_eq_true', decide_eq_false_iff_not,
        decide_eq_true_eq]
      grind

theorem removes_concat_add (r x : Rule) (cs : List Change) :
    removes r (cs ++ [.add x]) = removes r cs := by
  simp [removes]

theorem removes_concat_remove (r x : Rule) (cs : List Change) :
    removes r (cs ++ [.remove x]) = (removes r cs || decide (x.key = r.key)) := by
  simp [removes]

theorem survivors_concat_add (before cs : List Change) (r : Rule) :
    survivors before (cs ++ [.add r]) =
      survivors before cs ++ if inForce r (before ++ cs) then [] else [r] := by
  induction cs generalizing before with
  | nil => cases h : inForce r before <;> simp [survivors, removes, h]
  | cons c cs ih =>
    have hrest := ih (before ++ [c])
    rw [List.append_assoc, List.singleton_append] at hrest
    cases c with
    | add x =>
      simp only [List.cons_append, survivors, removes_concat_add, hrest]
      split <;> rfl
    | remove x => simp only [List.cons_append, survivors, hrest]

/-- A removal takes every rule of its key out of the survivors. -/
theorem survivors_concat_remove (before cs : List Change) (r : Rule) :
    survivors before (cs ++ [.remove r]) =
      (survivors before cs).filter fun x => x.key ≠ r.key := by
  induction cs generalizing before with
  | nil => rfl
  | cons c cs ih =>
    cases c with
    | add x =>
      have hsame : (r.key = x.key) = (x.key = r.key) := propext eq_comm
      simp only [List.cons_append, survivors, removes_concat_remove, ih, hsame]
      by_cases hkey : x.key = r.key
      · cases inForce x before <;> cases removes x cs <;> simp [hkey]
      · cases inForce x before <;> cases removes x cs <;> simp [hkey]
    | remove x => simp only [List.cons_append, survivors, ih]

/-- By induction from the last call: an addition comes behind the others unless its key is in
force, and a removal takes out the one rule of its key. -/
theorem changedAll_eq_survivors (cs : List Change) : changedAll [] cs = survivors [] cs := by
  induction cs using List.reverseRecOn with
  | nil => rfl
  | append_singleton cs c ih =>
    have hforce (r : Rule) := mem_changedAll_iff r cs
    have hdistinct := distinct_changedAll cs
    rw [changedAll_concat]
    rw [ih] at hforce hdistinct ⊢
    cases c with
    | add r =>
      rw [changed_add, survivors_concat_add, List.nil_append]
      simp only [hforce]
      split
      · rw [List.append_nil]
      · rfl
    | remove r => rw [changed_remove hdistinct, survivors_concat_remove]

end History

/-- A book that holds no key twice, with the answers to the calls on it. -/
structure Keyed (rules : RuleBook) : Prop where
  distinct : (rules.map Rule.key).Nodup
  add_known : ∀ r : Rule, r.key ∈ rules.map Rule.key → rules.add r = .error .authorizationExists
  add_new : ∀ r : Rule, r.key ∉ rules.map Rule.key → rules.add r = .ok (rules ++ [r])
  remove_unknown : ∀ r : Rule, r.key ∉ rules.map Rule.key →
    rules.remove r = .error .noSuchAuthorization
  remove_known : ∀ r : Rule, r.key ∈ rules.map Rule.key → ∃ pre x post,
    rules = pre ++ x :: post ∧ x.key = r.key ∧ rules.remove r = .ok (x, pre ++ post) ∧
      r.key ∉ (pre ++ post).map Rule.key
  restored : ∀ r r' : Rule, r.key ∉ rules.map Rule.key → r'.key = r.key →
    remove (rules ++ [r]) r' = .ok (r, rules)

theorem keyed_of_distinct {rules : RuleBook} (distinct : (rules.map Rule.key).Nodup) :
    Keyed rules where
  distinct := distinct
  add_known _ := add_of_mem
  add_new _ := add_of_notMem
  remove_unknown _ := remove_of_notMem
  remove_known _ := remove_of_mem distinct
  restored _ _ := remove_append

end RuleBook

section Calls

variable {σ : Type} {e : Engine σ} {a b : Account} {k : Call σ} {sender : String} {r : Rule}

/-- The change to the rule book that a call of the owner stands for. -/
def Call.ruleChanges (a : Account) (k : Call σ) : List RuleBook.Change :=
  match k.operation with
  | .addRule sender r => if a.IsOwner sender then [.add r] else []
  | .removeRule sender r => if a.IsOwner sender then [.remove r] else []
  | _ => []

namespace Account

theorem asOwner_of_isOwner (owner : a.IsOwner sender) (act : Outcome Account Response) :
    a.asOwner sender act = act := if_pos owner

theorem asOwner_of_not_isOwner (other : ¬ a.IsOwner sender) (act : Outcome Account Response) :
    a.asOwner sender act = (.error .notOwner, a) := if_neg other

theorem rules_addRule (a : Account) (sender : String) (r : Rule) :
    (a.addRule sender r).2.rules =
      if a.IsOwner sender then RuleBook.changed a.rules (.add r) else a.rules := by
  by_cases howner : a.IsOwner sender
  · rw [addRule, asOwner_of_isOwner howner, if_pos howner, RuleBook.changed]
    rcases RuleBook.add a.rules r with err | more <;> rfl
  · rw [addRule, asOwner_of_not_isOwner howner, if_neg howner]

theorem rules_removeRule (a : Account) (sender : String) (r : Rule) :
    (a.removeRule sender r).2.rules =
      if a.IsOwner sender then RuleBook.changed a.rules (.remove r) else a.rules := by
  by_cases howner : a.IsOwner sender
  · rw [removeRule, asOwner_of_isOwner howner, if_pos howner, RuleBook.changed]
    rcases RuleBook.remove a.rules r with err | ⟨x, rest⟩ <;> rfl
  · rw [removeRule, asOwner_of_not_isOwner howner, if_neg howner]

variable [Json.Nesting]

/-- No other operation touches the rule book. -/
theorem Effect.rules {o : Operation} (h : Effect e a o b) (notAdded : ∀ x r, o ≠ .addRule x r)
    (notRemoved : ∀ x r, o ≠ .removeRule x r) : b.rules = a.rules := by
  cases h with
  | execute trail messages => exact trail.spentBy.rules
  | addRule isOwner fresh => exact absurd rfl (notAdded _ _)
  | removeRule isOwner found => exact absurd rfl (notRemoved _ _)
  | _ => rfl

end Account

variable [Json.Nesting]

theorem Call.rules_after_of_other (notAdded : ∀ x r, k.operation ≠ .addRule x r)
    (notRemoved : ∀ x r, k.operation ≠ .removeRule x r) : (k.after e a).rules = a.rules := by
  rcases k.effect_or_refused e a with heffect | hrefused
  · exact heffect.rules notAdded notRemoved
  · rw [hrefused]

/-- One call: the rule book changes as the owner's change to it says, if it is one. -/
theorem Call.rules_after (e : Engine σ) (a : Account) (k : Call σ) :
    (k.after e a).rules = RuleBook.changedAll a.rules (k.ruleChanges a) := by
  obtain ⟨o, c⟩ := k
  cases o with
  | addRule sender r =>
    refine (rules_addRule a sender r).trans ?_
    unfold ruleChanges
    by_cases howner : a.IsOwner sender <;> simp [howner, RuleBook.changedAll]
  | removeRule sender r =>
    refine (rules_removeRule a sender r).trans ?_
    unfold ruleChanges
    by_cases howner : a.IsOwner sender <;> simp [howner, RuleBook.changedAll]
  | _ => exact rules_after_of_other (fun _ _ h => nomatch h) (fun _ _ h => nomatch h)

/-- A whole run: what the owner changed of the rule book is all that has become of it. -/
theorem rules_afterAll (e : Engine σ) (a : Account) (ks : List (Call σ)) :
    (afterAll e a ks).rules = RuleBook.changedAll a.rules (collect e Call.ruleChanges a ks) := by
  induction ks generalizing a with
  | nil => rfl
  | cons k ks ih =>
    rw [afterAll, ih, k.rules_after, collect]
    unfold RuleBook.changedAll
    rw [List.foldl_append]

/-- How an account answers the calls of its owner on the rule book. -/
structure Account.BookAnswers (e : Engine σ) (a : Account) : Prop where
  add_known : ∀ (r : Rule) (c : σ), r.key ∈ a.rules.map Rule.key →
    performed e a (.addRule a.owner r) c = ((.error .authorizationExists, a), c)
  add_new : ∀ (r : Rule) (c : σ), r.key ∉ a.rules.map Rule.key →
    performed e a (.addRule a.owner r) c =
      ((.ok (.response (.action "add_authorization")), { a with rules := a.rules ++ [r] }), c)
  remove_unknown : ∀ (r : Rule) (c : σ), r.key ∉ a.rules.map Rule.key →
    performed e a (.removeRule a.owner r) c = ((.error .noSuchAuthorization, a), c)
  remove_known : ∀ (r : Rule) (c : σ), r.key ∈ a.rules.map Rule.key → ∃ pre x post,
    a.rules = pre ++ x :: post ∧ x.key = r.key ∧ r.key ∉ (pre ++ post).map Rule.key ∧
      performed e a (.removeRule a.owner r) c =
        ((.ok (.response (.action "rm_authorization")), { a with rules := pre ++ post }), c)
  restored : ∀ (r r' : Rule) (c d : σ), r.key ∉ a.rules.map Rule.key → r'.key = r.key →
    performed e (Call.after e a ⟨.addRule a.owner r, c⟩) (.removeRule a.owner r') d =
      ((.ok (.response (.action "rm_authorization")), a), d)

theorem performed_addRule (e : Engine σ) (a : Account) (r : Rule) (c : σ) :
    performed e a (.addRule sender r) c = (answering (a.addRule sender r), c) := rfl

theorem performed_removeRule (e : Engine σ) (a : Account) (r : Rule) (c : σ) :
    performed e a (.removeRule sender r) c = (answering (a.removeRule sender r), c) := rfl

theorem RuleBook.Keyed.bookAnswers (h : RuleBook.Keyed a.rules) (e : Engine σ) :
    a.BookAnswers e where
  add_known r c known := by
    rw [performed_addRule, addRule, asOwner_of_isOwner rfl, h.add_known r known]
    rfl
  add_new r c new := by
    rw [performed_addRule, addRule, asOwner_of_isOwner rfl, h.add_new r new]
    rfl
  remove_unknown r c unknown := by
    rw [performed_removeRule, removeRule, asOwner_of_isOwner rfl, h.remove_unknown r unknown]
    rfl
  remove_known r c known := by
    obtain ⟨pre, x, post, hrules, hkey, hremove, hgone⟩ := h.remove_known r known
    refine ⟨pre, x, post, hrules, hkey, hgone, ?_⟩
    rw [performed_removeRule, removeRule, asOwner_of_isOwner rfl, hremove]
    rfl
  restored r r' c d new same := by
    have hadded : Call.after e a ⟨.addRule a.owner r, c⟩ = { a with rules := a.rules ++ [r] } := by
      rw [Call.after, performed_addRule, addRule, asOwner_of_isOwner rfl, h.add_new r new]
      rfl
    have hremoved := h.restored r r' new same
    rw [hadded, performed_removeRule, removeRule, asOwner_of_isOwner rfl, hremoved]
    rfl

/-- After any calls on an empty book its keys are distinct and its rules are the additions that
survive, in their order; a key that is held is refused, one that is not held cannot be removed, and
a removal takes the one rule of its key. So it is with the book of an account, whose rules are
those of the changes its owner made. -/
theorem rules_keyed (e : Engine σ) (a : Account) (ks : List (Call σ)) (fresh : a.rules = []) :
    (∀ r r' : Rule, r.key = r'.key ↔ r.actor = r'.actor ∧ r.contract = r'.contract ∧
      r.messageName = r'.messageName ∧ ∀ pin, pin ∈ r.fields.getD [] ↔ pin ∈ r'.fields.getD []) ∧
    (∀ cs, RuleBook.changedAll [] cs = RuleBook.survivors [] cs ∧
      RuleBook.Keyed (RuleBook.changedAll [] cs)) ∧
    (afterAll e a ks).rules = RuleBook.survivors [] (collect e Call.ruleChanges a ks) ∧
    RuleBook.Keyed (afterAll e a ks).rules ∧ (afterAll e a ks).BookAnswers e := by
  have hkeyed (cs : List RuleBook.Change) : RuleBook.Keyed (RuleBook.changedAll [] cs) :=
    RuleBook.keyed_of_distinct (RuleBook.distinct_changedAll cs)
  have hrules := rules_afterAll e a ks
  rw [fresh] at hrules
  have hbook : RuleBook.Keyed (afterAll e a ks).rules := hrules ▸ hkeyed _
  refine ⟨?_, fun cs => ⟨RuleBook.changedAll_eq_survivors cs, hkeyed cs⟩,
    hrules.trans (RuleBook.changedAll_eq_survivors _), hbook, hbook.bookAnswers e⟩
  intro r r'
  rw [Rule.key_eq_iff]
  unfold Rule.SameKey Rule.pins
  grind

end Calls

/-- A rule of two pins, the same in the other order, and one without pins. -/
def Sample.pinned : Rule := ⟨"friend", "farm", "claim", some [("to", "a"), ("of", "b")]⟩

def Sample.swapped : Rule := ⟨"friend", "farm", "claim", some [("of", "b"), ("to", "a")]⟩

def Sample.unpinned : Rule := ⟨"friend", "farm", "claim", some []⟩

/-- The owner adds, in vain for a key that is held, and removes; a stranger changes nothing. -/
def Sample.ruling : List (Call Unit) :=
  [⟨.addRule "owner" pinned, ()⟩, ⟨.addRule "owner" swapped, ()⟩,
    ⟨.addRule "owner" unpinned, ()⟩, ⟨.removeRule "stranger" pinned, ()⟩,
    ⟨.removeRule "owner" swapped, ()⟩, ⟨.removeRule "owner" pinned, ()⟩,
    ⟨.addRule "owner" swapped, ()⟩]

/-- The key that was removed comes back behind the others. -/
theorem rules_keyed_ruling :
    Sample.founded.rules = [] ∧
      (afterAll Sample.engine Sample.founded Sample.ruling).rules =
        [Sample.unpinned, Sample.swapped] ∧
      (afterAll Sample.engine Sample.founded Sample.ruling).BookAnswers Sample.engine := by
  obtain ⟨-, -, hrules, -, hanswers⟩ :=
    rules_keyed Sample.engine Sample.founded Sample.ruling rfl
  exact ⟨rfl, hrules.trans (by decide +kernel), hanswers⟩

end AllowanceProxy
