import AllowanceProxy.Message.Payload
import AllowanceProxy.Rule.Basic

/-! The rule book: rules in the order of their additions, no two with the same key. -/
namespace AllowanceProxy

abbrev RuleBook := List Rule

namespace RuleBook

def hasKey (rules : RuleBook) (r : Rule) : Bool := rules.any fun x => x.SameKey r

def add (rules : RuleBook) (r : Rule) : Except Error RuleBook :=
  if rules.hasKey r then .error .authorizationExists else .ok (rules ++ [r])

/-- The first rule with the key, and the others. -/
def extract? : RuleBook → Rule → Option (Rule × RuleBook)
  | [], _ => none
  | x :: xs, r =>
    if x.SameKey r then some (x, xs)
    else (extract? xs r).map fun p => (p.1, x :: p.2)

def remove (rules : RuleBook) (r : Rule) : Except Error (Rule × RuleBook) :=
  match rules.extract? r with
  | some found => .ok found
  | none => .error .noSuchAuthorization

/-- The first rule that covers a message, of the book and then of the actor's own rules. -/
def covering? (rules : RuleBook) (actor contract : String) (messageName : LooseText)
    (fields : Members) (own : List Rule) : Option Rule :=
  List.find? (fun r => decide (Rule.Covers r actor contract messageName fields)) (rules ++ own)

/-- What a payload is allowed by, or why it is not. -/
inductive Verdict where
  | allowed (rule : Rule) (messageName : LooseText)
  | noRule (messageName : LooseText)
  | noMessage
  deriving DecidableEq

namespace Verdict

def rule? : Verdict → Option Rule
  | .allowed r _ => some r
  | _ => none

def reason (actor contract : String) : Verdict → LooseText
  | .allowed _ name =>
    .plain ("Rule lets " ++ actor ++ " call ") ++ name ++ .plain (" on " ++ contract)
  | .noRule name =>
    .plain ("No rule lets " ++ actor ++ " call ") ++ name ++ .plain (" on " ++ contract)
  | .noMessage => .plain ("Payload for " ++ contract ++ " is not a named contract message")

end Verdict

section Payloads

variable [Json.Nesting]

def check (rules : RuleBook) (actor contract : String) (payload : Payload) (own : List Rule) :
    Except Error Verdict := do
  match ← payload.named? with
  | none => return .noMessage
  | some (name, fields) =>
    match rules.covering? actor contract name fields own with
    | some r => return .allowed r name
    | none => return .noRule name

def authorize (rules : RuleBook) (actor contract : String) (payload : Payload)
    (own : List Rule) : Except Error Rule := do
  match (← rules.check actor contract payload own).rule? with
  | some r => return r
  | none => throw .noSuchAuthorization

end Payloads

/-- Positions from the end are negative. -/
def dropFrom {α : Type} (position : Int) (xs : List α) : List α :=
  if 0 ≤ position then xs.drop position.toNat else xs.drop (xs.length + position).toNat

def takeUntil {α : Type} (position : Int) (xs : List α) : List α :=
  if 0 ≤ position then xs.take position.toNat else xs.take (xs.length + position).toNat

/-- Which rules to list: a filter, and a page of what it leaves. -/
structure Listing where
  actor : Option String
  contract : Option String
  startAfter : Option Int
  limit : Option Int

def Listing.Selects (l : Listing) (r : Rule) : Prop :=
  (l.actor = none ∨ l.actor = some r.actor) ∧ (l.contract = none ∨ l.contract = some r.contract)

instance (l : Listing) (r : Rule) : Decidable (l.Selects r) := inferInstanceAs (Decidable (_ ∧ _))

def list (rules : RuleBook) (l : Listing) : List Rule :=
  let selected := rules.filter fun r => l.Selects r
  let selected := match l.startAfter with
    | some p => dropFrom (p + 1) selected
    | none => selected
  match l.limit with
  | some n => takeUntil n selected
  | none => selected

end RuleBook

end AllowanceProxy
