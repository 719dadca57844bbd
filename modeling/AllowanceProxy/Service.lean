import AllowanceProxy.Account.Operation
import AllowanceProxy.Store

/-!
The service: an account kept in a store. Each call loads the record once, and saves it once if
the call succeeds.
-/
namespace AllowanceProxy

variable [Json.Nesting] {σ : Type}

structure Service (σ : Type) where
  engine : Engine σ
  network : String
  slot : String

namespace Service

/-- What is reported beside the answers. -/
inductive Event where
  | founded (owner : String)
  | executed (sender : String) (forwarded : Nat)
  | refused (sender label reason : String)
  deriving DecidableEq

namespace Event

def level : Event → String
  | .refused _ _ _ => "warning"
  | _ => "info"

def name : Event → String
  | .founded _ => "spendguard.runtime.instantiated"
  | .executed _ _ => "spendguard.runtime.executed"
  | .refused _ _ _ => "spendguard.runtime.execute_refused"

def fields : Event → Members
  | .founded owner => [("owner", .str owner)]
  | .executed sender forwarded => [("sender", .str sender), ("forwarded", .int forwarded)]
  | .refused sender label reason =>
    [("sender", .str sender), ("error", .str label), ("reason", .str reason)]

end Event

inductive Request where
  | found (founding : Account.Founding)
  | operation (operation : Account.Operation)

/-- The outcome of a call, the store after it, and the events in order. -/
structure Result where
  outcome : Except Error Account.Answer
  store : Store
  events : List Event

def found (svc : Service σ) (store : Store) (f : Account.Founding) : Result :=
  match Account.found svc.engine.reference { f with network := .str svc.network } with
  | .error e => ⟨.error e, store, []⟩
  | .ok (a, response) => ⟨.ok (.response response), store.save svc.slot a, [.founded a.owner]⟩

def eventsOf : Account.Operation → Except Error Account.Answer → List Event
  | .execute s _, .ok (.response r) => [.executed s.sender r.messages.length]
  | .execute s _, .error e =>
    match e.label? with
    | some label => if e.isRefusal then [.refused s.sender label e.message] else []
    | none => []
  | _, _ => []

/-- A dry run is never saved. -/
def saves : Account.Operation → Bool
  | .canSpend _ _ _ => false
  | _ => true

def operate (svc : Service σ) (store : Store) (o : Account.Operation) : StateM σ Result :=
  match store.load svc.slot with
  | .error e => return ⟨.error e, store, []⟩
  | .ok none => return ⟨.error .notInitialized, store, []⟩
  | .ok (some a) => do
    let (outcome, a) ← a.perform svc.engine o
    let store := match outcome with
      | .ok _ => if saves o then store.save svc.slot a else store
      | .error _ => store
    return ⟨outcome, store, eventsOf o outcome⟩

def call (svc : Service σ) (store : Store) : Request → StateM σ Result
  | .found f => return svc.found store f
  | .operation o => svc.operate store o

end Service

end AllowanceProxy
