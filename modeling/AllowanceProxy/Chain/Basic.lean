import AllowanceProxy.Market.Query

/-!
The chain as something that answers smart queries. It may change with every query, and what it
answers may be any JSON value or any fault.
-/
namespace AllowanceProxy

structure Chain (σ : Type) where
  query : String → WireQuery → σ → Except Error Json × σ

/-- A computation that may query the chain; the chain moves on whether it succeeds or fails. -/
abbrev Asking (σ : Type) := ExceptT Error (StateM σ)

namespace Asking

variable {σ α : Type}

def mk (f : σ → Except Error α × σ) : Asking σ α := f

def lift (x : Except Error α) : Asking σ α := mk fun s => (x, s)

end Asking

namespace Chain

variable {σ : Type}

/-- Queries are noted in their order, those that `note` shows at all. -/
def logged {ν : Type} (chain : Chain σ) (note : σ → String → WireQuery → Option ν) :
    Chain (σ × List ν) where
  query contract q s :=
    let (answer, next) := chain.query contract q s.1
    (answer, (next, s.2 ++ (note s.1 contract q).toList))

/-- The answer depends on the contract and the query alone. -/
def Steady (chain : Chain σ) : Prop :=
  ∃ answer : String → WireQuery → Except Error Json,
    ∀ contract q s, (chain.query contract q s).1 = answer contract q

end Chain

end AllowanceProxy
