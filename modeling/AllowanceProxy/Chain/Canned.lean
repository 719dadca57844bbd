import AllowanceProxy.Chain.Basic

/-! A chain of prepared answers. -/
namespace AllowanceProxy

inductive CannedAnswer where
  | response (value : Json)
  | failure (text : String)

/-- An answer for one contract and, if `query` is given, for one query text alone. -/
structure Canned where
  contract : String
  query : Option String
  answer : CannedAnswer

namespace Canned

def Fits (c : Canned) (contract text : String) : Prop :=
  c.contract = contract ∧ (c.query = none ∨ c.query = some text)

instance (c : Canned) (contract text : String) : Decidable (c.Fits contract text) :=
  inferInstanceAs (Decidable (_ ∧ _))

def answerOf (all : List Canned) (contract : String) (q : WireQuery) : Except Error Json :=
  match (all.find? fun c => c.Fits contract q.text).map Canned.answer with
  | some (.response v) => .ok v
  | some (.failure text) => .error (.queryFailed text)
  | none => .error (.queryFailed "no canned reply")

/-- The same answers for ever. -/
def chain {σ : Type} (all : List Canned) : Chain σ :=
  ⟨fun contract q s => (answerOf all contract q, s)⟩

end Canned

end AllowanceProxy
