import AllowanceProxy.Chain.Canned
import AllowanceProxy.Chain.Lcd
import AllowanceProxy.Chain.PriceTable

/-! The kinds of chain side by side, so that one may take the place of another. -/
namespace AllowanceProxy

inductive Querier where
  | canned (all : List Canned)
  | endpoint (base : String) (replies : List HttpReply)
  | table (prices : PriceTable)

namespace Querier

section Answers

variable [Json.Nesting]

def query (contract : String) (q : WireQuery) : Querier → Except Error Json × Querier
  | .canned all => (Canned.answerOf all contract q, .canned all)
  | .endpoint base replies =>
    let (answer, replies) := (Lcd.chain base).query contract q replies
    (answer, .endpoint base replies)
  | .table t => (t.answerOf contract q, .table t)

def chain : Chain Querier := ⟨query⟩

end Answers

/-- How a query shows in a log: the requested URL, or contract and query. -/
def note (querier : Querier) (contract : String) (q : WireQuery) : Option Json :=
  match querier with
  | .endpoint base _ => (Lcd.url base contract q.toJson).toOption.map Json.ofString
  | _ => some (.arr [.str contract, .str q.text])

end Querier

end AllowanceProxy
