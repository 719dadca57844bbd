import AllowanceProxy.Number.Binary64
import AllowanceProxy.Text.Loose

/-! JSON values; the members of an object keep their order. -/
namespace AllowanceProxy

inductive Json where
  | null
  | bool (b : Bool)
  | int (n : Int)
  | float (x : Binary64)
  | str (s : LooseText)
  | arr (items : List Json)
  | obj (members : List (LooseText × Json))
  deriving Inhabited

abbrev Members := List (LooseText × Json)

namespace Json

def ofString (s : String) : Json := .str s

def lookup? (key : LooseText) : Members → Option Json
  | [] => none
  | (k, v) :: ms => if k = key then some v else lookup? key ms

/-- A later member of the same name takes the place of an earlier one. -/
def put (key : LooseText) (value : Json) : Members → Members
  | [] => [(key, value)]
  | (k, v) :: ms => if k = key then (k, value) :: ms else (k, v) :: put key value ms

def get? (key : LooseText) : Json → Option Json
  | .obj ms => lookup? key ms
  | _ => none

end AllowanceProxy.Json
