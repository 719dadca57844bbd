import AllowanceProxy.Error
import AllowanceProxy.Json.Reader

/-! Contract call payloads, and the named message that one may hold. -/
namespace AllowanceProxy

inductive Payload where
  | text (s : String)
  | octets (bs : List UInt8)

namespace Payload

variable [Json.Nesting]

def read : Payload → Except Json.Fault Json
  | .text s => Json.read s
  | .octets bs => Json.readOctets bs

/-- The single member of the object that a payload is; none for any other payload. Only a payload
nested too deep is a fault. -/
def single? (p : Payload) : Except Error (Option (LooseText × Json)) :=
  match p.read with
  | .ok (.obj [member]) => .ok (some member)
  | .error .tooDeep => .error .tooDeep
  | _ => .ok none

/-- A named message: one member whose value is an object. -/
def named? (p : Payload) : Except Error (Option (LooseText × Members)) := do
  match ← p.single? with
  | some (name, .obj fields) => return some (name, fields)
  | _ => return none

end Payload

end AllowanceProxy
