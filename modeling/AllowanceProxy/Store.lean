import AllowanceProxy.Account.Basic

/-! The store: one whole record per slot, in its JSON form. -/
namespace AllowanceProxy

abbrev Store := List (String × Json)

namespace Store

def defaultSlot : String := "state"

def put (slot : String) (content : Json) : Store → Store
  | [] => [(slot, content)]
  | (s, c) :: rest => if s = slot then (slot, content) :: rest else (s, c) :: put slot content rest

def content? (store : Store) (slot : String) : Option Json :=
  (store.find? fun entry => entry.1 = slot).map Prod.snd

def holds (store : Store) (slot : String) : Bool := (store.content? slot).isSome

/-- The record of a slot, none if nothing was ever stored there. -/
def load (store : Store) (slot : String) : Except Error (Option Account) :=
  match store.content? slot with
  | none => .ok none
  | some c => (Error.ofChecked (Account.decode c)).map some

def save (store : Store) (slot : String) (a : Account) : Store := put slot a.toJson store

end Store

end AllowanceProxy
