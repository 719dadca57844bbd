import AllowanceProxy.Schema.Checked
import AllowanceProxy.Json.Basic
import AllowanceProxy.Number.Numeral

/-! Reading typed values out of JSON, leniently where a value of another kind has one meaning. -/
namespace AllowanceProxy

abbrev Decoder (α : Type) := Json → Checked α

namespace Decoder

open Number

variable {α β : Type}

def text : Decoder String
  | .str (.plain s) => .ok s
  | _ => .fail .notString

/-- A float of this size or more is no whole number field. -/
def wordBound : Nat := 0x8000000000000000

def wholeFloat (x : Binary64) : Checked Int :=
  match x, x.whole? with
  | .nan, _ => .fail .notFinite
  | .infinite _, _ => .fail .notFinite
  | _, some n => if n.natAbs < wordBound then .ok n else .fail .intTooLong
  | _, none => .fail .intFractional

def int : Decoder Int
  | .int n => .ok n
  | .bool b => .ok (if b then 1 else 0)
  | .float x => wholeFloat x
  | .str (.plain s) =>
    match readLenient s with
    | .ok n => .ok n
    | .error .malformed => .fail .intUnreadable
    | .error .tooLong => .fail .intTooLong
  | _ => .fail .notInt

def nat : Decoder Nat := fun v =>
  (int v).andThen fun n => if 0 ≤ n then .ok n.toNat else .fail .belowLeast

def natBetween (least most : Nat) : Decoder Nat := fun v =>
  (int v).andThen fun n =>
    if n < least then .fail .belowLeast
    else if (most : Int) < n then .fail .aboveMost
    else .ok n.toNat

/-- Zero and one are truth values; another number is none, and one too large is not even read. -/
def boolOfInt (n : Int) : Checked Bool :=
  if n = 0 then .ok false
  else if n = 1 then .ok true
  else if -wordBound ≤ n ∧ n < wordBound then .fail .boolUnreadable
  else .fail .notBool

def trueWords : List String := ["true", "t", "yes", "y", "on", "1"]

def falseWords : List String := ["false", "f", "no", "n", "off", "0"]

def bool : Decoder Bool
  | .bool b => .ok b
  | .int n => boolOfInt n
  | .float x =>
    match x.whole? with
    | some n => if n.natAbs < wordBound then boolOfInt n else .fail .notBool
    | none => .fail .notBool
  | .str (.plain s) =>
    let word := s.toLower
    if trueWords.contains word then .ok true
    else if falseWords.contains word then .ok false
    else .fail .boolUnreadable
  | _ => .fail .notBool

def listOf (item : Decoder α) : Decoder (List α)
  | .arr vs => Checked.listFrom item 0 vs
  | _ => .fail .notList

def dict : Decoder Members
  | .obj ms => .ok ms
  | _ => .fail .notDict

def nullable (d : Decoder α) : Decoder (Option α)
  | .null => .ok none
  | v => Checked.map some (d v)

def itemAt (d : Decoder α) (i : Nat) (vs : List Json) : Checked α :=
  Checked.within (.index i) <| match vs[i]? with
    | some v => d v
    | none => .fail .missing

def pair (first : Decoder α) (second : Decoder β) : Decoder (α × β)
  | .arr vs =>
    if 2 < vs.length then .fail .tupleTooLong
    else Prod.mk <$> itemAt first 0 vs <*> itemAt second 1 vs
  | _ => .fail .notTuple

/-- One of the values, by its exact name. -/
def named (name : α → String) (all : List α) : Decoder α
  | .str (.plain s) =>
    match all.find? fun a => name a = s with
    | some a => .ok a
    | none => .fail .notInEnumeration
  | _ => .fail .notInEnumeration

def model : Decoder Members
  | .obj ms => .ok ms
  | _ => .fail .notModel

def required (name : String) (d : Decoder α) (ms : Members) : Checked α :=
  Checked.within (.field name) <| match Json.lookup? name ms with
    | some v => d v
    | none => .fail .missing

def optional (name : String) (d : Decoder α) (default : α) (ms : Members) : Checked α :=
  Checked.within (.field name) <| match Json.lookup? name ms with
    | some v => d v
    | none => .ok default

/-- A field that holds one fixed text, and may be left out. -/
def constant (name value : String) (ms : Members) : Checked Unit :=
  optional name (fun
    | .str (.plain s) => if s = value then .ok () else .fail .otherLiteral
    | _ => .fail .otherLiteral) () ms

end AllowanceProxy.Decoder
