import AllowanceProxy.Number.Digits

/-!
Checked values: a value, or every complaint about what should have been one, each with its place.
-/
namespace AllowanceProxy

inductive Step where
  | field (name : String)
  | index (position : Nat)
  deriving DecidableEq

inductive Complaint where
  | missing
  | notString
  | notInt
  | intUnreadable
  | intTooLong
  | intFractional
  | notFinite
  | belowLeast
  | aboveMost
  | notBool
  | boolUnreadable
  | notFloat
  | floatUnreadable
  | notInEnumeration
  | otherLiteral
  | notList
  | notDict
  | notTuple
  | tupleTooLong
  | notModel
  | notAttributes
  | tagMissing
  | tagUnknown
  | remainingAboveAmount (remaining amount : Nat)
  deriving DecidableEq

def Complaint.code : Complaint → String
  | .missing => "missing"
  | .notString => "string_type"
  | .notInt => "int_type"
  | .intUnreadable => "int_parsing"
  | .intTooLong => "int_parsing_size"
  | .intFractional => "int_from_float"
  | .notFinite => "finite_number"
  | .belowLeast => "greater_than_equal"
  | .aboveMost => "less_than_equal"
  | .notBool => "bool_type"
  | .boolUnreadable => "bool_parsing"
  | .notFloat => "float_type"
  | .floatUnreadable => "float_parsing"
  | .notInEnumeration => "enum"
  | .otherLiteral => "literal_error"
  | .notList => "list_type"
  | .notDict => "dict_type"
  | .notTuple => "tuple_type"
  | .tupleTooLong => "too_long"
  | .notModel => "model_type"
  | .notAttributes => "model_attributes_type"
  | .tagMissing => "union_tag_not_found"
  | .tagUnknown => "union_tag_invalid"
  | .remainingAboveAmount _ _ => "value_error"

/-- Only a complaint of the program's own rules has a text beside its code. -/
def Complaint.text? : Complaint → Option String
  | .remainingAboveAmount remaining amount =>
    some ("Value error, limit_remaining (" ++ Number.natText remaining ++ ") exceeds amount (" ++
      Number.natText amount ++ ")")
  | _ => none

structure Issue where
  path : List Step
  complaint : Complaint
  deriving DecidableEq

/-- A value, or all complaints in the order of the places. -/
inductive Checked (α : Type) where
  | ok (value : α)
  | issues (all : List Issue)
  deriving DecidableEq

namespace Checked

variable {α β : Type}

def fail (c : Complaint) : Checked α := .issues [⟨[], c⟩]

def map (f : α → β) : Checked α → Checked β
  | .ok a => .ok (f a)
  | .issues is => .issues is

/-- Both sides are checked, and the complaints of both are kept. -/
def ap : Checked (α → β) → Checked α → Checked β
  | .ok f, .ok a => .ok (f a)
  | .ok _, .issues is => .issues is
  | .issues is, .ok _ => .issues is
  | .issues is, .issues js => .issues (is ++ js)

/-- A further check, made only of a value. -/
def andThen (x : Checked α) (f : α → Checked β) : Checked β :=
  match x with
  | .ok a => f a
  | .issues is => .issues is

def within (s : Step) : Checked α → Checked α
  | .ok a => .ok a
  | .issues is => .issues (is.map fun i => { i with path := s :: i.path })

/-- Each value is checked at its position. -/
def listFrom (f : β → Checked α) : Nat → List β → Checked (List α)
  | _, [] => .ok []
  | i, b :: bs => ap (map List.cons (within (.index i) (f b))) (listFrom f (i + 1) bs)

instance : Applicative Checked where
  pure := .ok
  seq f x := ap f (x ())

@[simp] theorem pure_eq (a : α) : (pure a : Checked α) = .ok a := rfl

@[simp] theorem seq_eq (f : Checked (α → β)) (x : Checked α) : f <*> x = ap f x := rfl

@[simp] theorem map_eq (f : α → β) (x : Checked α) : f <$> x = ap (.ok f) x := rfl

@[simp] theorem ap_ok (f : α → β) (a : α) : ap (.ok f) (.ok a) = .ok (f a) := rfl

@[simp] theorem within_ok (s : Step) (a : α) : within s (.ok a) = .ok a := rfl

theorem listFrom_ok (f : β → Checked α) (g : α → β) (as : List α)
    (h : ∀ a ∈ as, f (g a) = .ok a) (i : Nat) : listFrom f i (as.map g) = .ok as := by
  induction as generalizing i with
  | nil => rfl
  | cons a as ih =>
    simp [listFrom, h a (by simp), ih (fun b hb => h b (by simp [hb])), map]

end AllowanceProxy.Checked
