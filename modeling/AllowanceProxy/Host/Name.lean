import AllowanceProxy.Host.Label
import AllowanceProxy.Text.LowerCase

/-!
Names of hosts: labels between dots. A label beyond ASCII is requested in an ASCII form with a mark
in front of it, and a name that starts with this mark is checked before it is requested.
-/
namespace AllowanceProxy.Host

open Text

/-- The dots of several scripts. -/
def isDot (c : Char) : Bool := c = '.' || c = '\u3002' || c = '\uff0e' || c = '\uff61'

def labels (name : List Char) : List (List Char) := pieces isDot name

def asciiLabel (label : List Char) : List Char :=
  if label.all Punycode.isAscii then label else codedMark ++ Punycode.encode (label.map Char.toNat)

/-- A name as it is requested. -/
def asciiName (name : List Char) : List Char :=
  List.intercalate ['.'] ((labels (lowerCase name)).map asciiLabel)

inductive NameFault where
  | tooLong
  | label (fault : LabelFault)
  deriving DecidableEq

def NameFault.message : NameFault → String
  | .tooLong => "Domain too long"
  | .label f => f.message

/-- The longest name that is checked, with a dot at its end. -/
def maxName : Nat := 254

/-- What is wrong with a name that starts with a coded label; any other name is not looked at. A
dot at the end of the name is allowed. -/
def nameFault? (name : List Char) : Option NameFault :=
  if name.take codedMark.length ≠ codedMark then none
  else if maxName < name.length then some .tooLong
  else
    let ls := labels name
    ((if ls.getLast? = some [] then ls.dropLast else ls).findSome? labelFault?).map .label

end AllowanceProxy.Host
