import AllowanceProxy.Text.Cut
import AllowanceProxy.Text.Quoted

/-!
Hosts given by an address: four octets, or eight groups of hexadecimal digits of which a run of
zeros may be left out once. Only the second kind, and addresses of versions to come, are written
in brackets.
-/
namespace AllowanceProxy.Host

open Text

/-- A number below 256 without zeros in front. -/
def isOctet (ds : List Char) : Bool :=
  ds = ['0'] ||
    (ds ≠ [] && ds.length ≤ 3 && ds.all Char.isDigit && ds.head? ≠ some '0' &&
      Nat.ofDigitChars 10 ds 0 < 256)

def isFourOctets (s : List Char) : Bool :=
  let octets := pieces (· = '.') s
  octets.length = 4 && octets.all isOctet

def isHexDigit (c : Char) : Bool :=
  c.isDigit || ('a' ≤ c && c ≤ 'f') || ('A' ≤ c && c ≤ 'F')

def isGroup (ds : List Char) : Bool := ds ≠ [] && ds.length ≤ 4 && ds.all isHexDigit

/-- Octets at the end take the place of two groups. -/
def withoutOctets? (parts : List (List Char)) : Option (List (List Char)) :=
  let final := parts.getLast?.getD []
  if ¬ final.contains '.' then some parts
  else if isFourOctets final then some (parts.dropLast ++ [['0'], ['0']])
  else none

/-- The number of groups on one side of the gap. -/
def side? (groups : List (List Char)) : Option Nat :=
  if groups = [[]] then some 0
  else if groups.all isGroup then some groups.length
  else none

/-- All eight groups, or a gap between two colons for at least one of them. -/
def areGroups (parts : List (List Char)) : Bool :=
  let front := parts.take 1 ++ (parts.tail.dropLast.takeWhile (· ≠ []))
  match parts.drop front.length with
  | [] :: back@(_ :: _) =>
    match side? front, side? back with
    | some m, some n => m + n < 8
    | _, _ => false
  | _ => parts.length = 8 && parts.all isGroup

/-- A zone behind a percent sign is any text but none. -/
def isEightGroups (s : List Char) : Bool :=
  let (groups, zone) := cutAt '%' s
  zone.all (fun z => z ≠ [] && !z.contains '%') &&
    ((withoutOctets? (pieces (· = ':') groups)).map areGroups).getD false

/-- A `v`, a version in hexadecimal digits, and some text behind a point. -/
def isOfLaterVersion (s : List Char) : Bool :=
  match cutAt '.' (s.drop 1) with
  | (version, some (_ :: _)) => version ≠ [] && version.all isHexDigit
  | _ => false

inductive AddressFault where
  | brackets
  | laterVersion
  | octets
  | noAddress (text : List Char)
  deriving DecidableEq

def AddressFault.message : AddressFault → String
  | .brackets => "Invalid IPv6 URL"
  | .laterVersion => "IPvFuture address is invalid"
  | .octets => "An IPv4 address cannot be in brackets"
  | .noAddress s => quoted (String.ofList s) ++ " does not appear to be an IPv4 or IPv6 address"

/-- What is wrong with an address in brackets. -/
def addressFault? (s : List Char) : Option AddressFault :=
  if s.head? = some 'v' then if isOfLaterVersion s then none else some .laterVersion
  else if isFourOctets s then some .octets
  else if isEightGroups s then none
  else some (.noAddress s)

/-- What is wrong with a place that holds brackets: the host in them stands alone or has a port
behind it. -/
def bracketFault? (place : List Char) : Option AddressFault :=
  match cutAt '[' place with
  | (host, none) => addressFault? (cutAt ':' host).1
  | (front, some inner) =>
    let (host, behind) := cutAt ']' inner
    if front = [] ∧ ((behind.bind List.head?).all (· = ':')) then addressFault? host
    else some .brackets

/-- What is wrong with the brackets of an authority; the place is behind the user. -/
def placeFault? (authority : List Char) : Option AddressFault :=
  if authority.contains '[' ≠ authority.contains ']' then some .brackets
  else if authority.contains '[' then
    bracketFault? (((cutAtLast? '@' authority).map Prod.snd).getD authority)
  else none

end AllowanceProxy.Host
