import AllowanceProxy.Host.Name
import AllowanceProxy.Number.Numeral
import AllowanceProxy.Text.Percent

/-!
The base URL of an endpoint, read into its parts, and the URLs of requests below it. All parts are
kept in the form in which they are requested: lower case for scheme and host, escapes for
characters that are not allowed, no port that the scheme implies, no dot segments.
-/
namespace AllowanceProxy

open Text

structure Endpoint where
  scheme : List Char
  userInfo : List Char
  host : List Char
  port : Option Int
  path : List Char
  query : Option (List Char)
  fragment : Option (List Char)
  deriving DecidableEq

namespace Endpoint

def queryDelimiters : List Char := ['"', '#', '<', '>']

def pathDelimiters : List Char := queryDelimiters ++ ['?', '\x60', '\x7b', '\x7d']

def fragmentDelimiters : List Char := ['"', '<', '>', '\x60']

def userInfoDelimiters : List Char :=
  pathDelimiters ++ ['/', ';', '=', '@', '[', '\\', ']', '^', '|']

def hostDelimiters : List Char := ['#', '/', ':', '<', '>', '?', '@', '[', ']', '^']

def isSchemeChar (c : Char) : Bool := c.isAlphanum || c = '+' || c = '.' || c = '-'

/-- The scheme, which starts with a letter and may be empty, and the rest after its colon. -/
def splitScheme (s : List Char) : List Char × List Char :=
  let run := s.takeWhile isSchemeChar
  match s.drop run.length with
  | ':' :: rest => if (run.head?.map Char.isAlpha).getD true then (run, rest) else ([], s)
  | _ => ([], s)

def isAuthorityChar (c : Char) : Bool := c ≠ '/' && c ≠ '?' && c ≠ '#'

/-- The authority between two slashes and the path, and the rest. -/
def splitAuthority : List Char → List Char × List Char
  | '/' :: '/' :: s => (s.takeWhile isAuthorityChar, s.dropWhile isAuthorityChar)
  | s => ([], s)

/-- A host, in brackets or up to a colon, and the text of the port behind it. -/
def splitPort (s : List Char) : List Char × List Char :=
  let bracketed := if s.head? = some '[' then cutAtLast? ']' s else none
  let (host, rest) := match bracketed with
    | some (front, back) => (front ++ [']'], back)
    | none => (s.takeWhile (· ≠ ':'), s.dropWhile (· ≠ ':'))
  match rest with
  | ':' :: port => (host, port)
  | port => (host, port)

def impliedPorts : List (String × Int) :=
  [("ftp", 21), ("http", 80), ("https", 443), ("ws", 80), ("wss", 443)]

/-- A port by its number, unless the scheme implies it. -/
def readPort (scheme : List Char) (text : List Char) : Option Int :=
  match Number.readNumeral (String.ofList text) with
  | .ok n => if impliedPorts.contains (String.ofList scheme, n) then none else some n
  | .error _ => none

/-- A host in brackets is taken as it is; any other is written in lower case and in ASCII. -/
def readHost (host : List Char) : List Char :=
  if host.head? = some '[' ∧ host.getLast? = some ']' then (host.drop 1).dropLast
  else if host.all Punycode.isAscii then (percentEncode hostDelimiters host).map Char.toLower
  else Host.asciiName host

/-- A segment of one dot is dropped, and one of two dots drops the segment before it as well. -/
def resolveDots : (done : List (List Char)) → List (List Char) → List (List Char)
  | done, [] => done.reverse
  | done, s :: ss =>
    if s = ['.'] then resolveDots done ss
    else if s = ['.', '.'] then resolveDots (if done = [[]] then done else done.tail) ss
    else resolveDots (s :: done) ss

def withoutDots (path : List Char) : List Char :=
  List.intercalate ['/'] (resolveDots [] (pieces (· = '/') path))

/-- Whether the URL says where it leads, so that its dot segments have a meaning. -/
def IsRooted (e : Endpoint) : Prop :=
  e.scheme ≠ [] ∨ e.userInfo ≠ [] ∨ e.host ≠ [] ∨ e.port ≠ none

instance (e : Endpoint) : Decidable e.IsRooted := inferInstanceAs (Decidable (_ ∨ _))

/-- The endpoint with another path and query. -/
def withPath (e : Endpoint) (path : List Char) (query : Option (List Char)) : Endpoint :=
  { e with
    path := percentEncode pathDelimiters (if e.IsRooted then withoutDots path else path)
    query := query.map (percentEncode queryDelimiters) }

def read (s : List Char) : Endpoint :=
  let (scheme, rest) := splitScheme s
  let scheme := scheme.map Char.toLower
  let (authority, rest) := splitAuthority rest
  let (userInfo, place) := (cutAtLast? '@' authority).getD ([], authority)
  let (host, port) := splitPort place
  let (rest, fragment) := cutAt '#' rest
  let (path, query) := cutAt '?' rest
  let e : Endpoint := {
    scheme := scheme
    userInfo := percentEncode userInfoDelimiters userInfo
    host := readHost host
    port := readPort scheme port
    path := []
    query := none
    fragment := fragment.map (percentEncode fragmentDelimiters) }
  e.withPath path query

def queryText (query : Option (List Char)) : List Char :=
  match query with
  | some q => '?' :: q
  | none => []

/-- Path and query as they are requested. -/
def target (e : Endpoint) : List Char :=
  (if e.path = [] then ['/'] else e.path) ++ queryText e.query

/-- Path and query below the base: what is requested stands after it, with one slash between them,
even if the base has a query already. -/
def joined (e : Endpoint) (relative : List Char) : List Char × Option (List Char) :=
  let base := e.target
  let base := if base.getLast? = some '/' then base else base ++ ['/']
  cutAt '?' (base ++ relative.dropWhile (· = '/'))

def below (e : Endpoint) (relative : List Char) : Endpoint :=
  let (path, query) := e.joined relative
  e.withPath path query

/-- Host and port. -/
def place (e : Endpoint) : List Char :=
  (if e.host.contains ':' then '[' :: e.host ++ [']'] else e.host) ++
    (match e.port with
      | some n => ':' :: Number.intDigits n
      | none => [])

def authorityText (e : Endpoint) : List Char :=
  (if e.userInfo = [] then [] else e.userInfo ++ ['@']) ++ e.place

/-- The parts of a URL by their names, with another path and query. -/
def parts (e : Endpoint) (path : List Char) (query : Option (List Char)) :
    List (String × List Char) :=
  [("scheme", e.scheme), ("authority", e.authorityText), ("path", path), ("query", query.getD []),
    ("fragment", e.fragment.getD [])]

def text (e : Endpoint) : List Char :=
  let authority := e.authorityText
  (if e.scheme = [] then [] else e.scheme ++ [':']) ++
    (if authority = [] then [] else '/' :: '/' :: authority) ++
    e.path ++ queryText e.query ++
    (match e.fragment with
      | some f => '#' :: f
      | none => [])

/-- A URL may be marked as one in front of its scheme; the mark is no part of it. -/
def unmarked : List Char → List Char
  | 'U' :: 'R' :: 'L' :: ':' :: url => url
  | url => url

/-- A URL that starts with something like a scheme can be requested. -/
def hasType (url : List Char) : Bool :=
  let start := url.takeWhile fun c => c ≠ '/' && c ≠ ':'
  start ≠ [] && (url.drop start.length).head? = some ':'

/-- What stands for the authority in a URL, whichever way it got there. -/
def authority (url : List Char) : List Char := (splitAuthority (splitScheme url).2).1

end Endpoint

end AllowanceProxy
