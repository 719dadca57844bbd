import AllowanceProxy.Chain.Basic
import AllowanceProxy.Chain.Endpoint
import AllowanceProxy.Host.Address
import AllowanceProxy.Json.Literal
import AllowanceProxy.Json.Reader
import AllowanceProxy.Text.Base64

/-!
The chain behind a light client endpoint over HTTP. A query is one path segment in base64, and
the contract's answer stands in the field `data` of the reply.
-/
namespace AllowanceProxy

/-- What comes back for one request. -/
inductive HttpReply where
  | response (status : Nat) (body : List UInt8)
  | failure (text : String)
  deriving DecidableEq

namespace Lcd

/-- The base URL without slashes at its end. -/
def trimBase (url : String) : String :=
  String.ofList (url.toList.reverse.dropWhile (· = '/')).reverse

def utf8 (s : String) : List UInt8 := s.toList.flatMap String.utf8EncodeChar

def encodeQuery (query : Json) : String := String.ofList (Base64.encode (utf8 query.compact))

def path (contract : String) (query : Json) : String :=
  "/cosmwasm/wasm/v1/contract/" ++ contract ++ "/smart/" ++ encodeQuery query

/-- What is requested below the base URL. -/
def relative (contract : String) (query : Json) : List Char :=
  (Endpoint.read (path contract query).toList).target

/-- Where a query goes: below the base URL. -/
def endpoint (base contract : String) (query : Json) : Endpoint :=
  (Endpoint.read (trimBase base).toList).below (relative contract query)

/-- The client takes no URL, and no part of one, with more characters. -/
def maxUrlLength : Nat := 65536

def tooLong (what : String) : Error := .library "InvalidURL" (what ++ " too long")

/-- Why the client does not put a URL together: the base, the path, or a part of the whole is too
long for it. -/
def oversized? (base contract : String) (query : Json) : Option Error :=
  if maxUrlLength < (trimBase base).length ∨ maxUrlLength < (path contract query).length then
    some (tooLong "URL")
  else
    let e := Endpoint.read (trimBase base).toList
    let (path, query) := e.joined (relative contract query)
    ((e.parts path query).find? fun p => maxUrlLength < p.2.length).map fun p =>
      tooLong ("URL component '" ++ p.1 ++ "'")

def failed (cause : String) : Error := .queryFailed ("query failed: " ++ cause)

/-- The first characters beyond ASCII in a place, which no request can name. -/
def beyondAscii? (place : List Char) : Option String :=
  let front := place.takeWhile Text.Punycode.isAscii
  let start := front.length
  match (place.drop start).takeWhile fun c => !Text.Punycode.isAscii c with
  | [] => none
  | [c] =>
    some ("'ascii' codec can't encode character '" ++ String.ofList (Text.escapedChar c) ++
      "' in position " ++ toString start ++ ": ordinal not in range(128)")
  | cs =>
    some ("'ascii' codec can't encode characters in position " ++ toString start ++ "-" ++
      toString (start + cs.length - 1) ++ ": ordinal not in range(128)")

/-- Why a request cannot be sent. -/
def refusal? (e : Endpoint) : Option String :=
  ((Host.nameFault? e.host).map Host.NameFault.message).or (beyondAscii? e.place)

/-- The URL that is requested for a query. -/
def url (base contract : String) (query : Json) : Except Error String :=
  match oversized? base contract query with
  | some err => .error err
  | none =>
    let e := endpoint base contract query
    match refusal? e with
    | some cause => .error (failed cause)
    | none => .ok (String.ofList e.text)

/-- A URL as a message shows it, without a mark for a fragment that is empty. -/
def shownUrl (url : List Char) : String :=
  Text.quoted (String.ofList (if url.getLast? = some '#' then url.dropLast else url))

/-- What shows to be wrong with a URL when there is a response. -/
def urlFault? (url : String) : Option String :=
  let url := Endpoint.unmarked url.toList
  if ¬ Endpoint.hasType url then some ("unknown url type: " ++ shownUrl url)
  else (Host.placeFault? (Endpoint.authority url)).map Host.AddressFault.message

section Replies

variable [Json.Nesting]

/-- The contract's answer in a response. -/
def answer (status : Nat) (body : List UInt8) : Except Error Json :=
  if status < 200 ∨ 300 ≤ status then
    .error (.queryFailed ("query failed with status " ++ Number.natText status ++ ": " ++
      Text.decodeLossy body))
  else
    match Json.readOctets body with
    | .error .tooDeep => .error .tooDeep
    | .error f => .error (failed f.message)
    | .ok payload =>
      match payload.get? "data" with
      | some v => .ok v
      | none => .error (.queryFailed ("malformed query response: " ++ payload.literal))

def interpret (url : String) : HttpReply → Except Error Json
  | .failure text => .error (failed text)
  | .response status body =>
    match urlFault? url with
    | some cause => .error (failed cause)
    | none => answer status body

/-- Each request takes the next reply. -/
def fetch (url : String) : List HttpReply → Except Error Json × List HttpReply
  | [] => (.error (failed "no reply left"), [])
  | r :: rs => (interpret url r, rs)

def ask (base contract : String) (query : Json) (replies : List HttpReply) :
    Except Error Json × List HttpReply :=
  match url base contract query with
  | .error e => (.error e, replies)
  | .ok url => fetch url replies

def chain (base : String) : Chain (List HttpReply) :=
  ⟨fun contract q replies => ask base contract q.toJson replies⟩

end Replies

end Lcd

end AllowanceProxy
