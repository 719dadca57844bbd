import AllowanceProxy.Number.Digits
import AllowanceProxy.Text.Loose
import AllowanceProxy.Text.Quoted

/-! Text from octets: UTF-8, UTF-16 and UTF-32, and how a coding is told from its first octets. -/
namespace AllowanceProxy.Text

inductive EncodingReason where
  | invalidStart
  | invalidContinuation
  | unexpectedEnd
  | truncated
  | outOfRange
  deriving DecidableEq

def EncodingReason.text : EncodingReason → String
  | .invalidStart => "invalid start byte"
  | .invalidContinuation => "invalid continuation byte"
  | .unexpectedEnd => "unexpected end of data"
  | .truncated => "truncated data"
  | .outOfRange => "code point not in range(0x110000)"

inductive Coding where
  | utf8
  | utf16 (big : Bool)
  | utf32 (big : Bool)
  deriving DecidableEq

def Coding.name : Coding → String
  | .utf8 => "utf-8"
  | .utf16 big => if big then "utf-16-be" else "utf-16-le"
  | .utf32 big => if big then "utf-32-be" else "utf-32-le"

/-- Octets that stand for no character, from the position `start` on. -/
structure EncodingFault where
  coding : Coding
  start : Nat
  octets : List UInt8
  reason : EncodingReason
  deriving DecidableEq

def EncodingFault.message (f : EncodingFault) : String :=
  let place := match f.octets with
    | [b] => "byte 0x" ++ String.ofList (hexDigits 2 b.toNat) ++ " in position " ++
        Number.natText f.start
    | bs => "bytes in position " ++ Number.natText f.start ++ "-" ++
        Number.natText (f.start + bs.length - 1)
  "'" ++ f.coding.name ++ "' codec can't decode " ++ place ++ ": " ++ f.reason.text

/-- What the first octets stand for, and how many of them. -/
inductive Head where
  | symbol (s : Symbol) (length : Nat)
  | fault (reason : EncodingReason) (length : Nat)

/-- The octets after the first, of which the next lies between `low` and `high`. -/
def followers (value low high : Nat) : (due taken : Nat) → List UInt8 → Head
  | 0, taken, _ => .symbol (.ofNat value) taken
  | _ + 1, taken, [] => .fault .unexpectedEnd taken
  | due + 1, taken, b :: bs =>
    if low ≤ b.toNat ∧ b.toNat ≤ high then
      followers (value * 64 + b.toNat % 64) 0x80 0xbf due (taken + 1) bs
    else .fault .invalidContinuation taken

def utf8Head (b : UInt8) (bs : List UInt8) : Head :=
  let n := b.toNat
  if n < 0x80 then .symbol (.ofNat n) 1
  else if n < 0xc2 then .fault .invalidStart 1
  else if n < 0xe0 then followers (n % 32) 0x80 0xbf 1 1 bs
  else if n < 0xf0 then
    followers (n % 16) (if n = 0xe0 then 0xa0 else 0x80) (if n = 0xed then 0x9f else 0xbf) 2 1 bs
  else if n < 0xf5 then
    followers (n % 8) (if n = 0xf0 then 0x90 else 0x80) (if n = 0xf4 then 0x8f else 0xbf) 3 1 bs
  else .fault .invalidStart 1

/-- The surrogate that three octets spell in the manner of characters. -/
def spelledSurrogate? : UInt8 → List UInt8 → Option Nat
  | 0xed, b :: c :: _ =>
    if 0xa0 ≤ b ∧ b ≤ 0xbf ∧ 0x80 ≤ c ∧ c ≤ 0xbf then
      some (0xd000 + b.toNat % 64 * 64 + c.toNat % 64)
    else none
  | _, _ => none

/-- As `utf8Head`, but spelled surrogates count. -/
def looseUtf8Head (b : UInt8) (bs : List UInt8) : Head :=
  match spelledSurrogate? b bs with
  | some u => .symbol (.lone u) 3
  | none => utf8Head b bs

def word (big : Bool) (a b : UInt8) : Nat :=
  if big then a.toNat * 256 + b.toNat else b.toNat * 256 + a.toNat

def utf16Head (big : Bool) : List UInt8 → Head
  | a :: b :: c :: d :: _ =>
    let u := word big a b
    let v := word big c d
    if isHighSurrogate u && isLowSurrogate v then .symbol (.ofNat (joinSurrogates u v)) 4
    else .symbol (.ofNat u) 2
  | a :: b :: _ => .symbol (.ofNat (word big a b)) 2
  | _ => .fault .truncated 1

def utf32Head (big : Bool) : List UInt8 → Head
  | a :: b :: c :: d :: _ =>
    let n := if big then word big a b * 65536 + word big c d
      else word big c d * 65536 + word big a b
    if n < 0x110000 then .symbol (.ofNat n) 4 else .fault .outOfRange 4
  | bs => .fault .truncated bs.length

def Coding.head : Coding → UInt8 → List UInt8 → Head
  | .utf8, b, bs => looseUtf8Head b bs
  | .utf16 big, b, bs => utf16Head big (b :: bs)
  | .utf32 big, b, bs => utf32Head big (b :: bs)

/-- The symbols of octets at the position `start`; each takes one octet at least. -/
def decodeFrom (coding : Coding) : (count start : Nat) → (done : List Symbol) → List UInt8 →
    Except EncodingFault (List Symbol)
  | _, _, done, [] => .ok done.reverse
  | 0, _, done, _ => .ok done.reverse
  | count + 1, start, done, b :: bs =>
    match coding.head b bs with
    | .symbol s n => decodeFrom coding count (start + n) (s :: done) ((b :: bs).drop n)
    | .fault r n => .error ⟨coding, start, (b :: bs).take n, r⟩

def decode (coding : Coding) (start : Nat) (bs : List UInt8) : Except EncodingFault (List Symbol) :=
  decodeFrom coding bs.length start [] bs

/-- Each run of octets that stands for no character becomes one replacement character. -/
def decodeLossyFrom : (count : Nat) → (done : List Char) → List UInt8 → List Char
  | _, done, [] => done.reverse
  | 0, done, _ => done.reverse
  | count + 1, done, b :: bs =>
    match utf8Head b bs with
    | .symbol s n => decodeLossyFrom count (s.shown :: done) ((b :: bs).drop n)
    | .fault _ n => decodeLossyFrom count (replacement :: done) ((b :: bs).drop n)

def decodeLossy (bs : List UInt8) : String := String.ofList (decodeLossyFrom bs.length [] bs)

/-- The marks that name a coding; the longer of two that start alike comes first. -/
def byteOrderMarks : List (List UInt8 × Coding) :=
  [([0x00, 0x00, 0xfe, 0xff], .utf32 true), ([0xff, 0xfe, 0x00, 0x00], .utf32 false),
    ([0xfe, 0xff], .utf16 true), ([0xff, 0xfe], .utf16 false), ([0xef, 0xbb, 0xbf], .utf8)]

/-- Without a mark the zeros among the first octets name the coding, as the first characters of a
JSON text are ASCII. -/
def unmarkedCoding : List UInt8 → Coding
  | [a, b] => if a = 0 then .utf16 true else if b = 0 then .utf16 false else .utf8
  | a :: b :: c :: d :: _ =>
    if a = 0 then
      if b = 0 then .utf32 true else .utf16 true
    else if b = 0 then
      if c = 0 ∧ d = 0 then .utf32 false else .utf16 false
    else .utf8
  | _ => .utf8

def decodeDetected (bs : List UInt8) : Except EncodingFault (List Symbol) :=
  match byteOrderMarks.find? fun m => m.1.isPrefixOf bs with
  | some (mark, coding) =>
    -- the mark of UTF-8 is cut off before positions are counted
    decode coding (if coding = .utf8 then 0 else mark.length) (bs.drop mark.length)
  | none => decode (unmarkedCoding bs) 0 bs

end AllowanceProxy.Text
