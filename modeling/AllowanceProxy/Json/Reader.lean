import AllowanceProxy.Json.Basic
import AllowanceProxy.Number.Numeral
import AllowanceProxy.Text.Encoding

/-!
Reading JSON. Positions count symbols; a fault is noticed where a number of symbols is still left.
-/
namespace AllowanceProxy.Json

open Number Text

inductive Misfit where
  | expectedValue
  | expectedName
  | expectedColon
  | expectedComma
  | unterminated
  | controlCharacter
  | escape
  | unicodeEscape
  | extraData
  | byteOrderMark
  deriving DecidableEq

def Misfit.text : Misfit → String
  | .expectedValue => "Expecting value"
  | .expectedName => "Expecting property name enclosed in double quotes"
  | .expectedColon => "Expecting ':' delimiter"
  | .expectedComma => "Expecting ',' delimiter"
  | .unterminated => "Unterminated string starting at"
  | .controlCharacter => "Invalid control character at"
  | .escape => "Invalid \\escape"
  | .unicodeEscape => "Invalid \\uXXXX escape"
  | .extraData => "Extra data"
  | .byteOrderMark => "Unexpected UTF-8 BOM (decode using utf-8-sig)"

inductive Stop where
  | misfit (what : Misfit) (left : Nat)
  | numeral (digits : Nat)
  | tooDeep
  deriving DecidableEq

def misfit {α : Type} (what : Misfit) (left : List Symbol) : Except Stop α :=
  .error (.misfit what left.length)

/-- How deep a text may be nested to be read: as deep as the stack leaves room for, which depends on
what else stands there, but is never less than two hundred. -/
class Nesting where
  depth : Nat
  le_depth : 200 ≤ depth

/-- The room that a stack has with little else on it. -/
instance Nesting.standard : Nesting := ⟨960, by decide⟩

def isSpace : Symbol → Bool
  | .char c => c = ' ' || c = '\t' || c = '\n' || c = '\r'
  | .lone _ => false

def skipSpace (s : List Symbol) : List Symbol := s.dropWhile isSpace

def hexValue? : Symbol → Option Nat
  | .char c =>
    if c.isDigit then some (c.toNat - '0'.toNat)
    else if 'a' ≤ c ∧ c ≤ 'f' then some (c.toNat - 'a'.toNat + 10)
    else if 'A' ≤ c ∧ c ≤ 'F' then some (c.toNat - 'A'.toNat + 10)
    else none
  | .lone _ => none

def unit? (a b c d : Symbol) : Option Nat := do
  let high := (← hexValue? a) * 16 + (← hexValue? b)
  return (high * 16 + (← hexValue? c)) * 16 + (← hexValue? d)

def escaped? : Char → Option Char
  | '"' => some '"'
  | '\\' => some '\\'
  | '/' => some '/'
  | 'b' => some '\x08'
  | 'f' => some '\x0c'
  | 'n' => some '\n'
  | 'r' => some '\r'
  | 't' => some '\t'
  | _ => none

/-- The character of an escaped high surrogate and an escaped low one. -/
def pair? (high : Nat) (a b c d : Symbol) : Option Symbol := do
  let low ← unit? a b c d
  if isHighSurrogate high && isLowSurrogate low then some (.ofNat (joinSurrogates high low))
  else none

/-- A string after its opening quote, from which on `opened` symbols are left. The symbols done
stand last one first. -/
def stringTail (opened : Nat) (done : List Symbol) :
    List Symbol → Except Stop (LooseText × List Symbol)
  | [] => .error (.misfit .unterminated opened)
  | .char '"' :: rest => .ok (.ofSymbols done.reverse, rest)
  | .char '\\' :: .char 'u' :: a :: b :: c :: d :: .char '\\' :: .char 'u' :: e :: f :: g :: h ::
      r :: rest =>
    match unit? a b c d with
    | some u =>
      match pair? u e f g h with
      | some s => stringTail opened (s :: done) (r :: rest)
      | none =>
        stringTail opened (.ofNat u :: done)
          (.char '\\' :: .char 'u' :: e :: f :: g :: h :: r :: rest)
    | none => .error (.misfit .unicodeEscape (rest.length + 12))
  | .char '\\' :: .char 'u' :: a :: b :: c :: d :: rest =>
    match unit? a b c d with
    | some u =>
      if rest = [] then .error (.misfit .unicodeEscape 5)
      else stringTail opened (.ofNat u :: done) rest
    | none => .error (.misfit .unicodeEscape (rest.length + 5))
  | .char '\\' :: .char 'u' :: rest => .error (.misfit .unicodeEscape (rest.length + 1))
  | .char '\\' :: e :: rest =>
    match escaped? e.shown with
    | some c => stringTail opened (.char c :: done) rest
    | none => .error (.misfit .escape (rest.length + 2))
  | [.char '\\'] => .error (.misfit .unterminated opened)
  | c :: rest =>
    if c.shown.toNat < 0x20 then .error (.misfit .controlCharacter (rest.length + 1))
    else stringTail opened (c :: done) rest

def isDigit : Symbol → Bool
  | .char c => c.isDigit
  | .lone _ => false

/-- The digits at the head of a text, and the rest. -/
def digits (s : List Symbol) : List Char × List Symbol :=
  ((s.takeWhile isDigit).filterMap Symbol.char?, s.dropWhile isDigit)

/-- One optional sign: whether it is a minus, and the rest. -/
def sign : List Symbol → Bool × List Symbol
  | .char '-' :: s => (true, s)
  | .char '+' :: s => (false, s)
  | s => (false, s)

/-- The digits after a point, if there is one and a digit follows it. -/
def fraction? : List Symbol → Option (List Char × List Symbol)
  | .char '.' :: s =>
    let (ds, rest) := digits s
    if ds = [] then none else some (ds, rest)
  | _ => none

/-- A power of ten, if there is one with a digit in it. -/
def exponent? : List Symbol → Option (Int × List Symbol)
  | .char c :: s =>
    if c = 'e' ∨ c = 'E' then
      let (negative, s) := sign s
      let (ds, rest) := digits s
      if ds = [] then none else some (applySign negative (Nat.ofDigitChars 10 ds 0), rest)
    else none
  | _ => none

/-- The digits before a point: a zero alone, or digits that start with another one. -/
def wholeDigits : List Symbol → List Char × List Symbol
  | .char '0' :: s => (['0'], s)
  | s => digits s

def number (s : List Symbol) : Except Stop (Json × List Symbol) :=
  let (negative, body) := match s with
    | .char '-' :: rest => (true, rest)
    | _ => (false, s)
  let (ds, rest) := wholeDigits body
  if ds = [] then misfit .expectedValue s
  else
    let (fs, afterFraction, fractional) := match fraction? rest with
      | some (fs, r) => (fs, r, true)
      | none => ([], rest, false)
    let decimal (power : Int) : Json :=
      .float (.ofDecimal negative (Nat.ofDigitChars 10 (ds ++ fs) 0) (power - fs.length))
    match exponent? afterFraction with
    | some (power, r) => .ok (decimal power, r)
    | none =>
      if fractional then .ok (decimal 0, afterFraction)
      else if maxDigits < ds.length then .error (.numeral ds.length)
      else .ok (.int (applySign negative (Nat.ofDigitChars 10 ds 0)), rest)

/-- What is left after a fixed word. -/
def afterWord? : List Char → List Symbol → Option (List Symbol)
  | [], s => some s
  | _ :: _, [] => none
  | w :: ws, c :: s => if c = .char w then afterWord? ws s else none

def constants : List (List Char × Json) := [
  (['n', 'u', 'l', 'l'], .null),
  (['t', 'r', 'u', 'e'], .bool true),
  (['f', 'a', 'l', 's', 'e'], .bool false),
  (['N', 'a', 'N'], .float .nan),
  (['I', 'n', 'f', 'i', 'n', 'i', 't', 'y'], .float (.infinite false)),
  (['-', 'I', 'n', 'f', 'i', 'n', 'i', 't', 'y'], .float (.infinite true))]

def constantOf : List (List Char × Json) → List Symbol → Except Stop (Json × List Symbol)
  | [], s => number s
  | (word, v) :: more, s =>
    match afterWord? word s with
    | some rest => .ok (v, rest)
    | none => constantOf more s

/-- The items of an array up to its closing bracket; `count` bounds their number. -/
def items (value : List Symbol → Except Stop (Json × List Symbol)) :
    (count : Nat) → (done : List Json) → List Symbol → Except Stop (Json × List Symbol)
  | 0, _, s => misfit .expectedValue s
  | count + 1, done, s => do
    let (v, rest) ← value s
    match skipSpace rest with
    | .char ']' :: rest => .ok (.arr (v :: done).reverse, rest)
    | .char ',' :: rest => items value count (v :: done) (skipSpace rest)
    | rest => misfit .expectedComma rest

/-- The members of an object up to its closing brace; `count` bounds their number. -/
def members (value : List Symbol → Except Stop (Json × List Symbol)) :
    (count : Nat) → (done : Members) → List Symbol → Except Stop (Json × List Symbol)
  | 0, _, s => misfit .expectedName s
  | count + 1, done, s =>
    match s with
    | .char '"' :: tail => do
      let (key, rest) ← stringTail s.length [] tail
      match skipSpace rest with
      | .char ':' :: rest =>
        let (v, rest) ← value (skipSpace rest)
        match skipSpace rest with
        | .char '\x7d' :: rest => .ok (.obj (put key v done), rest)
        | .char ',' :: rest => members value count (put key v done) (skipSpace rest)
        | rest => misfit .expectedComma rest
      | rest => misfit .expectedColon rest
    | _ => misfit .expectedName s

/-- A value at the head of a text, nested at most `depth` deep. -/
def value : (depth : Nat) → List Symbol → Except Stop (Json × List Symbol)
  | _, .char '"' :: rest => do
    let (t, rest) ← stringTail (rest.length + 1) [] rest
    return (.str t, rest)
  | 0, .char '[' :: _ => .error .tooDeep
  | 0, .char '\x7b' :: _ => .error .tooDeep
  | depth + 1, .char '[' :: rest =>
    match skipSpace rest with
    | .char ']' :: rest => .ok (.arr [], rest)
    | s => items (value depth) (s.length + 1) [] s
  | depth + 1, .char '\x7b' :: rest =>
    match skipSpace rest with
    | .char '\x7d' :: rest => .ok (.obj [], rest)
    | s => members (value depth) (s.length + 1) [] s
  | _, s => constantOf constants s

/-- Why a text is no JSON: a misfit at a place, a numeral of too many digits, nesting too deep. -/
inductive Fault where
  | misfit (what : Misfit) (line column position : Nat)
  | numeral (digits : Nat)
  | tooDeep
  | encoding (fault : EncodingFault)
  deriving DecidableEq

def Fault.message : Fault → String
  | .misfit what line column position =>
    what.text ++ ": line " ++ natText line ++ " column " ++ natText column ++
      " (char " ++ natText position ++ ")"
  | .numeral digits => (NumeralFault.tooLong digits).message
  | .tooDeep => "maximum recursion depth exceeded while decoding a JSON document"
  | .encoding fault => fault.message

def Stop.locate (text : List Symbol) : Stop → Fault
  | .misfit what left =>
    let before := text.take (text.length - left)
    let line := before.count (.char '\n') + 1
    let column := (before.reverse.takeWhile (· ≠ .char '\n')).length + 1
    .misfit what line column before.length
  | .numeral digits => .numeral digits
  | .tooDeep => .tooDeep

section Documents

variable [Nesting]

def document (text : List Symbol) : Except Stop Json := do
  let (v, rest) ← value Nesting.depth (skipSpace text)
  match skipSpace rest with
  | [] => return v
  | rest => misfit .extraData rest

def readSymbols (text : List Symbol) : Except Fault Json :=
  (document text).mapError (·.locate text)

/-- A text does not start with a byte order mark. -/
def read (text : String) : Except Fault Json :=
  match text.toList with
  | '\ufeff' :: _ => .error (.misfit .byteOrderMark 1 1 0)
  | cs => readSymbols (cs.map .char)

def readOctets (bs : List UInt8) : Except Fault Json :=
  match decodeDetected bs with
  | .ok ss => readSymbols ss
  | .error f => .error (.encoding f)

end Documents

end AllowanceProxy.Json
