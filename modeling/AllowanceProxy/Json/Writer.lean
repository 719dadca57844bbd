import AllowanceProxy.Json.Basic
import AllowanceProxy.Number.Shortest
import AllowanceProxy.Text.Quoted

/-! The compact form of JSON: ASCII without blanks, members in order. -/
namespace AllowanceProxy.Json

open Number Text

def unitEscape (u : Nat) : List Char := '\\' :: 'u' :: hexDigits 4 u

def escapeChar (c : Char) : List Char :=
  let n := c.toNat
  if c = '"' then ['\\', '"']
  else if c = '\\' then ['\\', '\\']
  else if c = '\n' then ['\\', 'n']
  else if c = '\r' then ['\\', 'r']
  else if c = '\t' then ['\\', 't']
  else if c = '\x0c' then ['\\', 'f']
  else if c = '\x08' then ['\\', 'b']
  else if 0x20 ≤ n && n < 0x7f then [c]
  else if n < 0x10000 then unitEscape n
  else unitEscape (0xd800 + (n - 0x10000) / 0x400) ++ unitEscape (0xdc00 + (n - 0x10000) % 0x400)

def escapeSymbol : Symbol → List Char
  | .char c => escapeChar c
  | .lone u => unitEscape u

def stringChars (t : LooseText) : List Char := '"' :: t.symbols.flatMap escapeSymbol ++ ['"']

def numberNames : Binary64.SpecialNames := ⟨"NaN", "Infinity"⟩

mutual

def chars : Json → List Char
  | .null => ['n', 'u', 'l', 'l']
  | .bool true => ['t', 'r', 'u', 'e']
  | .bool false => ['f', 'a', 'l', 's', 'e']
  | .int n => intDigits n
  | .float x => (x.write numberNames).toList
  | .str s => stringChars s
  | .arr [] => ['[', ']']
  | .arr (v :: vs) => '[' :: chars v ++ itemChars vs
  | .obj [] => ['\x7b', '\x7d']
  | .obj ((k, v) :: ms) => '\x7b' :: stringChars k ++ ':' :: chars v ++ memberChars ms

/-- The items after the first one, and the closing bracket. -/
def itemChars : List Json → List Char
  | [] => [']']
  | v :: vs => ',' :: chars v ++ itemChars vs

/-- The members after the first one, and the closing brace. -/
def memberChars : Members → List Char
  | [] => ['\x7d']
  | (k, v) :: ms => ',' :: stringChars k ++ ':' :: chars v ++ memberChars ms

end

def compact (v : Json) : String := String.ofList (chars v)

end AllowanceProxy.Json
