import AllowanceProxy.Text.Loose
import AllowanceProxy.Text.Printable

/-! Quoted text for messages: printable characters stand for themselves, all others are escaped. -/
namespace AllowanceProxy.Text

def hexDigit (n : Nat) : Char := Nat.digitChar (n % 16)

theorem forall_hexDigit {P : Char → Prop} (h : ∀ k : Fin 16, P (Nat.digitChar k)) (n : Nat) :
    P (hexDigit n) := h ⟨n % 16, Nat.mod_lt n (by decide)⟩

/-- The last `width` hexadecimal digits of a number. -/
def hexDigits : Nat → Nat → List Char
  | 0, _ => []
  | width + 1, n => hexDigits width (n / 16) ++ [hexDigit n]

/-- A character beyond ASCII is written by its number. -/
def escapedChar (c : Char) : List Char :=
  let n := c.toNat
  if n < 0x80 then [c]
  else if n < 0x100 then '\\' :: 'x' :: hexDigits 2 n
  else if n < 0x10000 then '\\' :: 'u' :: hexDigits 4 n
  else '\\' :: 'U' :: hexDigits 8 n

def quotedChar (mark c : Char) : List Char :=
  if c = mark || c = '\\' then ['\\', c]
  else if c = '\n' then ['\\', 'n']
  else if c = '\r' then ['\\', 'r']
  else if c = '\t' then ['\\', 't']
  else if isPrintable c then [c]
  else if c.toNat < 0x80 then '\\' :: 'x' :: hexDigits 2 c.toNat
  else escapedChar c

/-- Single quotes, unless the text holds one and no double quote. -/
def quoteMark (cs : List Char) : Char := if '\'' ∈ cs ∧ '"' ∉ cs then '"' else '\''

def quotedSymbol (mark : Char) : Symbol → List Char
  | .char c => quotedChar mark c
  | .lone u => '\\' :: 'u' :: hexDigits 4 u

def quoted (t : LooseText) : String :=
  let mark := quoteMark t.shown
  String.ofList (mark :: t.symbols.flatMap (quotedSymbol mark) ++ [mark])

end AllowanceProxy.Text
