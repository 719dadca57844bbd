/-!
Text in which lone surrogates may stand beside characters, as escapes and some codings can spell
it. It has one form: plain text up to the first lone surrogate, and then what follows it.
-/
namespace AllowanceProxy

namespace Text

def isHighSurrogate (n : Nat) : Bool := 0xd800 ≤ n && n < 0xdc00

def isLowSurrogate (n : Nat) : Bool := 0xdc00 ≤ n && n < 0xe000

def joinSurrogates (high low : Nat) : Nat := 0x10000 + (high - 0xd800) * 0x400 + (low - 0xdc00)

def replacement : Char := '\ufffd'

inductive Symbol where
  | char (c : Char)
  | lone (surrogate : Nat)
  deriving DecidableEq

namespace Symbol

def ofNat (n : Nat) : Symbol := if n.isValidChar then .char (Char.ofNat n) else .lone n

def char? : Symbol → Option Char
  | .char c => some c
  | .lone _ => none

/-- A character that shows where a lone surrogate stands. -/
def shown : Symbol → Char
  | .char c => c
  | .lone _ => replacement

theorem ofNat_toNat (c : Char) : ofNat c.toNat = .char c := by
  have h : c.toNat.isValidChar := c.valid
  rw [ofNat, if_pos h, Char.ofNat_toNat]

end Symbol

end Text

open Text

inductive LooseText where
  | plain (s : String)
  | broken (before : String) (surrogate : Nat) (after : LooseText)
  deriving DecidableEq, Inhabited

namespace LooseText

instance : Coe String LooseText := ⟨.plain⟩

/-- The text of symbols, after characters that stand here last one first. -/
def ofSymbolsAfter (done : List Char) : List Symbol → LooseText
  | [] => .plain (String.ofList done.reverse)
  | .char c :: ss => ofSymbolsAfter (c :: done) ss
  | .lone u :: ss => .broken (String.ofList done.reverse) u (ofSymbolsAfter [] ss)

def ofSymbols (ss : List Symbol) : LooseText := ofSymbolsAfter [] ss

def symbols : LooseText → List Symbol
  | .plain s => s.toList.map .char
  | .broken before u after => before.toList.map .char ++ .lone u :: after.symbols

theorem ofSymbolsAfter_chars (done cs : List Char) (ss : List Symbol) :
    ofSymbolsAfter done (cs.map .char ++ ss) = ofSymbolsAfter (cs.reverse ++ done) ss := by
  induction cs generalizing done with
  | nil => rfl
  | cons c cs ih => simp [ofSymbolsAfter, ih]

@[simp] theorem ofSymbols_symbols (t : LooseText) : ofSymbols t.symbols = t := by
  induction t with
  | plain s =>
    have h := ofSymbolsAfter_chars [] s.toList []
    simpa [ofSymbols, symbols, ofSymbolsAfter] using h
  | broken before u after ih =>
    rw [ofSymbols, symbols, ofSymbolsAfter_chars]
    simpa [ofSymbolsAfter, ofSymbols] using ih

def append : LooseText → LooseText → LooseText
  | .plain s, .plain t => .plain (s ++ t)
  | .plain s, .broken before u after => .broken (s ++ before) u after
  | .broken before u after, t => .broken before u (after.append t)

instance : Append LooseText := ⟨append⟩

/-- Characters that show the text, with a replacement for each lone surrogate. -/
def shown (t : LooseText) : List Char := t.symbols.map Symbol.shown

end LooseText

end AllowanceProxy
