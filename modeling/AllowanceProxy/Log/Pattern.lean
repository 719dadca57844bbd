import AllowanceProxy.Json.Literal
import AllowanceProxy.Number.Rounded

/-!
Patterns of log lines. A directive starts with a percent sign: it names an argument or takes the
next one, and says how to write it. A pattern that does not suit its arguments has no text.
-/
namespace AllowanceProxy.Log

open Text

structure Flags where
  leftAligned : Bool
  signed : Bool
  blank : Bool
  alternate : Bool
  zeroFilled : Bool
  deriving DecidableEq

/-- A width or a precision: none, as written, or an argument. -/
inductive Extent where
  | unset
  | written (n : Nat)
  | argument
  deriving DecidableEq

structure Directive where
  name : Option String
  flags : Flags
  width : Extent
  precision : Extent
  letter : Char
  deriving DecidableEq

inductive Piece where
  | char (c : Char)
  | directive (d : Directive)
  deriving DecidableEq

/-- A name up to its closing parenthesis, with `depth` more of them open inside. -/
def nameTail? : (depth : Nat) → (done : List Char) → List Char → Option (String × List Char)
  | _, _, [] => none
  | 0, done, ')' :: s => some (String.ofList done.reverse, s)
  | depth + 1, done, ')' :: s => nameTail? depth (')' :: done) s
  | depth, done, '(' :: s => nameTail? (depth + 1) ('(' :: done) s
  | depth, done, c :: s => nameTail? depth (c :: done) s

/-- An optional name in parentheses; none if it is not closed. -/
def name? : List Char → Option (Option String × List Char)
  | '(' :: s => (nameTail? 0 [] s).map fun p => (some p.1, p.2)
  | s => some (none, s)

def flagsFrom (f : Flags) : List Char → Flags × List Char
  | '-' :: s => flagsFrom { f with leftAligned := true } s
  | '+' :: s => flagsFrom { f with signed := true } s
  | ' ' :: s => flagsFrom { f with blank := true } s
  | '#' :: s => flagsFrom { f with alternate := true } s
  | '0' :: s => flagsFrom { f with zeroFilled := true } s
  | s => (f, s)

/-- Wider fields and longer precisions are refused. -/
def maxExtent : Nat := 0x7fffffff

/-- An asterisk, or digits that may be left out where `implied` stands for them. -/
def extent? (implied : Extent) : List Char → Option (Extent × List Char)
  | '*' :: s => some (.argument, s)
  | s =>
    let ds := s.takeWhile Char.isDigit
    let n := Nat.ofDigitChars 10 ds 0
    if ds = [] then some (implied, s)
    else if n ≤ maxExtent then some (.written n, s.drop ds.length)
    else none

def precision? : List Char → Option (Extent × List Char)
  | '.' :: s => extent? (.written 0) s
  | s => some (.unset, s)

/-- One letter of size in front of the last one has no meaning. -/
def withoutSize : List Char → List Char
  | 'h' :: s => s
  | 'l' :: s => s
  | 'L' :: s => s
  | s => s

/-- A directive after its percent sign, and what follows it. -/
def directive? (s : List Char) : Option (Directive × List Char) := do
  let (name, s) ← name? s
  let (flags, s) := flagsFrom ⟨false, false, false, false, false⟩ s
  let (width, s) ← extent? .unset s
  let (precision, s) ← precision? s
  match withoutSize s with
  | letter :: s => some (⟨name, flags, width, precision, letter⟩, s)
  | [] => none

/-- The pieces of a pattern; each takes one character at least. Two percent signs stand for one. -/
def pieces? : (count : Nat) → List Char → Option (List Piece)
  | _, [] => some []
  | 0, _ => none
  | count + 1, '%' :: '%' :: s => do return .char '%' :: (← pieces? count s)
  | count + 1, '%' :: s => do
    let (d, s) ← directive? s
    return .directive d :: (← pieces? count s)
  | count + 1, c :: s => do return .char c :: (← pieces? count s)

/-- Arguments in their order, or by name. An argument got by its name is the next one. -/
structure Supply where
  next : List Json
  names : Option Members

namespace Supply

/-- A single object that is not empty gives its members by name. -/
def ofArguments : List Json → Supply
  | [.obj (m :: ms)] => ⟨[.obj (m :: ms)], some (m :: ms)⟩
  | args => ⟨args, none⟩

def take? (s : Supply) : Option (Json × Supply) :=
  match s.next with
  | v :: rest => some (v, { s with next := rest })
  | [] => none

def select? (s : Supply) : Option String → Option Supply
  | none => some s
  | some name => do
    let v ← Json.lookup? name (← s.names)
    return { s with next := [v] }

/-- Arguments in their order must all be taken. -/
def Exhausted (s : Supply) : Prop := s.names.isSome ∨ s.next.isEmpty

instance (s : Supply) : Decidable s.Exhausted := inferInstanceAs (Decidable (_ ∨ _))

end Supply

def wholeArgument? : Json → Option Int
  | .int n => some n
  | .bool b => some (if b then 1 else 0)
  | _ => none

/-- The number of an extent, and the arguments left. -/
def Extent.number? (s : Supply) : Extent → Option (Option Int × Supply)
  | .unset => some (none, s)
  | .written n => some (some n, s)
  | .argument => do
    let (v, s) ← s.take?
    let n ← wholeArgument? v
    if n.natAbs ≤ maxExtent then some (some n, s) else none

/-- The sign, the mark of the base and the digits of a whole number. -/
structure Figures where
  sign : List Char
  mark : List Char
  digits : List Char

def Figures.ofInt (f : Flags) (precision : Nat) (base : Nat) (mark : List Char) (n : Int) :
    Figures :=
  let ds := Nat.toDigits base n.natAbs
  ⟨if n < 0 then ['-'] else [], if f.alternate then mark else [],
    Binary64.zeros (precision - ds.length) ++ ds⟩

/-- Any number without its fraction. -/
def truncated? : Json → Option Int
  | .float x => x.truncate?
  | v => wholeArgument? v

def double? : Json → Option Binary64
  | .float x => some x
  | v => do
    let n ← wholeArgument? v
    match Binary64.ofQuotient (n < 0) n.natAbs 1 with
    | .infinite _ => none
    | x => some x

def Figures.ofDouble (f : Flags) (precision : Nat) (layout : Binary64.Layout) (x : Binary64) :
    Figures :=
  match x.writeRounded layout f.alternate precision Json.literalNames with
  | '-' :: ds => ⟨['-'], [], ds⟩
  | ds => ⟨[], [], ds⟩

def Figures.upper (g : Figures) : Figures :=
  ⟨g.sign, g.mark.map Char.toUpper, g.digits.map Char.toUpper⟩

/-- The figures of a number under a letter for numbers. -/
def figures? (f : Flags) (precision : Option Nat) (letter : Char) (v : Json) : Option Figures :=
  let whole (base : Nat) (mark : List Char) (n : Option Int) : Option Figures :=
    n.map (Figures.ofInt f (precision.getD 0) base mark)
  let double (layout : Binary64.Layout) : Option Figures :=
    (double? v).map (Figures.ofDouble f (precision.getD 6) layout)
  match letter with
  | 'd' | 'i' | 'u' => whole 10 [] (truncated? v)
  | 'o' => whole 8 ['0', 'o'] (wholeArgument? v)
  | 'x' => whole 16 ['0', 'x'] (wholeArgument? v)
  | 'X' => (whole 16 ['0', 'x'] (wholeArgument? v)).map .upper
  | 'e' => double .scientific
  | 'E' => (double .scientific).map .upper
  | 'f' => double .fixed
  | 'F' => (double .fixed).map .upper
  | 'g' => double .general
  | 'G' => (double .general).map .upper
  | _ => none

/-- A text stands for itself, any other value for its literal. -/
def plainText : Json → List Char
  | .str t => t.shown
  | v => v.literal.toList

/-- One character, or the one of a code point. -/
def character? : Json → Option Char
  | .str (.plain s) =>
    match s.toList with
    | [c] => some c
    | _ => none
  | v => do
    let n ← wholeArgument? v
    if 0 ≤ n ∧ n.toNat.isValidChar then some (Char.ofNat n.toNat) else none

def wording? (letter : Char) (v : Json) : Option (List Char) :=
  match letter with
  | 's' => some (plainText v)
  | 'r' => some v.literal.toList
  | 'a' => some (v.literal.toList.flatMap escapedChar)
  | _ => none

def blanks (n : Nat) : List Char := List.replicate n ' '

def aligned (f : Flags) (width : Nat) (cs : List Char) : List Char :=
  if f.leftAligned then cs ++ blanks (width - cs.length) else blanks (width - cs.length) ++ cs

/-- Zeros fill a field between the sign and the digits. -/
def Figures.aligned (f : Flags) (width : Nat) (g : Figures) : List Char :=
  let sign := if g.sign ≠ [] then g.sign else if f.signed then ['+'] else if f.blank then [' ']
    else []
  let front := sign ++ g.mark
  let fill := if f.zeroFilled && !f.leftAligned then
      Binary64.zeros (width - (front ++ g.digits).length)
    else []
  Log.aligned f width (front ++ fill ++ g.digits)

/-- The text of an argument in a field; a negative width aligns it left. -/
def field? (d : Directive) (width precision : Option Int) (v : Json) : Option (List Char) :=
  let width := width.getD 0
  let f := if width < 0 then { d.flags with leftAligned := true } else d.flags
  let precision := precision.map Int.toNat
  match figures? f precision d.letter v with
  | some g => some (g.aligned f width.natAbs)
  | none =>
    if d.letter = 'c' then (character? v).map fun c => aligned f width.natAbs [c]
    else (wording? d.letter v).map fun cs =>
      aligned f width.natAbs (cs.take (precision.getD cs.length))

def directiveText? (s : Supply) (d : Directive) : Option (List Char × Supply) := do
  let s ← s.select? d.name
  let (width, s) ← d.width.number? s
  let (precision, s) ← d.precision.number? s
  let (v, s) ← s.take?
  return (← field? d width precision v, s)

def fill? (s : Supply) : List Piece → Option (List Char)
  | [] => if s.Exhausted then some [] else none
  | .char c :: ps => (fill? s ps).map (c :: ·)
  | .directive d :: ps => do
    let (text, s) ← directiveText? s d
    return text ++ (← fill? s ps)

/-- The text of a pattern with its arguments; without any it stands for itself. -/
def filled? (pattern : String) (arguments : List Json) : Option String :=
  if arguments = [] then some pattern
  else do
    let ps ← pieces? pattern.length pattern.toList
    return String.ofList (← fill? (.ofArguments arguments) ps)

end AllowanceProxy.Log
