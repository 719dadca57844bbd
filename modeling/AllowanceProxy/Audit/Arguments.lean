import AllowanceProxy.Text.DecimalDigit

/-!
The arguments of the audit. Long options may be shortened, options of one letter may be joined,
and a value may be attached by an equals sign or follow as the next argument.
-/
namespace AllowanceProxy.Audit

inductive Flag where
  | help
  | databaseUrl
  | slot
  | verbose
  deriving DecidableEq

namespace Flag

def all : List Flag := [.help, .databaseUrl, .slot, .verbose]

def name : Flag → List Char
  | .help => "--help".toList
  | .databaseUrl => "--database-url".toList
  | .slot => "--slot".toList
  | .verbose => "--verbose".toList

def takesValue : Flag → Bool
  | .databaseUrl | .slot => true
  | _ => false

def ofLetter? : Char → Option Flag
  | 'h' => some .help
  | 'v' => some .verbose
  | _ => none

end Flag

structure Arguments where
  databaseUrl : Option String
  slot : Option String
  verbose : Bool
  deriving DecidableEq

/-- What an argument is by itself. Letters are malformed if something follows them that is none. -/
inductive Argument where
  | flag (flag : Flag) (attached : Option (List Char))
  | letters (flags : List Flag)
  | malformed
  | separator
  | value (cs : List Char)
  | unknown
  | ambiguous
  deriving DecidableEq

def isDigit (c : Char) : Bool := (Text.decimalValue? c).isSome

/-- Digits of any script, with a point before the last of them or none; the line may end after
them. -/
def isNumber (cs : List Char) : Bool :=
  let cs := if cs.getLast? = some '\n' then cs.dropLast else cs
  let whole := cs.takeWhile isDigit
  match cs.drop whole.length with
  | [] => whole ≠ []
  | '.' :: fraction => fraction ≠ [] && fraction.all isDigit
  | _ => false

/-- What no option matches is a value if it is a negative number or holds a blank. -/
def unmatched (cs : List Char) : Argument :=
  if isNumber (cs.drop 1) || cs.contains ' ' then .value cs else .unknown

def longArgument (cs : List Char) : Argument :=
  let start := cs.takeWhile (· ≠ '=')
  let attached := match cs.drop start.length with
    | _ :: v => some v
    | [] => none
  match Flag.all.find? fun f => f.name = cs with
  | some f => .flag f none
  | none =>
    match Flag.all.filter fun f => start.isPrefixOf f.name with
    | [] => unmatched cs
    | [f] => .flag f attached
    | _ => .ambiguous

/-- Letters of options, unless the first one is none. An equals sign may stand after the first
letter and before others. -/
def lettersArgument (cs : List Char) : Argument :=
  match cs with
  | [] => unmatched ['-']
  | c :: rest =>
    match Flag.ofLetter? c, rest with
    | none, _ => unmatched ('-' :: cs)
    | some _, ['='] => .malformed
    | some f, rest =>
      let more := if rest.head? = some '=' then rest.drop 1 else rest
      match more.mapM Flag.ofLetter? with
      | some fs => .letters (f :: fs)
      | none => .malformed

def Argument.ofText (s : String) : Argument :=
  match s.toList with
  | ['-'] => .value ['-']
  | ['-', '-'] => .separator
  | '-' :: '-' :: cs => longArgument ('-' :: '-' :: cs)
  | '-' :: cs => lettersArgument cs
  | cs => .value cs

inductive Parsed where
  | run (arguments : Arguments)
  | help
  | bad
  deriving DecidableEq

/-- A separator that is attached to an option takes back what was given before. -/
def Arguments.set (a : Arguments) (f : Flag) (v : List Char) : Arguments :=
  let given := if v = ['-', '-'] then none else some (String.ofList v)
  match f with
  | .databaseUrl => { a with databaseUrl := given }
  | .slot => { a with slot := given }
  | _ => a

/-- Reads arguments from the left. What is left over makes them bad, unless help comes first. -/
def parseFrom (a : Arguments) (leftOver : Bool) : List Argument → Parsed
  | [] => if leftOver then .bad else .run a
  | .flag f (some v) :: rest =>
    if f.takesValue then parseFrom (a.set f v) leftOver rest else .bad
  | .flag .help none :: _ => .help
  | .flag .verbose none :: rest => parseFrom { a with verbose := true } leftOver rest
  | .flag f none :: .value v :: rest => parseFrom (a.set f v) leftOver rest
  | .flag _ none :: _ => .bad
  | .letters fs :: rest =>
    if fs.contains .help then .help else parseFrom { a with verbose := true } leftOver rest
  | .malformed :: _ => .bad
  | .separator :: _ => .bad
  | .value _ :: rest => parseFrom a true rest
  | .unknown :: rest => parseFrom a true rest
  | .ambiguous :: _ => .bad

def Arguments.parse (argv : List String) : Parsed :=
  let before := argv.takeWhile (· ≠ "--")
  let arguments := argv.map Argument.ofText
  if before.any fun s => Argument.ofText s = .ambiguous then .bad
  else parseFrom ⟨none, none, false⟩ false arguments

/-- A value that is given and not empty. -/
def orDefault (value : Option String) (default : String) : String :=
  match value with
  | some s => if s = "" then default else s
  | none => default

end AllowanceProxy.Audit
