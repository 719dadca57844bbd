import AllowanceProxy.Text.Blank

/-!
Environment files: one variable a line, with comments, quotes, escapes inside quotes, and
references to other variables.
-/
namespace AllowanceProxy.EnvFile

open Text

def isInlineSpace (c : Char) : Bool := isSpacing c && c ≠ '\n'

def skipInline (s : List Char) : List Char := s.dropWhile isInlineSpace

/-- What is left after the rest of the line and its end. -/
def skipLine (s : List Char) : List Char := (s.dropWhile (· ≠ '\n')).drop 1

def skipExport (s : List Char) : List Char :=
  let word := "export".toList
  if word.isPrefixOf s then
    match s.drop word.length with
    | c :: rest => if isInlineSpace c then skipInline rest else s
    | [] => s
  else s

/-- The text up to a closing mark; a character after a backslash closes nothing. -/
def quotedText? (mark : Char) : (done : List Char) → List Char → Option (List Char × List Char)
  | _, [] => none
  | done, '\\' :: c :: rest => quotedText? mark (c :: '\\' :: done) rest
  | _, ['\\'] => none
  | done, c :: rest =>
    if c = mark then some (done.reverse, rest) else quotedText? mark (c :: done) rest

def singleEscape? : Char → Option Char
  | '\\' => some '\\'
  | '\'' => some '\''
  | _ => none

def doubleEscape? : Char → Option Char
  | '\\' => some '\\'
  | '\'' => some '\''
  | '"' => some '"'
  | 'a' => some '\x07'
  | 'b' => some '\x08'
  | 'f' => some '\x0c'
  | 'n' => some '\n'
  | 'r' => some '\r'
  | 't' => some '\t'
  | 'v' => some '\x0b'
  | _ => none

def unescape (escape? : Char → Option Char) : List Char → List Char
  | '\\' :: c :: rest =>
    match escape? c with
    | some e => e :: unescape escape? rest
    | none => '\\' :: unescape escape? (c :: rest)
  | c :: rest => c :: unescape escape? rest
  | [] => []

/-- A value without quotes ends before a blank and a number sign; what comes before it is `blank`
or not. -/
def bareValue : (blank : Bool) → List Char → List Char
  | _, [] => []
  | blank, c :: rest =>
    if blank && c = '#' then []
    else if isSpacing c && (rest.dropWhile isSpacing).head? = some '#' then []
    else c :: bareValue false rest

def trimEnd (s : List Char) : List Char := (s.reverse.dropWhile isSpacing).reverse

/-- The value after an equals sign, and what follows it. -/
def value? (s : List Char) : Option (List Char × List Char) :=
  match skipInline s with
  | '\'' :: rest => (quotedText? '\'' [] rest).map fun p => (unescape singleEscape? p.1, p.2)
  | '"' :: rest => (quotedText? '"' [] rest).map fun p => (unescape doubleEscape? p.1, p.2)
  | value =>
    let line := value.takeWhile (· ≠ '\n')
    let blank := value.length < s.length
    some (trimEnd (bareValue blank line), value.drop line.length)

def key? (s : List Char) : Option (List Char × List Char) :=
  match s with
  | '\'' :: rest =>
    let name := rest.takeWhile (· ≠ '\'')
    match rest.drop name.length with
    | _ :: rest => if name = [] then none else some (name, rest)
    | [] => none
  | _ =>
    let name := s.takeWhile fun c => !(c = '=' || c = '#' || isSpacing c)
    if name = [] then none else some (name, s.drop name.length)

/-- Nothing but a comment may follow on the line. -/
def lineEnd? (s : List Char) : Option (List Char) :=
  let s := skipInline s
  match if s.head? = some '#' then s.dropWhile (· ≠ '\n') else s with
  | [] => some []
  | c :: rest => if c = '\n' then some rest else none

/-- A variable, which has no value if no equals sign follows its name. -/
abbrev Binding := List Char × Option (List Char)

/-- One variable, if the line is well formed, and the text after it. -/
def binding (s : List Char) : Option Binding × List Char :=
  let s := skipExport (s.dropWhile isSpacing)
  if s.head? = some '#' then (none, skipLine s)
  else
    match key? s with
    | none => (none, skipLine s)
    | some (name, s) =>
      let valued := match skipInline s with
        | '=' :: s => (value? s).map fun p => (some p.1, p.2)
        | s => some (none, s)
      match valued with
      | none => (none, skipLine s)
      | some (v, s) =>
        match lineEnd? s with
        | some s => (some (name, v), s)
        | none => (none, skipLine s)

/-- The variables of a text; each takes one character at least. -/
def bindings : (count : Nat) → List Char → List Binding
  | 0, _ => []
  | _, [] => []
  | count + 1, s =>
    let (found, rest) := binding s
    found.toList ++ bindings count rest

/-- The name in a reference, its default, and what follows the closing brace. -/
def reference? (s : List Char) : Option (List Char × List Char × List Char) :=
  let name := s.takeWhile fun c => c ≠ '\x7d' && c ≠ ':'
  match s.drop name.length with
  | '\x7d' :: rest => some (name, [], rest)
  | ':' :: '-' :: rest =>
    let default := rest.takeWhile (· ≠ '\x7d')
    match rest.drop default.length with
    | _ :: rest => some (name, default, rest)
    | [] => none
  | _ => none

/-- Names with their values, which some have not. -/
abbrev Variables := List (String × Option String)

def put (name : String) (value : Option String) : Variables → Variables
  | [] => [(name, value)]
  | (n, v) :: vars =>
    if n = name then (n, value) :: vars else (n, v) :: put name value vars

/-- The text of a variable; one that has no value counts as empty. -/
def textOf? (vars : Variables) (name : String) : Option (List Char) :=
  (vars.find? fun v => v.1 = name).map fun v => (v.2.getD "").toList

/-- References are replaced by values, or else by their default. -/
def expand (vars : Variables) : (count : Nat) → List Char → List Char
  | 0, s => s
  | _, [] => []
  | count + 1, '$' :: '\x7b' :: s =>
    match reference? s with
    | some (name, default, rest) =>
      (textOf? vars (String.ofList name)).getD default ++ expand vars count rest
    | none => '$' :: expand vars count ('\x7b' :: s)
  | count + 1, c :: s => c :: expand vars count s

/-- Later variables come before earlier ones of the same name. -/
def merge (vars more : Variables) : Variables := more.foldl (fun vs p => put p.1 p.2 vs) vars

def define (env vars : Variables) (b : Binding) : Variables :=
  let value := b.2.map fun v => String.ofList (expand (merge env vars) v.length v)
  put (String.ofList b.1) value vars

/-- Lines end with a line feed, whichever way they are written. -/
def withLineFeeds : List Char → List Char
  | '\r' :: '\n' :: s => '\n' :: withLineFeeds s
  | '\r' :: s => '\n' :: withLineFeeds s
  | c :: s => c :: withLineFeeds s
  | [] => []

def withoutByteOrderMark : List Char → List Char
  | '\ufeff' :: s => s
  | s => s

/-- The variables of a file, with references to the environment and to earlier ones. -/
def read (env : Variables) (text : String) : Variables :=
  let s := withLineFeeds (withoutByteOrderMark text.toList)
  (bindings (s.length + 1) s).foldl (define env) []

end AllowanceProxy.EnvFile
