import AllowanceProxy.Number.Digits
import AllowanceProxy.Text.Blank
import AllowanceProxy.Text.Cut

/-!
Markup in a text for a terminal. A tag stands in square brackets and opens a style; one with a slash
in front closes the last open style of its name, or the last of all if it names none. A backslash in
front of a tag makes it a text, and two make a backslash.
-/
namespace AllowanceProxy.Audit

open Number Text

/-- What a terminal makes of the words in tags: the one form of all names that a style has, and what
is wrong with the parameters of a handler. What is no handler by its name is none in its form. -/
structure Styling where
  normal : List Char → List Char
  handlerFault? : List Char → Option String
  at_mem_of_mem_normal : ∀ cs, '@' ∈ normal cs → '@' ∈ cs

namespace Markup

inductive Piece where
  | text (cs : List Char)
  | tag (position : Nat) (cs : List Char)
  deriving DecidableEq

/-- What a tag starts with. -/
def opensTag (c : Char) : Bool := ('a' ≤ c && c ≤ 'z') || c = '#' || c = '/' || c = '@'

def isBracket (c : Char) : Bool := c = '[' || c = ']'

/-- The tag whose opening bracket stands in front, if it ends before another bracket opens. -/
def tagAfter? : List Char → Option (List Char)
  | [] => none
  | c :: cs =>
    let body := cs.takeWhile fun x => !isBracket x
    if opensTag c && (cs.drop body.length).head? = some ']' then some (c :: body) else none

def backslashes (n : Nat) : List Char := List.replicate n '\\'

/-- The pieces of a text from a position on. Of its characters some are `skipped`, as they belong to
a tag that was read, and a number of backslashes stand in front. -/
def scan : (position skipped slashes : Nat) → List Char → List Piece
  | _, _, slashes, [] => [.text (backslashes slashes)]
  | position, skipped + 1, slashes, _ :: cs => scan (position + 1) skipped slashes cs
  | position, 0, slashes, c :: cs =>
    if c = '\\' then scan (position + 1) 0 (slashes + 1) cs
    else if c = '[' then
      match tagAfter? cs with
      | none => .text (backslashes (slashes - 1) ++ ['[']) :: scan (position + 1) 0 0 cs
      | some tag =>
        .text (backslashes (slashes / 2)) ::
          (if slashes % 2 = 0 then .tag position tag else .text ('[' :: tag ++ [']'])) ::
          scan (position + 1) (tag.length + 1) 0 cs
    else .text (backslashes slashes ++ [c]) :: scan (position + 1) 0 0 cs

inductive Fault where
  | unmatched (tag : List Char) (position : Nat)
  | nothingOpen (position : Nat)
  | handler (text : String)
  deriving DecidableEq

def Fault.message : Fault → String
  | .unmatched tag position =>
    "closing tag '[" ++ String.ofList tag ++ "]' at position " ++ natText position ++
      " doesn't match any open tag"
  | .nothingOpen position =>
    "closing tag '[/]' at position " ++ natText position ++ " has nothing to close"
  | .handler text => text

/-- An open style, by its normal name. -/
structure Style where
  name : List Char
  parameters : Option (List Char)
  deriving DecidableEq

variable (s : Styling)

/-- What is open behind the end of a style. The parameters of a handler are read only then. -/
def afterEnd (style : Style) (others : List Style) : Except Fault (List Style) :=
  match style.name, style.parameters with
  | '@' :: _, some (c :: cs) =>
    match s.handlerFault? (c :: cs) with
    | some text => .error (.handler text)
    | none => .ok others
  | _, _ => .ok others

/-- The styles that are open behind a tag, the last one first. -/
def afterTag (position : Nat) (tag : List Char) (styles : List Style) :
    Except Fault (List Style) :=
  let (name, parameters) := cutAt '=' tag
  match name with
  | '/' :: name =>
    let name := trimBy isSpacing name
    if name = [] then
      match styles with
      | [] => .error (.nothingOpen position)
      | style :: others => afterEnd s style others
    else
      let named (style : Style) : Bool := style.name = s.normal name
      match styles.find? named with
      | none => .error (.unmatched tag position)
      | some style => afterEnd s style (styles.eraseP named)
  | _ => .ok (⟨s.normal name, parameters⟩ :: styles)

/-- The characters that are shown of pieces, when styles are open. -/
def render : (styles : List Style) → List Piece → Except Fault (List Char)
  | _, [] => return []
  | styles, .text cs :: ps => return cs ++ (← render styles ps)
  | styles, .tag position tag :: ps => do render (← afterTag s position tag styles) ps

/-- A text as it is shown. -/
def shown (text : String) : Except Fault String :=
  (render s [] (scan 0 0 0 text.toList)).map String.ofList

end Markup

end AllowanceProxy.Audit
