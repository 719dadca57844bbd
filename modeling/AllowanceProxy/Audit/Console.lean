import AllowanceProxy.Audit.Markup
import AllowanceProxy.Audit.Report
import AllowanceProxy.Text.LowerCase

/-!
Consoles that take markup, and reports as plain text. A text cannot be printed if a tag in it closes
what is not open, or if the parameters of a handler cannot be read.
-/
namespace AllowanceProxy.Audit

open Text

def markupFault (f : Markup.Fault) : Error := .library "MarkupError" f.message

namespace Printed

/-- The texts in the order in which they are looked at: in a table column by column, and the title
behind them. -/
def texts : Printed → List String
  | .line s => [s]
  | .table title columns rows =>
    (List.range columns.length).flatMap (fun i => (columns :: rows).filterMap (·[i]?)) ++ [title]

def markupFault? (s : Styling) (p : Printed) : Option Error :=
  p.texts.findSome? fun text =>
    match Markup.shown s text with
    | .error f => some (markupFault f)
    | .ok _ => none

end Printed

def Console.ofStyling (s : Styling) : Console where
  fault? := Printed.markupFault? s
  isRefusal_of_fault p err h := by
    obtain ⟨text, -, htext⟩ := List.exists_of_findSome?_eq_some h
    split at htext
    · obtain rfl := Option.some.inj htext
      rfl
    · cases htext

/-- A terminal without colours: a style goes by its name in any letter case, and no handlers are
read. -/
def Styling.plain : Styling where
  normal cs := lowerCase (trimBy isSpacing cs)
  handlerFault? _ := none
  at_mem_of_mem_normal _ h := mem_of_mem_trimBy (at_mem_of_mem_lowerCase h)

/-- A text without its markup. -/
def plainText (s : String) : String :=
  match Markup.shown .plain s with
  | .ok text => text
  | .error _ => s

def rowText (cells : List String) : String := String.intercalate " | " (cells.map plainText)

def Printed.text : Printed → String
  | .line s => plainText s
  | .table title columns rows =>
    String.intercalate "\n" (title :: rowText columns :: rows.map rowText)

def usage : String :=
  "usage: audit [-h] [--database-url DATABASE_URL] [--slot SLOT] [--verbose]"

/-- The exit status of a verdict. -/
def exitStatus (valid : Bool) : UInt32 := if valid then 0 else 1

end AllowanceProxy.Audit
