import AllowanceProxy.Calendar
import AllowanceProxy.Store

/-!
The audit of a stored account: its owner, every wallet with its limit and next reset, the rules,
and the pools if asked for. Its verdict is whether every wallet is valid. It is printed on a
console, and what that cannot print ends the audit.
-/
namespace AllowanceProxy.Audit

inductive Printed where
  | line (text : String)
  | table (title : String) (columns : List String) (rows : List (List String))
  deriving DecidableEq

/-- What was printed, and the verdict if there was one. -/
structure Report where
  printed : List Printed
  verdict : Except Error Bool

/-- A console, by what it cannot print. Its faults are its own, and no refusals of a call. -/
structure Console where
  fault? : Printed → Option Error
  isRefusal_of_fault : ∀ p err, fault? p = some err → err.isRefusal = false

namespace Console

/-- A console that prints whatever it is given. -/
def recording : Console := ⟨fun _ => none, fun _ _ h => nomatch h⟩

/-- One after the other is printed, up to the first that cannot be, and then the rest of the report
follows. -/
def printing (c : Console) : List Printed → Report → Report
  | [], rest => rest
  | p :: ps, rest =>
    match c.fault? p with
    | some err => ⟨[], .error err⟩
    | none =>
      let report := c.printing ps rest
      { report with printed := p :: report.printed }

end Console

def opening : Printed := .line "\n[bold blue]═══ Spendguard State Audit ═══[/bold blue]\n"

def closing : Printed := .line "\n[bold blue]═══ Audit Complete ═══[/bold blue]\n"

def missing (slot : String) : Printed :=
  .line ("[yellow]⚠ No state stored in slot '" ++ slot ++ "'[/yellow]")

def joined (parts : List String) : String := String.intercalate ", " parts

def pendingLines (a : Account) : List Printed :=
  match a.pendingOwner with
  | some p => if p = "" then [] else [.line ("  Pending owner: [yellow]" ++ p ++ "[/yellow]")]
  | none => []

def ownerLines (a : Account) : List Printed :=
  .line ("  Owner: [bold]" ++ a.owner ++ "[/bold]") :: pendingLines a ++
    [.line ("  Home network: " ++ a.homeNetwork),
      .line ("  Fee debt: " ++ Number.natText a.feeDebt ++ " (repay to " ++ a.feeRepayAddress ++
        ")")]

def validMark (reference : String) (w : Wallet) : String :=
  if w.IsValid reference then "[green]✓[/green]" else "[red]✗[/red]"

def limitText (l : SpendLimit) : String := Number.natText l.amount ++ " " ++ l.denom

def walletRow (reference : String) (w : Wallet) : Except Error (List String) := do
  return [w.address, Number.natText w.multiple ++ " " ++ w.unit.name,
    joined (w.limits.map limitText), joined (w.limits.map fun l => Number.natText l.remaining),
    ← Calendar.stamp w.nextReset, validMark reference w]

def walletTable (rows : List (List String)) : Printed :=
  .table "Permissioned Addresses"
    ["Address", "Period", "Limit", "Remaining", "Next reset", "Valid"] rows

def pinText (p : String × String) : String := p.1 ++ "=" ++ p.2

def ruleRow (r : Rule) : List String :=
  [r.actor, r.contract, r.messageName,
    if r.pins = [] then "—" else joined (r.pins.map pinText)]

def ruleTable (rules : List Rule) : Printed :=
  .table "Authorization Rules" ["Actor", "Contract", "Message", "Fields"] (rules.map ruleRow)

def poolRow (p : Pool) : List String := [p.contract, p.denom1, p.denom2, p.dialect.name]

def poolTable (pools : Registry) : Printed :=
  .table "Pool Registry" ["Contract", "Denom 1", "Denom 2", "Dialect"] (pools.map poolRow)

def allValid (reference : String) (a : Account) : Bool :=
  a.wallets.all fun w => w.IsValid reference

def statusLine (valid : Bool) : Printed :=
  .line ("\n  Permissioned addresses: " ++
    if valid then "[bold green]✓ VALID[/bold green]" else "[bold red]✗ INVALID[/bold red]")

/-- All tables of an account, and its verdict. -/
def tables (verbose : Bool) (a : Account) (rows : List (List String)) (valid : Bool) :
    List Printed :=
  walletTable rows :: ruleTable a.rules :: (if verbose then [poolTable a.pools] else []) ++
    [statusLine valid, closing]

/-- The report on an account: a reset without a date ends it after the owner. -/
def ofAccount (console : Console) (reference : String) (verbose : Bool) (a : Account) : Report :=
  console.printing (ownerLines a) <|
    match a.wallets.mapM (walletRow reference) with
    | .error err => ⟨[], .error err⟩
    | .ok rows =>
      let valid := allValid reference a
      console.printing (tables verbose a rows valid) ⟨[], .ok valid⟩

def runOn (console : Console) (store : Store) (slot reference : String) (verbose : Bool) :
    Report :=
  console.printing [opening] <|
    match store.load slot with
    | .error err => ⟨[], .error err⟩
    | .ok none => console.printing [missing slot] ⟨[], .ok false⟩
    | .ok (some a) => ofAccount console reference verbose a

/-- The audit where everything can be printed. -/
def run : Store → (slot reference : String) → (verbose : Bool) → Report := runOn .recording

end AllowanceProxy.Audit
