import AllowanceProxy.Account.Execute

/-!
Founding an account and managing it. Only the owner adds and removes wallets and rules. The
owner proposes a successor, who confirms once the safety delay has passed; both may cancel.
-/
namespace AllowanceProxy.Account

/-- What an account is founded with; the single values are not checked yet. -/
structure Founding where
  owner : Json
  feeRepayAddress : Json
  network : Json
  wallets : List Wallet
  signers : List Signer
  feeDebt : Json
  updateDelay : Json

/-- Wallets are valid, and no two have the same address. -/
def checkWallets (reference : String) : (seen : List String) → List Wallet → Except Error Unit
  | _, [] => .ok ()
  | seen, w :: ws => do
    w.checkValid reference
    if seen.contains w.address then throw .walletExists
    checkWallets reference (w.address :: seen) ws

/-- The account of a founding on a network, if all its single values are sound. -/
def Founding.account (f : Founding) (network : String) (pools : Registry) : Checked Account :=
  (fun owner delay debt repay =>
      ⟨owner, none, none, delay, f.signers, f.wallets, [], pools, debt, repay, network⟩)
    <$> Checked.within (.field "owner") (Decoder.text f.owner)
    <*> Checked.within (.field "update_delay_seconds") (Decoder.nat f.updateDelay)
    <*> Checked.within (.field "fee_debt") (Decoder.nat f.feeDebt)
    <*> Checked.within (.field "fee_repay_address") (Decoder.text f.feeRepayAddress)

def found (reference : String) (f : Founding) : Except Error (Account × Response) := do
  let (network, pools) ← Registry.ofNetwork f.network
  checkWallets reference [] f.wallets
  let a ← Error.ofChecked (f.account network pools)
  return (a, f.signers.foldl (fun r s => r.add "signer" s.address) (.action "instantiate"))

/-- The owner alone may go on. -/
def asOwner (a : Account) (sender : String) (act : Outcome Account Response) :
    Outcome Account Response :=
  if a.IsOwner sender then act else (.error .notOwner, a)

def proposeOwner (a : Account) (sender newOwner : String) (now : Int) :
    Outcome Account Response :=
  a.asOwner sender (.ok (.action "propose_update_owner"),
    { a with pendingOwner := some newOwner, pendingSince := some now })

/-- The moment from which on a proposal may be confirmed. -/
def confirmableFrom (a : Account) : Int := a.pendingSince.getD 0 + a.updateDelay

def confirmOwner (a : Account) (sender : String) (now : Int) : Outcome Account Response :=
  if ¬ a.IsPendingOwner sender then (.error .notPendingOwner, a)
  else if now < a.confirmableFrom then (.error .updateDelayActive, a)
  else (.ok (.action "confirm_update_owner"),
    { a with owner := sender, pendingOwner := none, pendingSince := none })

def cancelOwner (a : Account) (sender : String) : Outcome Account Response :=
  if a.IsOwner sender ∨ a.IsPendingOwner sender then
    (.ok (.action "cancel_update_owner"), { a with pendingOwner := none, pendingSince := none })
  else (.error .notOwner, a)

def addWallet (reference : String) (a : Account) (sender : String) (w : Wallet) :
    Outcome Account Response :=
  a.asOwner sender <| match w.checkValid reference with
    | .error e => (.error e, a)
    | .ok _ =>
      if (a.wallet? w.address).isSome then (.error .walletExists, a)
      else (.ok (.action "add_permissioned_address"), { a with wallets := a.wallets ++ [w] })

/-- The wallets without the first one of an address. -/
def eraseWallet (address : String) : List Wallet → List Wallet
  | [] => []
  | w :: ws => if w.address = address then ws else w :: eraseWallet address ws

def removeWallet (a : Account) (sender address : String) : Outcome Account Response :=
  a.asOwner sender <|
    if (a.wallet? address).isSome then
      (.ok (.action "rm_permissioned_address"), { a with wallets := eraseWallet address a.wallets })
    else (.error .walletUnknown, a)

def addRule (a : Account) (sender : String) (r : Rule) : Outcome Account Response :=
  a.asOwner sender <| match RuleBook.add a.rules r with
    | .error e => (.error e, a)
    | .ok rules => (.ok (.action "add_authorization"), { a with rules })

def removeRule (a : Account) (sender : String) (r : Rule) : Outcome Account Response :=
  a.asOwner sender <| match RuleBook.remove a.rules r with
    | .error e => (.error e, a)
    | .ok (_, rules) => (.ok (.action "rm_authorization"), { a with rules })

end AllowanceProxy.Account
