import AllowanceProxy.Account.Manage

/-! The operations on an account, by anyone and in any order. -/
namespace AllowanceProxy.Account

variable [Json.Nesting] {σ : Type}

inductive Operation where
  | execute (sending : Sending) (messages : List Message)
  | canSpend (sender : String) (now : Int) (messages : List Message)
  | addWallet (sender : String) (wallet : Wallet)
  | removeWallet (sender address : String)
  | addRule (sender : String) (rule : Rule)
  | removeRule (sender : String) (rule : Rule)
  | proposeOwner (sender newOwner : String) (now : Int)
  | confirmOwner (sender : String) (now : Int)
  | cancelOwner (sender : String)

inductive Answer where
  | response (response : Response)
  | verdict (verdict : SpendVerdict)

def answering (o : Outcome Account Response) : Outcome Account Answer := (o.1.map .response, o.2)

def perform (e : Engine σ) (a : Account) : Operation → StateM σ (Outcome Account Answer)
  | .execute s ms => do return answering (← a.execute e s ms)
  | .canSpend sender now ms => do return ((← (a.canSpend e sender now ms).run).map .verdict, a)
  | .addWallet sender w => return answering (addWallet e.reference a sender w)
  | .removeWallet sender address => return answering (a.removeWallet sender address)
  | .addRule sender r => return answering (a.addRule sender r)
  | .removeRule sender r => return answering (a.removeRule sender r)
  | .proposeOwner sender newOwner now => return answering (a.proposeOwner sender newOwner now)
  | .confirmOwner sender now => return answering (a.confirmOwner sender now)
  | .cancelOwner sender => return answering (a.cancelOwner sender)

/-- Operations one after another: the outcome of each, and the account in the end. -/
def performAll (e : Engine σ) : Account → List Operation →
    StateM σ (List (Except Error Answer) × Account)
  | a, [] => return ([], a)
  | a, o :: os => do
    let (outcome, a) ← perform e a o
    let (outcomes, a) ← performAll e a os
    return (outcome :: outcomes, a)

end AllowanceProxy.Account
