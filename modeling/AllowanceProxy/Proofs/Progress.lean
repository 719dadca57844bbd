import AllowanceProxy.Account.Execute
import Mathlib.Tactic.Common

/-!
Responses are built up by appending. What a message adds to a response, and what it does to the
account, does not depend on the response that is there already, nor on what a map of responses
leaves of it.
-/
namespace AllowanceProxy

attribute [ext] Response

instance : Append Response :=
  ⟨fun r r' => ⟨r.messages ++ r'.messages, r.attributes ++ r'.attributes⟩⟩

namespace Response

variable (r r' : Response)

@[simp] theorem messages_append : (r ++ r').messages = r.messages ++ r'.messages := rfl

@[simp] theorem attributes_append : (r ++ r').attributes = r.attributes ++ r'.attributes := rfl

@[simp] theorem empty_append : Response.empty ++ r = r := rfl

@[simp] theorem append_empty : r ++ Response.empty = r := by ext1 <;> simp [empty]

theorem append_assoc (r'' : Response) : r ++ r' ++ r'' = r ++ (r' ++ r'') := by ext1 <;> simp

@[simp] theorem append_add (key value : String) :
    (r ++ r').add key value = r ++ r'.add key value := by ext1 <;> simp [add]

@[simp] theorem append_addSources (x : Sourced) :
    (r ++ r').addSources x = r ++ r'.addSources x := by ext1 <;> simp [addSources]

@[simp] theorem append_forward (ms : List Message) :
    (r ++ r').forward ms = r ++ r'.forward ms := by ext1 <;> simp [forward]

/-- What one sending adds to a response, a map of responses turns into what the other one adds to
the response that is mapped. -/
structure Carries (f : Response → Response) (s s' : Sending) : Prop where
  sender : s'.sender = s.sender
  now : s'.now = s.now
  add : ∀ r key value, f (r.add key value) = (f r).add key value
  addSources : ∀ r x, f (r.addSources x) = (f r).addSources x
  forward : ∀ r ms, f (r.forward (s.forwarded ms)) = (f r).forward (s'.forwarded ms)

theorem carries_append (s : Sending) : Carries (r ++ ·) s s where
  sender := rfl
  now := rfl
  add r' key value := (append_add r r' key value).symm
  addSources r' x := (append_addSources r r' x).symm
  forward r' ms := (append_forward r r' (s.forwarded ms)).symm

end Response

namespace Account

variable {σ : Type}

def Progress.through (f : Response → Response) (p : Progress) : Progress :=
  ⟨p.account, f p.response⟩

@[simp] theorem Progress.account_through (f : Response → Response) (p : Progress) :
    (p.through f).account = p.account := rfl

@[simp] theorem Progress.response_through (f : Response → Response) (p : Progress) :
    (p.through f).response = f p.response := rfl

/-- The progress with a response in front of its own. -/
def Progress.behind (r : Response) (p : Progress) : Progress := ⟨p.account, r ++ p.response⟩

@[simp] theorem Progress.account_behind (r : Response) (p : Progress) :
    (p.behind r).account = p.account := rfl

@[simp] theorem Progress.response_behind (r : Response) (p : Progress) :
    (p.behind r).response = r ++ p.response := rfl

section Through

variable {f : Response → Response} {s s' : Sending} (h : Response.Carries f s s')
  (e : Engine σ) (p : Progress) (m : Message) (c : Movement)
include h

theorem repayDebt_through (asset : Coin) :
    repayDebt e (p.through f) asset =
      (fun q => (q.1.through f, q.2)) <$> repayDebt e p asset := by
  simp only [repayDebt, Progress.account_through, Progress.response_through, ← h.add,
    ← h.addSources]
  split
  · rfl
  · simp only [map_bind, map_pure, Progress.through]

theorem repayWith_through :
    repayWith e (p.through f) c = (fun q => (q.1.through f, q.2)) <$> repayWith e p c := by
  simp only [repayWith, repayDebt_through h, Progress.account_through]
  split
  · by_cases hdebt : p.account.feeDebt = 0
    · simp only [hdebt, ↓reduceIte, map_pure]
    · simp only [hdebt, ↓reduceIte, map_bind, map_pure, bind_map_left]
  · rfl

theorem executeAsOwner_through :
    executeAsOwner e s' (p.through f) m c = Progress.through f <$> executeAsOwner e s p m c := by
  rw [executeAsOwner, repayWith_through h]
  simp only [executeAsOwner, map_bind, map_pure, bind_map_left, Progress.through, h.add,
    h.forward]

theorem executeSpend_through :
    executeSpend e s' (p.through f) m c = Progress.through f <$> executeSpend e s p m c := by
  simp only [executeSpend, repayWith_through h, Progress.account_through, h.sender, h.now]
  split
  · rfl
  · simp only [map_bind, map_pure, bind_map_left, Progress.through, h.add, h.addSources,
      h.forward]

variable [Json.Nesting]

theorem executeAsOther_through :
    executeAsOther e s' (p.through f) m c = Progress.through f <$> executeAsOther e s p m c := by
  simp only [executeAsOther, executeSpend_through h, Progress.account_through, h.sender,
    Progress.response_through, map_bind]
  congr 1
  funext covered
  cases covered
  · simp only [Bool.false_eq_true, ↓reduceIte, map_bind]
  · simp only [↓reduceIte, map_pure, Progress.through, h.add, h.forward]

theorem executeMessage_through :
    executeMessage e s' (p.through f) m = Progress.through f <$> executeMessage e s p m := by
  simp only [executeMessage, executeAsOwner_through h, executeAsOther_through h,
    Progress.account_through, h.sender, map_bind]
  congr 1
  funext c
  by_cases howner : p.account.IsOwner s.sender
  · simp only [howner, ↓reduceIte]
  · simp only [howner, ↓reduceIte]

theorem executeAll_through (ms : List Message) :
    executeAll e s' (p.through f) ms = Progress.through f <$> executeAll e s p ms := by
  induction ms generalizing p with
  | nil => simp only [executeAll, map_pure]
  | cons m ms ih => simp only [executeAll, executeMessage_through h, bind_map_left, ih, map_bind]

end Through

variable [Json.Nesting] (e : Engine σ) (s : Sending) (r : Response) (p : Progress)

theorem executeMessage_behind (m : Message) :
    executeMessage e s (p.behind r) m = Progress.behind r <$> executeMessage e s p m :=
  executeMessage_through (r.carries_append s) e p m

theorem executeAll_behind (ms : List Message) :
    executeAll e s (p.behind r) ms = Progress.behind r <$> executeAll e s p ms :=
  executeAll_through (r.carries_append s) e p ms

end Account

end AllowanceProxy
