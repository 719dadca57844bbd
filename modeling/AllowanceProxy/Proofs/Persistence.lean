import AllowanceProxy.Proofs.Reachable
import AllowanceProxy.Proofs.RoundTrip
import AllowanceProxy.Service

/-!
Persistence. A service that loads and saves the whole record at every call answers like one that
keeps the account in memory, and the record is that account after every call.
-/
namespace AllowanceProxy

open Account Sample

variable {σ : Type}

namespace Store

variable (store : Store) (slot : String)

theorem content?_put_self (content : Json) :
    (put slot content store).content? slot = some content := by
  induction store with
  | nil => simp [put, content?]
  | cons entry rest ih =>
    by_cases h : entry.1 = slot
    · simp [put, content?, h]
    · simpa [put, content?, h] using ih

theorem content?_put_of_ne {other : String} (h : other ≠ slot) (content : Json) :
    (put slot content store).content? other = store.content? other := by
  induction store with
  | nil => simp [put, content?, Ne.symm h]
  | cons entry rest ih =>
    obtain ⟨name, old⟩ := entry
    by_cases hs : name = slot
    · simp [put, content?, hs, Ne.symm h]
    · by_cases ho : name = other
      · simp [put, content?, ho, h]
      · simpa [put, content?, hs, ho] using ih

theorem load_save {a : Account} (h : ∀ w ∈ a.wallets, w.Admissible) :
    (store.save slot a).load slot = .ok (some a) := by
  unfold load save
  rw [content?_put_self]
  simp [Account.decode_toJson h, Error.ofChecked, Except.map]

variable {store slot}

/-- What a slot holds keeps to the bounds of the schema, whoever has written it. -/
theorem admissible_of_load {a : Account} (h : store.load slot = .ok (some a)) :
    ∀ w ∈ a.wallets, w.Admissible := by
  unfold load at h
  split at h
  next => cases h
  next content hcontent =>
    unfold Error.ofChecked at h
    split at h
    next b hb =>
      obtain rfl := Option.some.inj (Except.ok.inj h)
      exact Account.admissible_of_decode hb
    next => cases h

end Store

namespace Service

variable (svc : Service σ)

/-- A request, with the chain as it is at the time. -/
structure Visit (σ : Type) where
  request : Request
  chain : σ

/-- The wallets that come in with a request keep to the bounds of their schema. -/
def Request.Admissible : Request → Prop
  | .found f => ∀ w ∈ f.wallets, w.Admissible
  | .operation o => o.Admissible

variable [Json.Nesting]

/-- The call over a store, and the chain after it. -/
def served (store : Store) (v : Visit σ) : Result × σ := ((svc.call store v.request).run v.chain).run

/-- A call on an account in memory, of which there is none before the founding: its outcome, the
account after it, and the chain after it. -/
def recalled (m : Option Account) (v : Visit σ) : (Except Error Answer × Option Account) × σ :=
  match v.request, m with
  | .found f, m =>
    match Account.found svc.engine.reference { f with network := .str svc.network } with
    | .error err => ((.error err, m), v.chain)
    | .ok (a, response) => ((.ok (.response response), some a), v.chain)
  | .operation _, none => ((.error .notInitialized, none), v.chain)
  | .operation o, some a =>
    let ((outcome, b), c) := performed svc.engine a o v.chain
    ((outcome, some b), c)

/-- One call after another over a store. -/
def serveAll : Store → List (Visit σ) → List (Result × σ)
  | _, [] => []
  | store, v :: vs => svc.served store v :: serveAll (svc.served store v).1.store vs

/-- One call after another in memory. -/
def recallAll : Option Account → List (Visit σ) → List ((Except Error Answer × Option Account) × σ)
  | _, [] => []
  | m, v :: vs => svc.recalled m v :: recallAll (svc.recalled m v).1.2 vs

end Service

/-! A call before the founding, the founding, a spend, one that is too much, and a proposal. -/
namespace Sample

def service : Service Unit := ⟨engine, "local", "main"⟩

def visits : List (Service.Visit Unit) :=
  [⟨.operation (.addWallet "owner" friend), ()⟩, ⟨.found founding, ()⟩,
    ⟨.operation (.execute late [send 30]), ()⟩, ⟨.operation (.execute late [send 30]), ()⟩,
    ⟨.operation (.proposeOwner "owner" "heir" 300), ()⟩]

theorem admissible_visits : ∀ v ∈ visits, v.request.Admissible := by
  simp [visits, Service.Request.Admissible, Operation.Admissible, founding, admissible_wallet,
    admissible_friend]

end Sample

namespace Service

section Calls

variable {svc : Service σ} {store : Store} {m : Option Account} {a : Account} {f : Founding} {o : Operation}
  {c : σ} {v : Visit σ}

/-- The store after an operation has been performed. -/
def kept (svc : Service σ) (store : Store) (o : Operation) (x : Outcome Account Answer) : Store :=
  match x.1 with
  | .ok _ => if saves o then store.save svc.slot x.2 else store
  | .error _ => store

variable [Json.Nesting]

theorem served_operation (loaded : store.load svc.slot = .ok (some a)) :
    svc.served store ⟨.operation o, c⟩ =
      (⟨(performed svc.engine a o c).1.1, svc.kept store o (performed svc.engine a o c).1,
        eventsOf o (performed svc.engine a o c).1.1⟩, (performed svc.engine a o c).2) := by
  simp only [served, call, operate, loaded]
  rfl

/-- What is not saved has not changed. -/
theorem performed_of_not_saves {e : Engine σ} (h : ¬ saves o) : (performed e a o c).1.2 = a := by
  cases o with
  | canSpend sender now ms => exact performed_canSpend a e c sender now ms
  | _ => exact absurd rfl h

/-- Whether it is saved or not, the record is the account that the operation leaves. -/
theorem load_kept (loaded : store.load svc.slot = .ok (some a)) (admissible : o.Admissible) :
    (svc.kept store o (performed svc.engine a o c).1).load svc.slot =
      .ok (some (performed svc.engine a o c).1.2) := by
  have hrestored := restores_performed a svc.engine c o
  have hsame := performed_of_not_saves (e := svc.engine) (a := a) (o := o) (c := c)
  rcases hx : (performed svc.engine a o c).1 with ⟨err | x, b⟩
  all_goals rw [hx] at hrestored hsame
  · obtain rfl : b = a := hrestored err rfl
    exact loaded
  · unfold kept
    simp only
    split
    next =>
      have hwallets := Store.admissible_of_load loaded
      exact store.load_save svc.slot ((effect_of_performed hx).forall_admissible hwallets admissible)
    next hsaves =>
      obtain rfl : b = a := hsame hsaves
      exact loaded

/-- A call over a store that holds what is in memory comes to the same, and leaves a store that
holds what is then in memory. -/
theorem served_of_load (loaded : store.load svc.slot = .ok m) (admissible : v.request.Admissible) :
    (svc.served store v).1.outcome = (svc.recalled m v).1.1 ∧
      (svc.served store v).1.store.load svc.slot = .ok (svc.recalled m v).1.2 ∧
      (svc.served store v).2 = (svc.recalled m v).2 := by
  obtain ⟨r, c⟩ := v
  cases r with
  | found f =>
    have hserved : svc.served store ⟨.found f, c⟩ = (svc.found store f, c) := rfl
    rw [hserved]
    rcases hfounded : Account.found svc.engine.reference { f with network := .str svc.network } with
      err | ⟨a, response⟩
    all_goals simp only [found, recalled, hfounded]
    · exact ⟨trivial, loaded, trivial⟩
    · have hwallets := (sound_of_found hfounded admissible).admissible
      exact ⟨trivial, store.load_save svc.slot hwallets, trivial⟩
  | operation o =>
    cases m with
    | none =>
      simp only [served, call, operate, loaded]
      exact ⟨rfl, loaded, rfl⟩
    | some a =>
      rw [served_operation loaded]
      exact ⟨rfl, load_kept loaded admissible, rfl⟩

/-- The calls one after another come to the same over a store and in memory. -/
theorem map_serveAll {vs : List (Visit σ)} (loaded : store.load svc.slot = .ok m)
    (admissible : ∀ v ∈ vs, v.request.Admissible) :
    (svc.serveAll store vs).map (fun x => (x.1.outcome, x.1.store.load svc.slot, x.2)) =
      (svc.recallAll m vs).map fun y => (y.1.1, .ok y.1.2, y.2) := by
  induction vs generalizing store m with
  | nil => rfl
  | cons v vs ih =>
    obtain ⟨hv, hvs⟩ := List.forall_mem_cons.mp admissible
    obtain ⟨houtcome, hload, hchain⟩ := served_of_load loaded hv
    rw [serveAll, recallAll, List.map_cons, List.map_cons, ih hload hvs, houtcome, hload, hchain]

/-- Before the founding every other call is refused. -/
theorem refused_of_mem_serveAll {vs : List (Visit σ)} (empty : store.load svc.slot = .ok none)
    (operations : ∀ v ∈ vs, ∃ o, v.request = .operation o) :
    ∀ x ∈ svc.serveAll store vs, x.1.outcome = .error .notInitialized ∧ x.1.store = store := by
  induction vs with
  | nil => simp [serveAll]
  | cons v vs ih =>
    obtain ⟨⟨o, ho⟩, hvs⟩ := List.forall_mem_cons.mp operations
    have hserved : svc.served store v = (⟨.error .notInitialized, store, []⟩, v.chain) := by
      simp only [served, call, operate, ho, empty]
      rfl
    rw [serveAll, hserved]
    exact List.forall_mem_cons.mpr ⟨⟨rfl, rfl⟩, ih hvs⟩

variable (svc store v)

/-- A call leaves the store as it is, unless it is accepted and no dry run: then it writes one
record, into its own slot. -/
theorem store_served : (svc.served store v).1.store = store ∨
    ∃ a x, (svc.served store v).1.store = store.save svc.slot a ∧
      (svc.served store v).1.outcome = .ok x ∧
      ∀ sender now ms, v.request ≠ .operation (.canSpend sender now ms) := by
  obtain ⟨r, c⟩ := v
  cases r with
  | found f =>
    have hserved : svc.served store ⟨.found f, c⟩ = (svc.found store f, c) := rfl
    rw [hserved]
    unfold found
    split
    next => exact .inl rfl
    next a response hfounded => exact .inr ⟨a, _, rfl, rfl, by simp⟩
  | operation o =>
    rcases hload : store.load svc.slot with err | _ | a
    · simp only [served, call, operate, hload]
      exact .inl rfl
    · simp only [served, call, operate, hload]
      exact .inl rfl
    · rw [served_operation hload]
      rcases hx : (performed svc.engine a o c).1 with ⟨err | x, b⟩
      · exact .inl rfl
      · by_cases hsaves : saves o
        · refine .inr ⟨b, x, if_pos hsaves, rfl, ?_⟩
          rintro sender now ms ⟨⟩
          cases hsaves
        · exact .inl (if_neg hsaves)

end Calls

/-- On whatever slot, empty or holding a record, the calls one after another come to the same as
in memory, and after every call the record is what is then in memory. On an empty slot all calls
before a founding are refused. A call that fails and a dry run leave the store as it is, and the
other slots are never touched. -/
theorem persistence_refines [Json.Nesting] (svc : Service σ) {store : Store} {m : Option Account}
    {vs : List (Visit σ)} (loaded : store.load svc.slot = .ok m)
    (admissible : ∀ v ∈ vs, v.request.Admissible) :
    (svc.serveAll store vs).map (fun x => (x.1.outcome, x.1.store.load svc.slot, x.2)) =
        (svc.recallAll m vs).map (fun y => (y.1.1, .ok y.1.2, y.2)) ∧
      (m = none → (∀ v ∈ vs, ∃ o, v.request = .operation o) →
        ∀ x ∈ svc.serveAll store vs, x.1.outcome = .error .notInitialized ∧ x.1.store = store) ∧
      ∀ (s : Store) (v : Visit σ),
        (∀ err, (svc.served s v).1.outcome = .error err → (svc.served s v).1.store = s) ∧
        (∀ sender now ms, v.request = .operation (.canSpend sender now ms) →
          (svc.served s v).1.store = s) ∧
        ∀ slot, slot ≠ svc.slot → (svc.served s v).1.store.content? slot = s.content? slot := by
  refine ⟨map_serveAll loaded admissible, ?_, ?_⟩
  · rintro rfl operations
    exact refused_of_mem_serveAll loaded operations
  intro s v
  rcases svc.store_served s v with hsame | ⟨a, x, hsaved, hok, hwet⟩
  · exact ⟨fun _ _ => hsame, fun _ _ _ _ => hsame, fun _ _ => by rw [hsame]⟩
  · refine ⟨?_, ?_, ?_⟩
    · intro err herr
      rw [hok] at herr
      cases herr
    · intro sender now ms hdry
      exact absurd hdry (hwet sender now ms)
    · intro slot hslot
      rw [hsaved]
      exact s.content?_put_of_ne svc.slot hslot a.toJson

theorem persistence_refines_sample :
    (service.serveAll [("other", .null)] visits).map
        (fun x => x.1.outcome.toOption.isSome) = [false, true, true, false, true] ∧
      (service.serveAll [("other", .null)] visits).map
        (fun x => (x.1.outcome, x.1.store.load "main", x.2)) =
          (service.recallAll none visits).map (fun y => (y.1.1, .ok y.1.2, y.2)) := by
  have hempty : Store.load [("other", .null)] service.slot = .ok none := rfl
  exact ⟨by decide +kernel, (persistence_refines service hempty admissible_visits).1⟩

end Service

end AllowanceProxy
