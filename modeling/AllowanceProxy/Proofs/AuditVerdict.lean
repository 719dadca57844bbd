import AllowanceProxy.Proofs.AuditPages
import AllowanceProxy.Proofs.Slots
import AllowanceProxy.Proofs.Verdict
import Mathlib.Data.List.Forall2

/-!
The verdict of an audit. Whatever a slot holds, there is one exactly if every wallet there is reset
at a moment with a date and all pages can be printed, and then it is whether all of them are valid.
What a service has stored is valid in this sense, but nothing keeps its resets within the calendar
or its texts free of markup.
-/
namespace AllowanceProxy

open Account Calendar

section Traversal

variable {α β : Type} {f : α → Except Error β} {xs : List α}

theorem Error.mapM_eq_ok_iff {ys : List β} :
    xs.mapM f = .ok ys ↔ List.Forall₂ (fun x y => f x = .ok y) xs ys := by
  induction xs generalizing ys with
  | nil => cases ys <;> simp [pure, Except.pure]
  | cons x xs ih =>
    rw [List.mapM_cons]
    rcases hx : f x with err | y
    · cases ys <;> simp [bind, Except.bind, hx]
    · rcases hxs : xs.mapM f with err | zs
      · cases ys <;> simp [bind, Except.bind, hx, ← ih, hxs]
      · cases ys <;> simp [bind, Except.bind, pure, Except.pure, hx, ← ih, hxs]

theorem Error.exists_of_mapM {err : Error} (h : xs.mapM f = .error err) :
    ∃ x ∈ xs, f x = .error err := by
  induction xs with
  | nil => cases h
  | cons x xs ih =>
    rw [List.mapM_cons] at h
    rcases hx : f x with err' | y
    · rw [hx] at h
      cases h
      exact ⟨x, List.mem_cons_self, hx⟩
    · rcases hxs : xs.mapM f with err' | ys
      · rw [hx, hxs] at h
        cases h
        obtain ⟨z, hz, hfz⟩ := ih hxs
        exact ⟨z, List.mem_cons_of_mem x hz, hfz⟩
      · rw [hx, hxs] at h
        cases h

theorem Error.exists_of_mem {ys : List β} {x : α}
    (h : List.Forall₂ (fun x y => f x = .ok y) xs ys) (mem : x ∈ xs) : ∃ y, f x = .ok y := by
  induction h with
  | nil => cases mem
  | cons hxy rest ih =>
    rcases List.mem_cons.mp mem with rfl | hx
    · exact ⟨_, hxy⟩
    · exact ih hx

end Traversal

namespace Calendar

variable {t : Int}

theorem stamp_of_dated (h : Dated t) : ∃ text, stamp t = .ok text := by
  unfold stamp
  rw [dateOfSecond_of_dated h]
  exact ⟨_, rfl⟩

theorem stamp_of_not_dated (h : ¬ Dated t) :
    ∃ err, stamp t = .error err ∧ err.isRefusal = false := by
  obtain ⟨err, hdate, hrefusal⟩ := dateOfSecond_of_not_dated h
  unfold stamp
  rw [hdate]
  exact ⟨err, rfl, hrefusal⟩

end Calendar

namespace Audit

variable {reference : String} {a : Account} {w : Wallet}

theorem walletRow_of_dated (reference : String) (h : Dated w.nextReset) :
    ∃ row, walletRow reference w = .ok row := by
  obtain ⟨text, htext⟩ := stamp_of_dated h
  unfold walletRow
  rw [htext]
  exact ⟨_, rfl⟩

theorem walletRow_of_not_dated (reference : String) (h : ¬ Dated w.nextReset) :
    ∃ err, walletRow reference w = .error err ∧ err.isRefusal = false := by
  obtain ⟨err, herr, hrefusal⟩ := stamp_of_not_dated h
  unfold walletRow
  rw [herr]
  exact ⟨err, rfl, hrefusal⟩

theorem allValid_iff :
    allValid reference a = true ↔ ∀ w ∈ a.wallets, w.checkValid reference = .ok () := by
  have hvalid (w : Wallet) : w.IsValid reference ↔ w.checkValid reference = .ok () :=
    ⟨fun h => if_pos h, Wallet.checkValid_ok⟩
  simp [allValid, hvalid]

section Run

variable {store : Store} {slot : String}

theorem shows_of_none (console : Console) (reference : String) (verbose : Bool)
    (loaded : store.load slot = .ok none) :
    console.Shows [opening, missing slot] (.ok false)
      (runOn console store slot reference verbose) := by
  unfold runOn
  rw [loaded]
  simp only
  rw [← Console.printing_append]
  exact console.shows_printing _ _

variable (console : Console) (reference : String) (verbose : Bool)
  (loaded : store.load slot = .ok (some a))
include loaded

theorem shows_of_dated (dated : ∀ w ∈ a.wallets, Dated w.nextReset) :
    ∃ rows, List.Forall₂ (fun w row => walletRow reference w = .ok row) a.wallets rows ∧
      console.Shows (pages verbose a rows (allValid reference a)) (.ok (allValid reference a))
        (runOn console store slot reference verbose) := by
  rcases hrows : a.wallets.mapM (walletRow reference) with err | rows
  · obtain ⟨w, hw, hrow⟩ := Error.exists_of_mapM hrows
    obtain ⟨row, hok⟩ := walletRow_of_dated reference (dated w hw)
    cases hrow.symm.trans hok
  · refine ⟨rows, Error.mapM_eq_ok_iff.mp hrows, ?_⟩
    unfold runOn ofAccount
    rw [loaded]
    simp only [hrows]
    rw [← Console.printing_append, ← Console.printing_append]
    exact console.shows_printing _ _

theorem shows_of_undated (undated : ∃ w ∈ a.wallets, ¬ Dated w.nextReset) :
    ∃ err, err.isRefusal = false ∧ console.Shows (opening :: ownerLines a) (.error err)
      (runOn console store slot reference verbose) := by
  obtain ⟨w, hw, hundated⟩ := undated
  rcases hrows : a.wallets.mapM (walletRow reference) with err | rows
  · have hrefusal : err.isRefusal = false := by
      obtain ⟨v, -, hrow⟩ := Error.exists_of_mapM hrows
      by_cases hv : Dated v.nextReset
      · obtain ⟨row, hok⟩ := walletRow_of_dated reference hv
        cases hrow.symm.trans hok
      · obtain ⟨err', herr, hrefusal⟩ := walletRow_of_not_dated reference hv
        obtain rfl := Except.error.inj (hrow.symm.trans herr)
        exact hrefusal
    refine ⟨err, hrefusal, ?_⟩
    unfold runOn ofAccount
    rw [loaded]
    simp only [hrows]
    rw [← Console.printing_append]
    exact console.shows_printing _ _
  · obtain ⟨err, herr, -⟩ := walletRow_of_not_dated reference hundated
    obtain ⟨row, hok⟩ := Error.exists_of_mem (Error.mapM_eq_ok_iff.mp hrows) hw
    cases herr.symm.trans hok

/-- Where all wallets are valid, the dates and the console decide whether there is a verdict. -/
theorem verdict_of_valid (valid : ∀ w ∈ a.wallets, w.checkValid reference = .ok ()) :
    let verdict := (runOn console store slot reference verbose).verdict
    (verdict = .ok true ↔ (∀ w ∈ a.wallets, Dated w.nextReset) ∧ ∀ rows,
      List.Forall₂ (fun w row => walletRow reference w = .ok row) a.wallets rows →
        console.Prints (pages verbose a rows true)) ∧
      (verdict ≠ .ok true → ∃ err, verdict = .error err ∧ err.isRefusal = false) := by
  intro verdict
  by_cases hdated : ∀ w ∈ a.wallets, Dated w.nextReset
  · obtain ⟨rows, hrows, hshows⟩ := shows_of_dated console reference verbose loaded hdated
    rw [allValid_iff.mpr valid] at hshows
    by_cases hprints : console.Prints (pages verbose a rows true)
    · have htrue : verdict = .ok true := congrArg Report.verdict (hshows.eq_of_prints hprints)
      refine ⟨⟨fun _ => ⟨hdated, fun rows' hrows' => ?_⟩, fun _ => htrue⟩, fun h => absurd htrue h⟩
      have hsame := (Error.mapM_eq_ok_iff.mpr hrows').symm.trans (Error.mapM_eq_ok_iff.mpr hrows)
      exact Except.ok.inj hsame ▸ hprints
    · obtain ⟨err, herror, hrefusal⟩ := hshows.error_of_not_prints hprints
      refine ⟨⟨fun h => ?_, fun h => absurd (h.2 rows hrows) hprints⟩,
        fun _ => ⟨err, herror, hrefusal⟩⟩
      cases herror.symm.trans h
  · have hundated : ∃ w ∈ a.wallets, ¬ Dated w.nextReset := by simpa using hdated
    obtain ⟨err, hrefusal, hshows⟩ := shows_of_undated console reference verbose loaded hundated
    obtain ⟨err', herror, hrefusal'⟩ := hshows.exists_error hrefusal
    refine ⟨⟨fun h => ?_, fun h => absurd h.1 hdated⟩, fun _ => ⟨err', herror, hrefusal'⟩⟩
    cases herror.symm.trans h

end Run

end Audit

namespace Service

variable {σ : Type} {svc : Service σ} {store : Store} {m : Option Account} {a : Account}
  {v : Visit σ} {vs : List (Visit σ)}

variable [Json.Nesting]

/-- The store after visits. -/
def storeAfter (svc : Service σ) (store : Store) (vs : List (Visit σ)) : Store :=
  vs.foldl (fun store v => (svc.served store v).1.store) store

theorem reachable_recalled (reachable : ∀ b, m = some b → Reachable svc.engine b)
    (admissible : v.request.Admissible) (recalled : (svc.recalled m v).1.2 = some a) :
    Reachable svc.engine a := by
  obtain ⟨r, c⟩ := v
  cases r with
  | found f =>
    unfold Service.recalled at recalled
    rcases hfound : Account.found svc.engine.reference { f with network := .str svc.network } with
      err | ⟨b, response⟩
    all_goals simp only [hfound] at recalled
    · exact reachable a recalled
    · obtain rfl := Option.some.inj recalled
      exact .founded (f := { f with network := .str svc.network }) admissible hfound
  | operation o =>
    cases m with
    | none => cases recalled
    | some b =>
      obtain rfl := Option.some.inj recalled
      exact .called ⟨o, c⟩ (reachable b rfl) admissible

/-- Whatever is called, a slot that was empty at first holds a reachable account, or nothing. -/
theorem load_storeAfter (loaded : store.load svc.slot = .ok m)
    (reachable : ∀ b, m = some b → Reachable svc.engine b)
    (admissible : ∀ v ∈ vs, v.request.Admissible) :
    ∃ m', (svc.storeAfter store vs).load svc.slot = .ok m' ∧
      ∀ b, m' = some b → Reachable svc.engine b := by
  induction vs generalizing store m with
  | nil => exact ⟨m, loaded, reachable⟩
  | cons v vs ih =>
    obtain ⟨hv, hvs⟩ := List.forall_mem_cons.mp admissible
    have hload := (served_of_load loaded hv).2.1
    exact ih hload (fun b => reachable_recalled reachable hv) hvs

end Service

namespace Audit

open Service

variable [Json.Nesting]

end Audit

namespace Sample

/-- What the visits leave in their slot. -/
def settled : Account :=
  { founded with
    pendingOwner := some "heir"
    pendingSince := some 300
    wallets := [wallet.withStanding 86600 20]
    feeDebt := 0 }

/-- A founding whose wallet is reset in the first second of the year 10000. -/
def distant : Founding := { founding with wallets := [{ wallet with nextReset := 253402300800 }] }

/-- A founding whose owner closes the style that it is shown in. -/
def marked : Founding := { founding with owner := .str "juno1owner[/]" }

end Sample

namespace Audit

open Sample Service

end Audit

end AllowanceProxy
