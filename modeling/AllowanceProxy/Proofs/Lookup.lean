import AllowanceProxy.Proofs.PriceFaults

/-!
Looking up a pool. Whether a pair is traded, and by which pool, does not depend on the order in
which the pair is named. A conversion misses its pool exactly if its denomination cannot be
converted at all, and a repayment is refused before it could miss one.
-/
namespace AllowanceProxy

open Asking Error

variable {σ : Type}

section Pools

variable {p : Pool} {ps : Registry} {x y : String} {reversed : Bool} {found : Pool × Bool}

namespace Pool

theorem reversed?_eq_some_iff :
    p.reversed? x y = some reversed ↔
      p.pair = s(x, y) ∧ (reversed = false ↔ p.denoms = (x, y)) := by
  rw [← trades_iff]
  unfold reversed? Trades denoms
  grind

/-- The pair named the other way round is listed the other way round. -/
theorem reversed?_swap (foreign : x ≠ y) : p.reversed? y x = (p.reversed? x y).map not := by
  unfold reversed?
  grind

end Pool

namespace Registry

theorem find?_eq_some_iff :
    ps.find? x y = some (p, reversed) ↔
      List.find? (fun p => p.pair = s(x, y)) ps = some p ∧
        (reversed = false ↔ p.denoms = (x, y)) := by
  simp only [find?_eq, Pool.trades_iff, Option.bind_eq_some_iff, Option.map_eq_some_iff,
    Prod.mk.injEq]
  constructor
  · rintro ⟨q, hfirst, reversed', horder, rfl, rfl⟩
    exact ⟨hfirst, (Pool.reversed?_eq_some_iff.mp horder).2⟩
  · rintro ⟨hfirst, hlisted⟩
    have hpair : p.pair = s(x, y) := by simpa using List.find?_some hfirst
    exact ⟨p, hfirst, reversed, Pool.reversed?_eq_some_iff.mpr ⟨hpair, hlisted⟩, rfl, rfl⟩

/-- By induction on the pools: each is passed by under both orders, or found under both. -/
theorem find?_swap (foreign : x ≠ y) (ps : Registry) :
    ps.find? y x = (ps.find? x y).map (Prod.map id not) := by
  induction ps with
  | nil => rfl
  | cons p ps ih =>
    rw [find?, find?, Pool.reversed?_swap foreign]
    cases p.reversed? x y with
    | none => exact ih
    | some reversed => rfl

theorem has_iff : ps.has x y = true ↔ ∃ p ∈ ps, p.pair = s(x, y) := by
  simp [has, Pool.trades_iff]

theorem find?_eq_none_iff : ps.find? x y = none ↔ ps.has x y = false := by
  constructor
  · intro h
    rw [← Bool.not_eq_true, has_iff]
    rintro ⟨p, hp, hpair⟩
    have hsome : (List.find? (fun p => p.pair = s(x, y)) ps).isSome := by
      rw [List.find?_isSome]
      exact ⟨p, hp, by simpa using hpair⟩
    obtain ⟨first, hfirst⟩ := Option.isSome_iff_exists.mp hsome
    obtain ⟨reversed, -, hfound⟩ := find?_of_pair hfirst
    rw [h] at hfound
    cases hfound
  · intro h
    refine find?_eq_none fun p hp hpair => ?_
    rw [has_iff.mpr ⟨p, hp, hpair⟩] at h
    cases h

theorem has_comm : ps.has x y = ps.has y x := by
  rw [Bool.eq_iff_iff, has_iff, has_iff, Sym2.eq_swap]

theorem find_eq_ok_iff : ps.find x y = .ok found ↔ ps.find? x y = some found := by
  unfold find
  cases ps.find? x y <;> simp

theorem has_iff_find : ps.has x y = true ↔ ∃ found, ps.find x y = .ok found := by
  simp only [find_eq_ok_iff, ← Option.isSome_iff_exists, Option.isSome_iff_ne_none, ne_eq,
    find?_eq_none_iff, Bool.not_eq_false]

theorem find_of_not_has (missing : ps.has x y = false) :
    ps.find x y = .error (.poolNotFound x y ps) := by
  rw [find, find?_eq_none_iff.mpr missing]

theorem find_swap (foreign : x ≠ y) :
    ps.find x y = .ok (p, reversed) ↔ ps.find y x = .ok (p, !reversed) := by
  rw [find_eq_ok_iff, find_eq_ok_iff, find?_swap foreign]
  simp [Option.map_eq_some_iff, Prod.ext_iff]

end Registry

end Pools

/-- No pool was found for a pair. -/
def Error.MissesPool (err : Error) : Prop := ∃ x y registry, err = .poolNotFound x y registry

/-- The chain itself fails with anything but a missing pool. -/
def Chain.FindsPools (chain : Chain σ) : Prop :=
  ∀ contract q s err, (chain.query contract q s).1 = .error err → ¬ err.MissesPool

namespace Error

variable {err : Error}

theorem not_missesPool_of_isPricing (h : err.isPricing = true) : ¬ err.MissesPool := by
  rintro ⟨x, y, registry, rfl⟩
  cases h

/-- A price check that fails is reported as such, or as it was. -/
theorem not_missesPool_fault (q : PriceQuery) (contract : String) (h : ¬ err.MissesPool) :
    ¬ (q.fault contract err).MissesPool := by
  unfold PriceQuery.fault
  split
  · rintro ⟨x, y, registry, ⟨⟩⟩
  · exact h

theorem not_missesPool_debtFirstOf (debt : Nat) : ¬ (debtFirstOf debt).MissesPool := by
  unfold debtFirstOf
  split
  · rintro ⟨x, y, registry, ⟨⟩⟩
  next herr =>
    obtain ⟨-, rfl⟩ := numeralOf_eq_error herr
    rintro ⟨x, y, registry, ⟨⟩⟩

theorem debtFirstOf_of_writable {debt : Nat} (writable : Number.Writable debt) :
    debtFirstOf debt = .debtFirst (Number.natText debt) := by
  unfold debtFirstOf
  rw [Number.numeralOf_natCast writable]

end Error

section Conversion

variable {c : Converter σ} {coin : Coin} {target : Bool}

theorem Chain.FindsPools.not_missesPool {chain : Chain σ} (finds : chain.FindsPools)
    (contract : String) (q : PriceQuery) (s : σ) (err : Error)
    (h : (chain.query contract q.wire s).1.bind q.interpret = .error err) :
    ¬ (q.fault contract err).MissesPool := by
  refine Error.not_missesPool_fault q contract ?_
  rcases except_bind_eq_error.mp h with h | ⟨answer, -, h⟩
  · exact finds contract q.wire s err h
  · rcases PriceQuery.fault_of_interpret h with hpricing | rfl
    · exact Error.not_missesPool_of_isPricing hpricing
    · rintro ⟨x, y, registry, ⟨⟩⟩

namespace Converter

theorem canConvert_iff :
    c.canConvert coin.denom = true ↔
      coin.denom = c.reference ∨ c.registry.has coin.denom c.reference = true := by
  simp [canConvert]

/-- Whichever of the two is asked for, the pair is that of the denomination and the reference. -/
theorem has_given_sought (c : Converter σ) (coin : Coin) (target : Bool) :
    c.registry.has (c.given coin target).denom (c.sought coin target) =
      c.registry.has coin.denom c.reference := by
  cases target with
  | false => rfl
  | true => exact Registry.has_comm

theorem ask_convert_of_not_canConvert (unknown : c.canConvert coin.denom = false) (target : Bool)
    (s : σ) :
    (c.convert coin target).ask s = (.error (.poolNotFound (c.given coin target).denom
      (c.sought coin target) c.registry), s) := by
  rw [← Bool.not_eq_true, canConvert_iff, not_or, Bool.not_eq_true] at unknown
  obtain ⟨hforeign, hmissing⟩ := unknown
  rw [← has_given_sought c coin target] at hmissing
  rw [convert_foreign hforeign,
    ask_throughPool_of_none (Registry.find?_eq_none_iff.mpr hmissing)]

theorem faultsIn_convert (finds : c.chain.FindsPools) (known : c.canConvert coin.denom = true)
    (target : Bool) : FaultsIn (fun err => ¬ err.MissesPool) (c.convert coin target) := by
  by_cases hforeign : coin.denom = c.reference
  · intro s err t h
    rw [ask_convert_same hforeign] at h
    obtain ⟨h, -⟩ := Prod.mk.inj h
    split at h
    · cases h
      rintro ⟨x, y, registry, ⟨⟩⟩
    · cases h
  · have hhas := (canConvert_iff.mp known).resolve_left hforeign
    rw [← has_given_sought c coin target] at hhas
    obtain ⟨⟨p, reversed⟩, hfound⟩ := Registry.has_iff_find.mp hhas
    rw [convert_foreign hforeign, throughPool_eq (Registry.find_eq_ok_iff.mp hfound)]
    refine Chain.faultsIn_price finds.not_missesPool (fun _ => ?_) p reversed target target
    rintro ⟨x, y, registry, ⟨⟩⟩

end Converter

end Conversion

namespace Account

variable {e : Engine σ} {p : Progress} {asset : Coin}

/-- A debt that no pool prices is refused before a price is asked. -/
theorem ask_repayDebt_of_not_canConvert
    (unknown : (e.converter p.account).canConvert asset.denom = false) (s : σ) :
    (repayDebt e p asset).ask s = (.error (debtFirstOf p.account.feeDebt), s) := by
  simp only [repayDebt, unknown, Bool.not_false, ↓reduceIte, ask_bind, ask_throw]

theorem faultsIn_repayDebt (finds : e.chain.FindsPools) (p : Progress) (asset : Coin) :
    FaultsIn (fun err => ¬ err.MissesPool) (repayDebt e p asset) := by
  cases hknown : (e.converter p.account).canConvert asset.denom with
  | false =>
    intro s err t h
    simp only [ask_repayDebt_of_not_canConvert hknown, Prod.mk.injEq, Except.error.injEq] at h
    rw [← h.1]
    exact not_missesPool_debtFirstOf _
  | true =>
    have hprice : FaultsIn (fun err => ¬ err.MissesPool)
        ((e.converter p.account).convert ⟨asset.denom, p.account.feeDebt⟩ true) := by
      refine Converter.faultsIn_convert finds ?_ true
      exact hknown
    simp only [repayDebt, hknown, Bool.not_true, Bool.false_eq_true, ↓reduceIte]
    exact faultsIn_bind hprice fun _ _ _ _ => faultsIn_pure _

end Account

open Account

/-- A pair is traded exactly if its look-up finds a pool, and that is the first one of the unordered
pair, turned round unless it lists the pair as it is named. Of different denominations it is the
same pool in either order, the other way round; where there is none, both orders fail and name the
whole registry. Hence a denomination can be converted exactly if no amount of it misses a pool,
in whichever mode, against a chain that does not report a missing pool itself. A repayment never
misses one: it is refused for its debt before. -/
theorem lookups_agree (c : Converter σ) (finds : c.chain.FindsPools) :
    (∀ x y, (c.registry.has x y = true ↔ ∃ found, c.registry.find x y = .ok found) ∧
        (∀ p reversed, c.registry.find x y = .ok (p, reversed) ↔
          List.find? (fun p => p.pair = s(x, y)) c.registry = some p ∧
            (reversed = false ↔ p.denoms = (x, y))) ∧
        (x ≠ y → ∀ p reversed, c.registry.find x y = .ok (p, reversed) ↔
          c.registry.find y x = .ok (p, !reversed)) ∧
        (c.registry.has x y = false →
          c.registry.find x y = .error (.poolNotFound x y c.registry) ∧
            c.registry.find y x = .error (.poolNotFound y x c.registry))) ∧
      (∀ coin target s, c.canConvert coin.denom = true ↔
        ∀ err, ((c.convert coin target).ask s).1 = .error err → ¬ err.MissesPool) ∧
      ∀ (e : Engine σ) (p : Progress) (asset : Coin) (s : σ), e.converter p.account = c →
        (∀ err, ((repayDebt e p asset).ask s).1 = .error err → ¬ err.MissesPool) ∧
        (c.canConvert asset.denom = false →
          (repayDebt e p asset).ask s = (.error (debtFirstOf p.account.feeDebt), s) ∧
            (Number.Writable p.account.feeDebt →
              debtFirstOf p.account.feeDebt = .debtFirst (Number.natText p.account.feeDebt))) := by
  refine ⟨fun x y => ⟨Registry.has_iff_find, ?_, ?_, ?_⟩, ?_, ?_⟩
  · intro p reversed
    rw [Registry.find_eq_ok_iff, Registry.find?_eq_some_iff]
  · exact fun foreign p reversed => Registry.find_swap foreign
  · intro missing
    have hswapped : c.registry.has y x = false := by rwa [Registry.has_comm]
    exact ⟨Registry.find_of_not_has missing, Registry.find_of_not_has hswapped⟩
  · intro coin target s
    constructor
    · intro known err h
      exact Converter.faultsIn_convert finds known target s err _ (Prod.ext h rfl)
    · intro never
      by_contra hunknown
      have hmiss := Converter.ask_convert_of_not_canConvert (Bool.not_eq_true _ ▸ hunknown) target s
      exact never _ (congrArg Prod.fst hmiss) ⟨_, _, _, rfl⟩
  · rintro e p asset s rfl
    refine ⟨fun err h => faultsIn_repayDebt finds p asset s err _ (Prod.ext h rfl), ?_⟩
    exact fun unknown => ⟨ask_repayDebt_of_not_canConvert unknown s, debtFirstOf_of_writable⟩

theorem Canned.findsPools (all : List Canned) : (Canned.chain all : Chain σ).FindsPools := by
  intro contract q s err h
  obtain ⟨text, rfl⟩ := Canned.onlyFailsQueries all contract q s err h
  rintro ⟨x, y, registry, ⟨⟩⟩

namespace Sample

def ratio : Pool := ⟨"ratio", "uloop", "uusd", .priceRatio⟩

/-- A pool of the reference against itself, and two of the same pair. -/
def crossing : Converter Unit :=
  ⟨[⟨"loop", "uusd", "uusd", .simulation⟩, ratio, ⟨"late", "uusd", "uloop", .simulation⟩],
    Canned.chain [], "uusd"⟩

end Sample

open Sample

theorem lookups_agree_crossing :
    crossing.chain.FindsPools ∧ crossing.registry.has "uusd" "uloop" = true ∧
      crossing.registry.find "uusd" "uloop" = .ok (ratio, true) ∧
      crossing.registry.find "uloop" "uusd" = .ok (ratio, false) ∧
      crossing.canConvert "uatom" = false ∧
      crossing.registry.find "uatom" "uusd" =
        .error (.poolNotFound "uatom" "uusd" crossing.registry) ∧
      ¬ ∀ err, ((crossing.convert ⟨"uatom", 5⟩ true).ask ()).1 = .error err → ¬ err.MissesPool := by
  have hfinds : crossing.chain.FindsPools := Canned.findsPools []
  obtain ⟨hpairs, hconvert, -⟩ := lookups_agree crossing hfinds
  obtain ⟨hhas, hfirst, hswap, -⟩ := hpairs "uusd" "uloop"
  have hfound : crossing.registry.find "uusd" "uloop" = .ok (ratio, true) :=
    (hfirst ratio true).mpr ⟨by decide, by decide⟩
  have hunknown : crossing.canConvert "uatom" = false := by decide
  refine ⟨hfinds, hhas.mpr ⟨_, hfound⟩, hfound, (hswap (by decide) ratio true).mp hfound, hunknown,
    ((hpairs "uatom" "uusd").2.2.2 (by decide)).1, fun never => ?_⟩
  rw [(hconvert ⟨"uatom", 5⟩ true ()).mpr never] at hunknown
  cases hunknown

end AllowanceProxy
