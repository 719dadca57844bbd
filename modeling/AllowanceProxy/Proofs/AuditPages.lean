import AllowanceProxy.Proofs.Asking
import AllowanceProxy.Proofs.MarkupText

/-!
The pages of an audit on a console. What is shown of them is all, or what stands in front of the
first page that cannot be printed. On a console that takes markup all of them are printed if no text
of the record closes a style.
-/
namespace AllowanceProxy.Audit

namespace Console

variable {c : Console} {pages : List Printed} {verdict : Except Error Bool} {report : Report}

/-- All these pages can be printed. -/
def Prints (c : Console) (pages : List Printed) : Prop := ∀ p ∈ pages, c.fault? p = none

/-- What a console makes of pages and the verdict behind them: it prints them all, or it ends with
its fault in front of the first page that it cannot print. -/
inductive Shows (c : Console) : List Printed → Except Error Bool → Report → Prop where
  | whole {pages : List Printed} {verdict : Except Error Bool} (prints : c.Prints pages) :
      Shows c pages verdict ⟨pages, verdict⟩
  | cut {before after : List Printed} {p : Printed} {verdict : Except Error Bool} {err : Error}
      (prints : c.Prints before) (fault : c.fault? p = some err) :
      Shows c (before ++ p :: after) verdict ⟨before, .error err⟩

theorem printing_append (ps qs : List Printed) (rest : Report) :
    c.printing (ps ++ qs) rest = c.printing ps (c.printing qs rest) := by
  induction ps with
  | nil => rfl
  | cons p ps ih =>
    rw [List.cons_append, printing, printing]
    split
    next => rfl
    next => rw [ih]

theorem shows_printing (c : Console) (pages : List Printed) (verdict : Except Error Bool) :
    c.Shows pages verdict (c.printing pages ⟨[], verdict⟩) := by
  induction pages with
  | nil => exact .whole (fun p hp => nomatch hp)
  | cons p ps ih =>
    rw [printing]
    split
    next err herr => exact @Shows.cut c [] ps p verdict err (fun q hq => nomatch hq) herr
    next hp =>
      simp only
      generalize c.printing ps ⟨[], verdict⟩ = report at ih
      cases ih with
      | whole prints => exact .whole (List.forall_mem_cons.mpr ⟨hp, prints⟩)
      | cut prints fault => exact .cut (List.forall_mem_cons.mpr ⟨hp, prints⟩) fault

/-- Where all can be printed, all is shown. -/
theorem Shows.eq_of_prints (h : c.Shows pages verdict report) (prints : c.Prints pages) :
    report = ⟨pages, verdict⟩ := by
  cases h with
  | whole => rfl
  | cut _ fault =>
    have hnone := prints _ (List.mem_append_right _ List.mem_cons_self)
    rw [hnone] at fault
    cases fault

/-- Otherwise the audit ends with a fault of the console. -/
theorem Shows.error_of_not_prints (h : c.Shows pages verdict report) (faulty : ¬ c.Prints pages) :
    ∃ err, report.verdict = .error err ∧ err.isRefusal = false := by
  cases h with
  | whole prints => exact absurd prints faulty
  | cut _ fault => exact ⟨_, rfl, c.isRefusal_of_fault _ _ fault⟩

/-- Where there is an error in any case, what is shown ends with an error. -/
theorem Shows.exists_error {err : Error} (h : c.Shows pages (.error err) report)
    (system : err.isRefusal = false) : ∃ e, report.verdict = .error e ∧ e.isRefusal = false := by
  cases h with
  | whole => exact ⟨err, rfl, system⟩
  | cut _ fault => exact ⟨_, rfl, c.isRefusal_of_fault _ _ fault⟩

end Console

open Markup Number

/-- All pages on a record, with the rows of its wallets. -/
def pages (verbose : Bool) (a : Account) (rows : List (List String)) (valid : Bool) :
    List Printed :=
  opening :: ownerLines a ++ tables verbose a rows valid

section Record

variable (a : Account) (w : Wallet) (r : Rule) (p : Pool)

def ownerTexts : List String :=
  a.owner :: a.homeNetwork :: a.feeRepayAddress :: a.pendingOwner.toList

def walletTexts : List String := w.address :: w.limits.map SpendLimit.denom

def ruleTexts : List String :=
  r.actor :: r.contract :: r.messageName :: r.pins.flatMap fun pin => [pin.1, pin.2]

def poolTexts : List String := [p.contract, p.denom1, p.denom2]

/-- The texts of a record that an audit prints. -/
def texts : List String :=
  ownerTexts a ++ a.wallets.flatMap walletTexts ++ a.rules.flatMap ruleTexts ++
    a.pools.flatMap poolTexts

end Record

/-- None of the texts closes a style. -/
def Unmarked (texts : List String) : Prop := ∀ text ∈ texts, ClosesNothing text.toList

instance (texts : List String) : Decidable (Unmarked texts) :=
  List.decidableBAll (fun text : String => ClosesNothing text.toList) texts

theorem unmarked_texts_iff {a : Account} : Unmarked (texts a) ↔ Unmarked (ownerTexts a) ∧
    (∀ w ∈ a.wallets, Unmarked (walletTexts w)) ∧ (∀ r ∈ a.rules, Unmarked (ruleTexts r)) ∧
    ∀ p ∈ a.pools, Unmarked (poolTexts p) := by
  simp only [Unmarked, texts, List.forall_mem_append, List.forall_mem_flatMap, and_assoc]

section Texts

theorem notMem_natText (n : Nat) : '[' ∉ (natText n).toList := by
  intro h
  rw [natText, String.toList_ofList] at h
  exact absurd (isDigit_of_mem_natDigits h) (by decide)

theorem notMem_padded (width n : Nat) : '[' ∉ (Calendar.padded width n).toList := by
  intro h
  rw [Calendar.padded, String.toList_ofList] at h
  rcases List.mem_append.mp h with hzero | hdigit
  · exact absurd (List.eq_of_mem_replicate hzero) (by decide)
  · exact absurd (isDigit_of_mem_natDigits hdigit) (by decide)

theorem closesNothing_natText (n : Nat) : ClosesNothing (natText n).toList :=
  .of_notMem (notMem_natText n)

theorem closesNothing_stamp {t : Int} {text : String} (h : Calendar.stamp t = .ok text) :
    ClosesNothing text.toList := by
  obtain ⟨d, -, h⟩ := except_bind_eq_ok.mp h
  obtain rfl := Except.ok.inj h
  refine .of_notMem ?_
  simp [notMem_natText, notMem_padded]

theorem closesNothing_joined {parts : List String}
    (h : ∀ p ∈ parts, ClosesNothing p.toList) : ClosesNothing (joined parts).toList := by
  rw [joined, String.toList_intercalate]
  induction parts with
  | nil => exact .of_notMem List.not_mem_nil
  | cons p parts ih =>
    obtain ⟨hp, hparts⟩ := List.forall_mem_cons.mp h
    cases parts with
    | nil => simpa using hp
    | cons q parts =>
      rw [List.map_cons, List.map_cons, List.intercalate_cons_cons, List.append_assoc]
      have hrest := ClosesNothing.append_of_getLast? (by decide) (ih hparts)
        (u := ", ".toList) (by decide)
      exact hp.append_of_head? hrest (by simp)

end Texts

section Pages

variable {s : Styling} {a : Account} {reference : String}

theorem fault?_ofStyling_eq_none {p : Printed} (legible : ∀ text ∈ p.texts, Legible s text) :
    (Console.ofStyling s).fault? p = none := by
  refine List.findSome?_eq_none_iff.mpr fun text htext => ?_
  obtain ⟨out, hout⟩ := legible text htext
  rw [hout]

theorem fault?_line {text : String} (legible : Legible s text) :
    (Console.ofStyling s).fault? (.line text) = none :=
  fault?_ofStyling_eq_none (List.forall_mem_singleton.mpr legible)

theorem fault?_table {title : String} {columns : List String} {rows : List (List String)}
    (titles : Unmarked (title :: columns)) (cells : ∀ row ∈ rows, ∀ text ∈ row, Legible s text) :
    (Console.ofStyling s).fault? (.table title columns rows) = none := by
  obtain ⟨htitle, hcolumns⟩ := List.forall_mem_cons.mp titles
  have hrows : ∀ row ∈ columns :: rows, ∀ text ∈ row, Legible s text :=
    List.forall_mem_cons.mpr ⟨fun text h => legible_of_closesNothing (hcolumns text h), cells⟩
  refine fault?_ofStyling_eq_none (List.forall_mem_append.mpr ⟨?_, ?_⟩)
  · intro text htext
    obtain ⟨i, -, hcell⟩ := List.mem_flatMap.mp htext
    obtain ⟨row, hrow, hcell⟩ := List.mem_filterMap.mp hcell
    exact hrows row hrow text (List.mem_of_getElem? hcell)
  · exact List.forall_mem_singleton.mpr (legible_of_closesNothing htitle)

theorem fault?_opening : (Console.ofStyling s).fault? opening = none :=
  fault?_line <| legible_of_styled ['\n'] "bold blue".toList
    "═══ Spendguard State Audit ═══".toList ['\n'] (by decide) (by decide) (by decide) (by decide)
    (by decide)

theorem fault?_closing : (Console.ofStyling s).fault? closing = none :=
  fault?_line <| legible_of_styled ['\n'] "bold blue".toList "═══ Audit Complete ═══".toList ['\n']
    (by decide) (by decide) (by decide) (by decide) (by decide)

theorem fault?_statusLine (valid : Bool) :
    (Console.ofStyling s).fault? (statusLine valid) = none := by
  have hfront : "\n  Permissioned addresses: ".toList.all isPlain = true := by decide
  refine fault?_line ?_
  cases valid with
  | true =>
    exact legible_of_styled "\n  Permissioned addresses: ".toList "bold green".toList
      "✓ VALID".toList [] (by decide) hfront (by decide) (by decide) (by decide)
  | false =>
    exact legible_of_styled "\n  Permissioned addresses: ".toList "bold red".toList
      "✗ INVALID".toList [] (by decide) hfront (by decide) (by decide) (by decide)

theorem prints_missing {slot : String} (h : ClosesNothing slot.toList) :
    (Console.ofStyling s).Prints [opening, missing slot] := by
  have hmissing : Legible s ("[yellow]⚠ No state stored in slot '" ++ slot ++ "'[/yellow]") := by
    refine legible_of_styled [] "yellow".toList
      ("⚠ No state stored in slot '".toList ++ (slot.toList ++ "'".toList)) [] (by simp)
      (by decide) (by decide) ?_ (by decide)
    exact .append_of_getLast? (by decide) (h.append_of_head? (by decide) (by decide)) (by decide)
  exact List.forall_mem_cons.mpr
    ⟨fault?_opening, List.forall_mem_singleton.mpr (fault?_line hmissing)⟩

theorem prints_ownerLines (h : Unmarked (ownerTexts a)) :
    (Console.ofStyling s).Prints (ownerLines a) := by
  have howner : ClosesNothing a.owner.toList := h _ (by simp [ownerTexts])
  have hnetwork : ClosesNothing a.homeNetwork.toList := h _ (by simp [ownerTexts])
  have haddress : ClosesNothing a.feeRepayAddress.toList := h _ (by simp [ownerTexts])
  have hfirst : Legible s ("  Owner: [bold]" ++ a.owner ++ "[/bold]") :=
    legible_of_styled "  Owner: ".toList "bold".toList a.owner.toList [] (by simp) (by decide)
      (by decide) howner (by decide)
  have hhome : Legible s ("  Home network: " ++ a.homeNetwork) := by
    refine legible_of_closesNothing ?_
    rw [String.toList_append]
    exact .append_of_getLast? (by decide) hnetwork (by decide)
  have hdebt : Legible s ("  Fee debt: " ++ natText a.feeDebt ++ " (repay to " ++
      a.feeRepayAddress ++ ")") := by
    refine legible_of_closesNothing ?_
    have hto : ClosesNothing (" (repay to ".toList ++ (a.feeRepayAddress.toList ++ ")".toList)) :=
      .append_of_getLast? (by decide) (haddress.append_of_head? (by decide) (by decide)) (by decide)
    have hnumber : ClosesNothing ((natText a.feeDebt).toList ++ _) :=
      (closesNothing_natText _).append_of_head? hto (by simp)
    simp only [String.toList_append, List.append_assoc]
    exact .append_of_getLast? (by decide) hnumber (by decide)
  have hpending : (Console.ofStyling s).Prints (pendingLines a) := by
    unfold pendingLines
    split
    next p hp =>
      split
      next => exact fun q hq => nomatch hq
      next =>
        have hheir : ClosesNothing p.toList := h _ (by simp [ownerTexts, hp])
        exact List.forall_mem_singleton.mpr <| fault?_line <|
          legible_of_styled "  Pending owner: ".toList "yellow".toList p.toList [] (by simp)
            (by decide) (by decide) hheir (by decide)
    next => exact fun q hq => nomatch hq
  refine List.forall_mem_append.mpr ⟨List.forall_mem_cons.mpr ⟨fault?_line hfirst, hpending⟩, ?_⟩
  exact List.forall_mem_cons.mpr
    ⟨fault?_line hhome, List.forall_mem_singleton.mpr (fault?_line hdebt)⟩

theorem legible_walletRow {w : Wallet} {row : List String} (h : Unmarked (walletTexts w))
    (found : walletRow reference w = .ok row) : ∀ text ∈ row, Legible s text := by
  obtain ⟨stamp, hstamp, hrow⟩ := except_bind_eq_ok.mp found
  obtain rfl := Except.ok.inj hrow
  obtain ⟨haddress, hdenoms⟩ := List.forall_mem_cons.mp h
  have hperiod : ClosesNothing (natText w.multiple ++ " " ++ w.unit.name).toList := by
    have hunit : ClosesNothing (" ".toList ++ w.unit.name.toList) := by
      cases w.unit <;> decide
    simp only [String.toList_append, List.append_assoc]
    exact (closesNothing_natText _).append_of_head? hunit (by simp)
  have hlimits : ClosesNothing (joined (w.limits.map limitText)).toList := by
    refine closesNothing_joined (List.forall_mem_map.mpr fun l hl => ?_)
    have hdenom := hdenoms l.denom (List.mem_map_of_mem hl)
    have hspace : ClosesNothing (" ".toList ++ l.denom.toList) :=
      .append_of_getLast? (by decide) hdenom (by decide)
    simp only [limitText, String.toList_append, List.append_assoc]
    exact (closesNothing_natText _).append_of_head? hspace (by simp)
  have hremaining : ClosesNothing (joined (w.limits.map fun l => natText l.remaining)).toList :=
    closesNothing_joined (List.forall_mem_map.mpr fun l _ => closesNothing_natText l.remaining)
  have hmark : Legible s (validMark reference w) := by
    unfold validMark
    split
    next =>
      exact legible_of_styled [] "green".toList ['✓'] [] (by decide) (by decide) (by decide)
        (by decide) (by decide)
    next =>
      exact legible_of_styled [] "red".toList ['✗'] [] (by decide) (by decide) (by decide)
        (by decide) (by decide)
  simp only [List.forall_mem_cons, List.not_mem_nil, false_imp_iff, implies_true, and_true]
  exact ⟨legible_of_closesNothing haddress, legible_of_closesNothing hperiod,
    legible_of_closesNothing hlimits, legible_of_closesNothing hremaining,
    legible_of_closesNothing (closesNothing_stamp hstamp), hmark⟩

theorem legible_walletRows {ws : List Wallet} {rows : List (List String)}
    (h : ∀ w ∈ ws, Unmarked (walletTexts w))
    (found : List.Forall₂ (fun w row => walletRow reference w = .ok row) ws rows) :
    ∀ row ∈ rows, ∀ text ∈ row, Legible s text := by
  induction found with
  | nil => exact fun row hrow => nomatch hrow
  | cons first rest ih =>
    obtain ⟨hw, hws⟩ := List.forall_mem_cons.mp h
    exact List.forall_mem_cons.mpr ⟨legible_walletRow hw first, ih hws⟩

theorem legible_ruleRow {r : Rule} (h : Unmarked (ruleTexts r)) :
    ∀ text ∈ ruleRow r, Legible s text := by
  simp only [Unmarked, ruleTexts, List.forall_mem_cons, List.forall_mem_flatMap] at h
  obtain ⟨hactor, hcontract, hmessage, hpins⟩ := h
  have hfields :
      ClosesNothing (if r.pins = [] then "—" else joined (r.pins.map pinText)).toList := by
    split
    next => decide
    next =>
      refine closesNothing_joined (List.forall_mem_map.mpr fun pin hpin => ?_)
      obtain ⟨hname, hvalue, -⟩ := hpins pin hpin
      have hequals : ClosesNothing ("=".toList ++ pin.2.toList) :=
        .append_of_getLast? (by decide) hvalue (by decide)
      simp only [pinText, String.toList_append, List.append_assoc]
      exact hname.append_of_head? hequals (by simp)
  unfold ruleRow
  simp only [List.forall_mem_cons, List.not_mem_nil, false_imp_iff, implies_true, and_true]
  exact ⟨legible_of_closesNothing hactor, legible_of_closesNothing hcontract,
    legible_of_closesNothing hmessage, legible_of_closesNothing hfields⟩

theorem legible_poolRow {p : Pool} (h : Unmarked (poolTexts p)) :
    ∀ text ∈ poolRow p, Legible s text := by
  have hdialect : Legible s p.dialect.name := by
    refine legible_of_closesNothing ?_
    cases p.dialect <;> decide
  simp only [Unmarked, poolTexts, List.forall_mem_cons] at h
  unfold poolRow
  simp only [List.forall_mem_cons, List.not_mem_nil, false_imp_iff, implies_true, and_true]
  exact ⟨legible_of_closesNothing h.1, legible_of_closesNothing h.2.1,
    legible_of_closesNothing h.2.2.1, hdialect⟩

theorem prints_tables {rows : List (List String)} (verbose valid : Bool)
    (h : Unmarked (texts a))
    (found : List.Forall₂ (fun w row => walletRow reference w = .ok row) a.wallets rows) :
    (Console.ofStyling s).Prints (tables verbose a rows valid) := by
  obtain ⟨-, hwallets, hrules, hpools⟩ := unmarked_texts_iff.mp h
  have hwalletTable : (Console.ofStyling s).fault? (walletTable rows) = none :=
    fault?_table (by decide) (legible_walletRows hwallets found)
  have hruleTable : (Console.ofStyling s).fault? (ruleTable a.rules) = none :=
    fault?_table (by decide)
      (List.forall_mem_map.mpr fun r hr => legible_ruleRow (hrules r hr))
  have hpoolTable : (Console.ofStyling s).fault? (poolTable a.pools) = none :=
    fault?_table (by decide)
      (List.forall_mem_map.mpr fun p hp => legible_poolRow (hpools p hp))
  have hend : (Console.ofStyling s).Prints [statusLine valid, closing] :=
    List.forall_mem_cons.mpr ⟨fault?_statusLine valid, List.forall_mem_singleton.mpr fault?_closing⟩
  refine List.forall_mem_append.mpr ⟨List.forall_mem_cons.mpr ⟨hwalletTable,
    List.forall_mem_cons.mpr ⟨hruleTable, ?_⟩⟩, hend⟩
  cases verbose with
  | true => exact List.forall_mem_singleton.mpr hpoolTable
  | false => exact fun p hp => nomatch hp

/-- The record prints as a whole if none of its texts closes a style. -/
theorem prints_pages {rows : List (List String)} (verbose valid : Bool) (h : Unmarked (texts a))
    (found : List.Forall₂ (fun w row => walletRow reference w = .ok row) a.wallets rows) :
    (Console.ofStyling s).Prints (pages verbose a rows valid) := by
  have howner : (Console.ofStyling s).Prints (opening :: ownerLines a) :=
    List.forall_mem_cons.mpr ⟨fault?_opening, prints_ownerLines (unmarked_texts_iff.mp h).1⟩
  exact List.forall_mem_append.mpr ⟨howner, prints_tables verbose valid h found⟩

end Pages

end AllowanceProxy.Audit
