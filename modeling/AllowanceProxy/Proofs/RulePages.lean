import AllowanceProxy.Rule.Book

/-!
Rules listed page by page. Positions are those in the list of the selected rules; a page starts
behind a position, and whoever asks for page after page, each time behind the last rule of the page
before, gets every selected rule once, in the order of the book.
-/
namespace AllowanceProxy

namespace RuleBook

section Slices

variable {α : Type}

theorem dropFrom_natCast (n : Nat) (xs : List α) : dropFrom n xs = xs.drop n := by
  rw [dropFrom, if_pos (Int.natCast_nonneg n), Int.toNat_natCast]

theorem takeUntil_natCast (n : Nat) (xs : List α) : takeUntil n xs = xs.take n := by
  rw [takeUntil, if_pos (Int.natCast_nonneg n), Int.toNat_natCast]

theorem drop_length_take (n : Nat) (xs : List α) : xs.drop (xs.take n).length = xs.drop n := by
  have h : (xs.take n ++ xs.drop n).drop (xs.take n).length = xs.drop n := List.drop_left
  rwa [List.take_append_drop] at h

end Slices

/-- The rules of an actor and of a contract, as far as these are given. -/
def selected (rules : RuleBook) (actor contract : Option String) : List Rule :=
  rules.filter fun r => (∀ x ∈ actor, r.actor = x) ∧ ∀ x ∈ contract, r.contract = x

variable {rules : RuleBook} {actor contract : Option String} {k : Nat} {start : Option Nat}
  {pages : List (List Rule)}

/-- At most `k` of the selected rules, from the first one or from behind a position. -/
def page (rules : RuleBook) (actor contract : Option String) (k : Nat) (start : Option Nat) :
    List Rule :=
  rules.list ⟨actor, contract, start.map Nat.cast, some k⟩

/-- The position of the first rule of a page. -/
def firstPosition : Option Nat → Nat
  | none => 0
  | some p => p + 1

/-- The position of the last rule of a page. -/
def lastPosition (start : Option Nat) (page : List Rule) : Nat :=
  firstPosition start + (page.length - 1)

theorem firstPosition_lastPosition {page : List Rule} (nonempty : page ≠ []) :
    firstPosition (some (lastPosition start page)) = firstPosition start + page.length := by
  have hpositive := List.length_pos_iff.mpr nonempty
  simp only [firstPosition, lastPosition]
  omega

theorem filter_selects (rules : RuleBook) (actor contract : Option String) (s l : Option Int) :
    (rules.filter fun r => Listing.Selects ⟨actor, contract, s, l⟩ r) =
      selected rules actor contract := by
  refine List.filter_congr fun r _ => ?_
  rw [decide_eq_decide]
  unfold Listing.Selects
  cases actor <;> cases contract <;> simp [eq_comm]

theorem page_eq (rules : RuleBook) (actor contract : Option String) (k : Nat)
    (start : Option Nat) : rules.page actor contract k start =
      ((rules.selected actor contract).drop (firstPosition start)).take k := by
  unfold page list
  simp only [filter_selects, takeUntil_natCast]
  cases start with
  | none => rfl
  | some p =>
    have h := dropFrom_natCast (p + 1) (rules.selected actor contract)
    exact congrArg (List.take k) h

theorem page_eq_nil_iff (positive : 0 < k) : rules.page actor contract k start = [] ↔
    (rules.selected actor contract).length ≤ firstPosition start := by
  rw [page_eq, List.take_eq_nil_iff, List.drop_eq_nil_iff]
  omega

/-- Page after page, each behind the position of the last rule of the page before, up to an empty
one. -/
inductive Pages (rules : RuleBook) (actor contract : Option String) (k : Nat) :
    Option Nat → List (List Rule) → Prop where
  | done {start : Option Nat} (empty : rules.page actor contract k start = []) :
      Pages rules actor contract k start []
  | more {start : Option Nat} {page : List Rule} {pages : List (List Rule)}
      (asked : rules.page actor contract k start = page) (nonempty : page ≠ [])
      (rest : Pages rules actor contract k (some (lastPosition start page)) pages) :
      Pages rules actor contract k start (page :: pages)

/-- A page and what stands behind its last rule are what stood behind the page before. -/
theorem page_append_drop (nonempty : rules.page actor contract k start ≠ []) :
    rules.page actor contract k start ++ (rules.selected actor contract).drop
        (firstPosition (some (lastPosition start (rules.page actor contract k start)))) =
      (rules.selected actor contract).drop (firstPosition start) := by
  rw [firstPosition_lastPosition nonempty, ← List.drop_drop, page_eq, drop_length_take,
    List.take_append_drop]

theorem getElem?_lastPosition (nonempty : rules.page actor contract k start ≠ []) :
    (rules.selected actor contract)[lastPosition start (rules.page actor contract k start)]? =
      (rules.page actor contract k start).getLast? := by
  have hpositive := List.length_pos_iff.mpr nonempty
  rw [lastPosition, ← List.getElem?_drop, ← page_append_drop nonempty,
    List.getElem?_append_left (by omega), List.getLast?_eq_getElem?]

/-- Where no rule is selected twice it is the only position of that rule. -/
theorem eq_lastPosition {p : Nat} (distinct : (rules.selected actor contract).Nodup)
    (nonempty : rules.page actor contract k start ≠ [])
    (same : (rules.selected actor contract)[p]? = (rules.page actor contract k start).getLast?) :
    p = lastPosition start (rules.page actor contract k start) := by
  obtain ⟨r, hr⟩ := Option.ne_none_iff_exists'.mp (mt List.getLast?_eq_none_iff.mp nonempty)
  have hlast := getElem?_lastPosition nonempty
  rw [hr] at same hlast
  obtain ⟨hlt, -⟩ := List.getElem?_eq_some_iff.mp same
  exact (List.getElem?_inj hlt distinct).mp (same.trans hlast.symm)

/-- Along the pages: together they are what stands behind the position they start from. -/
theorem Pages.flatten_eq (positive : 0 < k) (h : Pages rules actor contract k start pages) :
    pages.flatten = (rules.selected actor contract).drop (firstPosition start) := by
  induction h with
  | done empty => exact (List.drop_eq_nil_iff.mpr ((page_eq_nil_iff positive).mp empty)).symm
  | more asked nonempty rest ih =>
    subst asked
    rw [List.flatten_cons, ih, page_append_drop nonempty]

/-- Along the pages: only the last one can have less than `k` rules. -/
theorem Pages.length_eq (positive : 0 < k) (h : Pages rules actor contract k start pages) :
    pages.length =
      ((rules.selected actor contract).length - firstPosition start + (k - 1)) / k := by
  induction h with
  | done empty =>
    have hleft := Nat.sub_eq_zero_of_le ((page_eq_nil_iff positive).mp empty)
    rw [hleft, Nat.zero_add, Nat.div_eq_of_lt (by omega), List.length_nil]
  | @more start page pages asked nonempty rest ih =>
    have hlength : page.length =
        min k ((rules.selected actor contract).length - firstPosition start) := by
      rw [← asked, page_eq, List.length_take, List.length_drop]
    have hpositive := List.length_pos_iff.mpr nonempty
    rw [List.length_cons, ih, firstPosition_lastPosition nonempty, ← Nat.sub_sub]
    generalize (rules.selected actor contract).length - firstPosition start = left at hlength ⊢
    have hone : left + (k - 1) = left - 1 + k := by omega
    rw [hone, Nat.add_div_right _ positive]
    rcases Nat.le_total k left with hfull | hrest
    · have hsame : left - page.length + (k - 1) = left - 1 := by omega
      rw [hsame]
    · have hnone : left - page.length + (k - 1) < k := by omega
      rw [Nat.div_eq_of_lt hnone, Nat.div_eq_of_lt (by omega)]

theorem Pages.of_mem (h : Pages rules actor contract k start pages) :
    ∀ page ∈ pages, page ≠ [] ∧ page.length ≤ k := by
  induction h with
  | done empty => simp
  | more asked nonempty rest ih =>
    refine List.forall_mem_cons.mpr ⟨⟨nonempty, ?_⟩, ih⟩
    rw [← asked, page_eq]
    exact List.length_take_le ..

/-- Each page that is not empty moves the position on, so the last one comes. -/
theorem exists_pages (positive : 0 < k) (rules : RuleBook) (actor contract : Option String)
    (start : Option Nat) : ∃ pages, Pages rules actor contract k start pages := by
  induction hleft : (rules.selected actor contract).length - firstPosition start using
    Nat.strongRecOn generalizing start with
  | ind left ih =>
    by_cases hempty : rules.page actor contract k start = []
    · exact ⟨[], .done hempty⟩
    · have hmore := mt (page_eq_nil_iff positive).mpr hempty
      have hpositive := List.length_pos_iff.mpr hempty
      have hnext := @firstPosition_lastPosition start _ hempty
      have hless : (rules.selected actor contract).length - firstPosition
          (some (lastPosition start (rules.page actor contract k start))) < left := by omega
      obtain ⟨pages, hpages⟩ := ih _ hless _ rfl
      exact ⟨_, .more rfl hempty hpages⟩

theorem getElem?_page (rules : RuleBook) (actor contract : Option String) (k : Nat)
    (start : Option Nat) (i : Nat) : (rules.page actor contract k start)[i]? =
      if i < k then (rules.selected actor contract)[firstPosition start + i]? else none := by
  rw [page_eq, List.getElem?_take, List.getElem?_drop]

/-- Whoever asks for the rules of an actor and a contract page by page comes to an end, with each
of them once and in the order of the book, in as many pages as they fill; and a page behind a
position has the rules at the positions that follow it, as far as there are any. -/
theorem pages_complete (rules : RuleBook) (actor contract : Option String) {k : Nat}
    (positive : 0 < k) :
    let found := rules.filter fun r => (∀ x ∈ actor, r.actor = x) ∧ ∀ x ∈ contract, r.contract = x
    (∃ pages, rules.Pages actor contract k none pages) ∧
    (∀ pages, rules.Pages actor contract k none pages → pages.flatten = found ∧
      pages.length = (found.length + (k - 1)) / k ∧ ∀ page ∈ pages, page ≠ [] ∧ page.length ≤ k) ∧
    (∀ start page, rules.page actor contract k start = page → page ≠ [] →
      found[lastPosition start page]? = page.getLast? ∧
        (found.Nodup → ∀ p, found[p]? = page.getLast? → p = lastPosition start page)) ∧
    ∀ s j i : Nat, (rules.list ⟨actor, contract, some s, some j⟩)[i]? =
      if i < j then found[s + 1 + i]? else none := by
  intro found
  refine ⟨exists_pages positive rules actor contract none, ?_, ?_, ?_⟩
  · intro pages h
    exact ⟨h.flatten_eq positive, h.length_eq positive, h.of_mem⟩
  · rintro start page rfl nonempty
    exact ⟨getElem?_lastPosition nonempty, fun distinct p => eq_lastPosition distinct nonempty⟩
  · intro s j i
    exact getElem?_page rules actor contract j (some s) i

end RuleBook

/-- A book of two actors, with one rule twice. -/
def Sample.book : RuleBook :=
  [⟨"friend", "farm", "claim", none⟩, ⟨"other", "farm", "claim", none⟩,
    ⟨"friend", "shop", "buy", none⟩, ⟨"friend", "farm", "claim", none⟩]

namespace RuleBook

theorem pages_complete_friend : 0 < 2 ∧
    ∃ pages, Sample.book.Pages (some "friend") none 2 none pages ∧
      pages.flatten = [⟨"friend", "farm", "claim", none⟩, ⟨"friend", "shop", "buy", none⟩,
        ⟨"friend", "farm", "claim", none⟩] ∧ pages.length = 2 := by
  have hpositive : 0 < 2 := by decide
  obtain ⟨⟨pages, hpages⟩, hall, -⟩ := pages_complete Sample.book (some "friend") none hpositive
  obtain ⟨hflatten, hlength, -⟩ := hall pages hpages
  exact ⟨hpositive, pages, hpages, hflatten.trans (by decide), hlength.trans (by decide)⟩

end RuleBook

end AllowanceProxy
