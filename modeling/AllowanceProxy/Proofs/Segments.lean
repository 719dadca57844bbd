import AllowanceProxy.Chain.Endpoint
import Mathlib.Data.Bool.AllAny
import Mathlib.Data.List.Basic
import Mathlib.Data.List.TakeWhile

/-!
Paths as they are requested. Percent-encoding leaves what it has written as it is, and so does the
removal of dot segments; neither makes a dot segment or touches one that the other has left.
-/
namespace AllowanceProxy

namespace Text

theorem pieces_eq_splitOnP (isCut : Char → Bool) (s : List Char) :
    pieces isCut s = s.splitOnP isCut := by
  induction s with
  | nil => rfl
  | cons c cs ih =>
    rw [pieces, ih, List.splitOnP_cons_eq_if_modifyHead]
    by_cases hcut : isCut c
    · rw [if_pos hcut, if_pos hcut]
    · rw [if_neg hcut, if_neg hcut]
      rcases hrest : cs.splitOnP isCut with _ | ⟨p, ps⟩
      · exact absurd hrest (List.splitOnP_ne_nil _ _)
      · rfl

/-- A text cut at a mark has one piece more than marks. -/
theorem length_splitOn (mark : Char) (s : List Char) :
    (s.splitOn mark).length = s.count mark + 1 := by
  induction s with
  | nil => rfl
  | cons c s ih =>
    rw [List.splitOn_eq_splitOnP] at ih ⊢
    rw [List.splitOnP_cons_eq_if_modifyHead, List.count_cons]
    split
    next => rw [List.length_cons, ih]
    next => rw [List.length_modifyHead, ih, Nat.add_zero]

section CutAt

variable {mark : Char} {s t : List Char}

theorem cutAt_of_notMem (h : mark ∉ s) : cutAt mark s = (s, none) := by
  have htake : s.takeWhile (· ≠ mark) = s := by
    rw [List.takeWhile_eq_self_iff]
    intro c hc
    have hne : c ≠ mark := fun heq => h (heq ▸ hc)
    simpa using hne
  rw [cutAt, htake, List.drop_length]

theorem cutAt_append (h : mark ∉ s) : cutAt mark (s ++ mark :: t) = (s, some t) := by
  have htake : (s ++ mark :: t).takeWhile (· ≠ mark) = s := by
    have hall : ∀ c ∈ s, decide (c ≠ mark) = true := by
      intro c hc
      have hne : c ≠ mark := fun heq => h (heq ▸ hc)
      simpa using hne
    rw [List.takeWhile_append_of_pos hall]
    simp
  rw [cutAt, htake, List.drop_left]

theorem cutAt_fst (mark : Char) (s : List Char) : (cutAt mark s).1 = s.takeWhile (· ≠ mark) := by
  unfold cutAt
  simp only
  split <;> rfl

end CutAt

/-- The character stands for itself among delimiters. -/
def Stands (delimiters : List Char) (c : Char) : Prop :=
  (0x20 < c.toNat ∧ c.toNat < 0x7f) ∧ c ∉ delimiters

section Percent

variable {delimiters : List Char} {s : List Char} {c : Char}

instance (delimiters : List Char) (c : Char) : Decidable (Stands delimiters c) :=
  inferInstanceAs (Decidable (_ ∧ _))

/-- The characters that escapes are written with. -/
def escapeMarks : List Char := '%' :: "0123456789ABCDEF".toList

theorem percentEncode_cons (delimiters : List Char) (c : Char) (s : List Char) :
    percentEncode delimiters (c :: s) =
      (if Stands delimiters c then [c] else percentEncoded c) ++ percentEncode delimiters s := by
  have hstands : (0x20 < c.toNat && c.toNat < 0x7f && !delimiters.contains c) =
      decide (Stands delimiters c) := by
    rw [Bool.eq_iff_iff, decide_eq_true_iff]
    simp [Stands]
  unfold percentEncode
  rw [List.flatMap_cons, hstands]
  simp only [decide_eq_true_eq]

theorem percentEncode_append (s t : List Char) :
    percentEncode delimiters (s ++ t) = percentEncode delimiters s ++ percentEncode delimiters t :=
  List.flatMap_append

theorem percentEncode_of_stands (h : ∀ c ∈ s, Stands delimiters c) :
    percentEncode delimiters s = s := by
  induction s with
  | nil => rfl
  | cons c s ih =>
    obtain ⟨hc, hs⟩ := List.forall_mem_cons.mp h
    rw [percentEncode_cons, if_pos hc, ih hs]
    rfl

theorem mem_escapeMarks_of_percentEncoded {d : Char} (h : d ∈ percentEncoded c) :
    d ∈ escapeMarks := by
  have hdigit : ∀ n, upperHex (hexDigit n) ∈ escapeMarks :=
    forall_hexDigit (P := fun d => upperHex d ∈ escapeMarks) (by decide)
  obtain ⟨b, -, hb⟩ := List.mem_flatMap.mp h
  simp only [hexDigits, List.nil_append, List.cons_append, List.map_cons, List.map_nil,
    List.mem_cons, List.not_mem_nil, or_false] at hb
  rcases hb with rfl | rfl | rfl
  · exact List.mem_cons_self
  · exact hdigit _
  · exact hdigit _

theorem percent_mem_percentEncoded (c : Char) : '%' ∈ percentEncoded c := by
  have hlength := String.length_utf8EncodeChar c
  have hsize := c.utf8Size_pos
  obtain ⟨b, bs, hbs⟩ := List.exists_cons_of_length_pos (hlength ▸ hsize)
  simp [percentEncoded, hbs]

/-- An encoded text holds its own characters and those of escapes. -/
theorem mem_percentEncode (h : c ∈ percentEncode delimiters s) :
    c ∈ s ∧ Stands delimiters c ∨ c ∈ escapeMarks := by
  induction s with
  | nil => cases h
  | cons d s ih =>
    rw [percentEncode_cons, List.mem_append] at h
    rcases h with h | h
    · split at h
      next hstands =>
        obtain rfl := List.mem_singleton.mp h
        exact .inl ⟨List.mem_cons_self, hstands⟩
      next => exact .inr (mem_escapeMarks_of_percentEncoded h)
    · exact (ih h).imp_left fun ⟨hs, hstands⟩ => ⟨List.mem_cons_of_mem d hs, hstands⟩

theorem stands_of_mem_percentEncode (marks : ∀ c ∈ escapeMarks, Stands delimiters c)
    (h : c ∈ percentEncode delimiters s) : Stands delimiters c :=
  (mem_percentEncode h).elim And.right (marks c)

/-- A text whose encoded form shows no escape was not changed. -/
theorem percentEncode_eq_self (h : '%' ∉ percentEncode delimiters s) :
    percentEncode delimiters s = s := by
  induction s with
  | nil => rfl
  | cons c s ih =>
    rw [percentEncode_cons, List.mem_append, not_or] at h
    rw [percentEncode_cons, ih h.2]
    split
    next => rfl
    next hescaped =>
      rw [if_neg hescaped] at h
      exact absurd (percent_mem_percentEncoded c) h.1

end Percent

end Text

open Text

namespace Endpoint

variable {s t : List Char}

def IsDots (segment : List Char) : Prop := segment = ['.'] ∨ segment = ['.', '.']

/-- No segment of the path is one of dots. -/
def Undotted (path : List Char) : Prop := ∀ segment ∈ path.splitOn '/', ¬ IsDots segment

theorem resolveDots_of_forall {done ss : List (List Char)} (h : ∀ s ∈ ss, ¬ IsDots s) :
    resolveDots done ss = done.reverse ++ ss := by
  induction ss generalizing done with
  | nil => simp [resolveDots]
  | cons s ss ih =>
    obtain ⟨hs, hss⟩ := List.forall_mem_cons.mp h
    obtain ⟨hone, htwo⟩ := not_or.mp hs
    rw [resolveDots, if_neg hone, if_neg htwo, ih hss]
    simp

/-- What is left are segments that were there, and none of dots. -/
theorem mem_resolveDots {done ss : List (List Char)} {P : List Char → Prop}
    (kept : ∀ s ∈ done, P s) (new : ∀ s ∈ ss, ¬ IsDots s → P s) :
    ∀ s ∈ resolveDots done ss, P s := by
  induction ss generalizing done with
  | nil => simpa [resolveDots] using kept
  | cons s ss ih =>
    obtain ⟨hs, hss⟩ := List.forall_mem_cons.mp new
    rw [resolveDots]
    split_ifs with hone htwo hstart
    · exact ih kept hss
    · exact ih kept hss
    · exact ih (fun p hp => kept p (List.mem_of_mem_tail hp)) hss
    · exact ih (List.forall_mem_cons.mpr ⟨hs (by simp [IsDots, hone, htwo]), kept⟩) hss

theorem withoutDots_eq (path : List Char) :
    withoutDots path = ['/'].intercalate (resolveDots [] (path.splitOn '/')) := by
  rw [withoutDots, pieces_eq_splitOnP]
  rfl

theorem withoutDots_of_undotted (h : Undotted s) : withoutDots s = s := by
  rw [withoutDots_eq, resolveDots_of_forall h]
  exact List.intercalate_splitOn '/'

theorem of_mem_splitOn {p : List Char} {mark : Char} (h : p ∈ s.splitOn mark) :
    mark ∉ p ∧ p ⊆ s := by
  induction s generalizing p with
  | nil =>
    obtain rfl : p = [] := by simpa using h
    simp
  | cons c cs ih =>
    rw [List.splitOn_eq_splitOnP] at h ih
    rw [List.splitOnP_cons_eq_if_modifyHead] at h
    split at h
    next =>
      rcases List.mem_cons.mp h with rfl | h
      · simp
      · exact (ih h).imp_right (List.subset_cons_of_subset c)
    next hother =>
      rcases hrest : cs.splitOnP (· == mark) with _ | ⟨q, qs⟩
      · exact absurd hrest (List.splitOnP_ne_nil _ _)
      · rw [hrest] at h ih
        rcases List.mem_cons.mp h with rfl | h
        · obtain ⟨hapart, hsub⟩ := ih List.mem_cons_self
          have hne : mark ≠ c := fun heq => hother (by simp [heq])
          exact ⟨by simp [hne, hapart], List.cons_subset_cons c hsub⟩
        · exact (ih (List.mem_cons_of_mem q h)).imp_right (List.subset_cons_of_subset c)

theorem undotted_nil : Undotted [] := by
  simp [Undotted, IsDots]

theorem undotted_intercalate {ss : List (List Char)} (apart : ∀ s ∈ ss, '/' ∉ s)
    (plain : ∀ s ∈ ss, ¬ IsDots s) : Undotted (['/'].intercalate ss) := by
  cases ss with
  | nil => exact undotted_nil
  | cons s ss =>
    rw [Undotted, List.splitOn_intercalate '/' apart (List.cons_ne_nil s ss)]
    exact plain

theorem undotted_withoutDots (s : List Char) : Undotted (withoutDots s) := by
  have hkept : ∀ p ∈ resolveDots [] (s.splitOn '/'), '/' ∉ p ∧ ¬ IsDots p := by
    refine mem_resolveDots (by simp) ?_
    intro p hp hplain
    exact ⟨(of_mem_splitOn hp).1, hplain⟩
  rw [withoutDots_eq]
  exact undotted_intercalate (fun p hp => (hkept p hp).1) fun p hp => (hkept p hp).2

theorem undotted_append_slash : Undotted (s ++ '/' :: t) ↔ Undotted s ∧ Undotted t := by
  unfold Undotted
  rw [List.splitOn_append_cons_self, List.forall_mem_append]

theorem undotted_of_notMem (h : '.' ∉ s) : Undotted s := by
  rintro p hp (rfl | rfl)
  · exact h ((of_mem_splitOn hp).2 (by simp))
  · exact h ((of_mem_splitOn hp).2 (by simp))

theorem stands_escapeMarks : (∀ c ∈ escapeMarks, Stands pathDelimiters c) ∧
    ∀ c ∈ escapeMarks, Stands queryDelimiters c :=
  ⟨List.all_iff_forall_prop.mp (by decide), List.all_iff_forall_prop.mp (by decide)⟩

theorem percentEncode_intercalate (ss : List (List Char)) :
    percentEncode pathDelimiters (['/'].intercalate ss) =
      ['/'].intercalate (ss.map (percentEncode pathDelimiters)) := by
  induction ss with
  | nil => rfl
  | cons s ss ih =>
    cases ss with
    | nil => simp [List.intercalate]
    | cons t ss =>
      have hslash : percentEncode pathDelimiters ['/'] = ['/'] :=
        percentEncode_of_stands (List.forall_mem_singleton.mpr (by decide))
      rw [List.intercalate_cons_cons, percentEncode_append, percentEncode_append, ih, hslash,
        List.map_cons, List.map_cons, List.map_cons, List.intercalate_cons_cons]

/-- An escape shows a percent sign, so no segment of dots comes from another one. -/
theorem Undotted.percentEncode (h : Undotted s) : Undotted (percentEncode pathDelimiters s) := by
  have hs : ['/'].intercalate (s.splitOn '/') = s := List.intercalate_splitOn '/'
  rw [← hs, percentEncode_intercalate]
  apply undotted_intercalate
  · intro p hp hslash
    obtain ⟨q, hq, rfl⟩ := List.mem_map.mp hp
    rcases mem_percentEncode hslash with ⟨hin, -⟩ | hmark
    · exact (of_mem_splitOn hq).1 hin
    · revert hmark
      decide
  · intro p hp hdots
    obtain ⟨q, hq, rfl⟩ := List.mem_map.mp hp
    have hpercent : '%' ∉ Text.percentEncode pathDelimiters q := by
      rcases hdots with heq | heq <;> rw [heq] <;> decide
    rw [percentEncode_eq_self hpercent] at hdots
    exact h q hq hdots

end Endpoint

end AllowanceProxy
