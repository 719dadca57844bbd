import AllowanceProxy.Market.Answer
import Mathlib.Data.List.TakeWhile

/-!
Numerals read back. What a number is written as, in ASCII digits, is read as that number again,
by the reader that takes the digits of any script as well.
-/
namespace AllowanceProxy

namespace Text

theorem trim_eq_self {cs : List Char} (h : ∀ c ∈ cs, isBlank c = false) : trim cs = cs := by
  have hself {ds : List Char} (hds : ∀ c ∈ ds, isBlank c = false) :
      ds.dropWhile isBlank = ds := by
    refine List.dropWhile_eq_self_iff.mpr fun hl => ?_
    simp [hds ds[0] (List.getElem_mem hl)]
  unfold trim trimBy
  rw [hself h, hself (by simpa using h), List.reverse_reverse]

theorem between_of_isDigit {c : Char} (h : c.isDigit) : 48 ≤ c.toNat ∧ c.toNat ≤ 57 :=
  Char.isDigit_iff_toNat.mp h

theorem isBlank_of_isDigit {c : Char} (h : c.isDigit) : isBlank c = false := by
  obtain ⟨hleast, hmost⟩ := between_of_isDigit h
  simp only [isBlank, Bool.or_eq_false_iff, Bool.and_eq_false_iff, decide_eq_false_iff_not]
  omega

/-- The ASCII digits are the first set of the table. -/
theorem decimalValue?_of_isDigit {c : Char} (h : c.isDigit) :
    decimalValue? c = some (c.toNat - 48) := by
  obtain ⟨hleast, hmost⟩ := between_of_isDigit h
  have hfirst : (decide (48 ≤ c.toNat) && decide (c.toNat < 48 + 10)) = true := by
    simp only [Bool.and_eq_true, decide_eq_true_eq]
    omega
  simp only [decimalValue?, decimalZeros, List.find?_cons, hfirst, Option.map_some]

end Text

namespace Number

open Text

def digitValues (cs : List Char) : List Nat := cs.map fun c => c.toNat - 48

theorem digitRun?_of_isDigit {cs : List Char} (h : ∀ c ∈ cs, c.isDigit) :
    digitRun? false cs = some (digitValues cs, []) := by
  induction cs with
  | nil => rfl
  | cons c cs ih =>
    have hrest := ih fun d hd => h d (List.mem_cons_of_mem c hd)
    rw [digitRun?, decimalValue?_of_isDigit (h c List.mem_cons_self)]
    simp [hrest, digitValues]

/-- A digit is due at first, and one comes. -/
theorem digitRun?_due_of_isDigit {cs : List Char} (h : ∀ c ∈ cs, c.isDigit) (nonempty : cs ≠ []) :
    digitRun? true cs = some (digitValues cs, []) := by
  obtain ⟨c, cs, rfl⟩ := List.exists_cons_of_ne_nil nonempty
  have hrun := digitRun?_of_isDigit h
  rw [digitRun?, decimalValue?_of_isDigit (h c List.mem_cons_self)] at hrun ⊢
  exact hrun

theorem ofDigits_digitValues (cs : List Char) :
    ofDigits (digitValues cs) = Nat.ofDigitChars 10 cs 0 := by
  unfold ofDigits digitValues
  rw [List.foldl_map]
  rfl

theorem splitSign_of_isDigit {cs : List Char} (h : ∀ c ∈ cs, c.isDigit) :
    splitSign cs = (false, cs) := by
  unfold splitSign
  split
  next => exact absurd (h '-' List.mem_cons_self) (by decide)
  next => exact absurd (h '+' List.mem_cons_self) (by decide)
  next => rfl

theorem shown_natText (n : Nat) : (LooseText.plain (natText n)).shown = natDigits n := by
  simp [LooseText.shown, LooseText.symbols, natText, Function.comp_def, Symbol.shown]

theorem readNumeral_natText {n : Nat} (writable : Writable n) :
    readNumeral (natText n) = .ok n := by
  have hdigits : ∀ c ∈ natDigits n, c.isDigit := fun c hc => isDigit_of_mem_natDigits hc
  have hnonempty : natDigits n ≠ [] := Nat.toDigits_ne_nil
  have hshort : ¬ maxDigits < (digitValues (natDigits n)).length := by
    rw [digitValues, List.length_map, Nat.not_lt]
    exact (natDigits_length_le_iff n (k := maxDigits) (by decide)).mpr writable
  unfold readNumeral
  rw [shown_natText, trim_eq_self fun c hc => isBlank_of_isDigit (hdigits c hc),
    splitSign_of_isDigit hdigits]
  simp only [digitRun?_due_of_isDigit hdigits hnonempty, if_neg hshort, ↓reduceIte, applySign,
    ofDigits_digitValues, ofDigitChars_natDigits, Bool.false_eq_true]

theorem numeral_natCast {n : Nat} (writable : Writable n) : numeral n = .ok (natText n) :=
  if_pos writable

theorem numeralOf_natCast {n : Nat} (writable : Writable n) :
    Error.numeralOf n = .ok (natText n) := by
  unfold Error.numeralOf
  rw [numeral_natCast writable]

end Number

namespace Json

open Number

/-- A numeral in a member of an answer is read as the amount that it was written for. -/
theorem amountOf_natText {name : String} {ms : Members} {n : Nat} (writable : Writable n)
    (found : lookup? name ms = some (.str (natText n))) : (obj ms).amountOf name = .ok n := by
  have hwhole : wholeNumber (.str (natText n)) = .ok n := by
    rw [wholeNumber, readNumeral_natText writable]
  simp [amountOf, fieldOf, found, hwhole, bind, Except.bind, pure, Except.pure]

end Json

end AllowanceProxy
