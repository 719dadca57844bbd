import AllowanceProxy.Json.Writer
import AllowanceProxy.Proofs.Reading

/-!
Quoted text read back. Each character between the quotes, whether it stands for itself or is
escaped by a letter, by its number or by a pair of surrogates, is read as that character; so the
quoted form of any text without lone surrogates is read as the text.
-/
namespace AllowanceProxy.Json

open Text

/-- The ways to write a character between quotes. -/
inductive Escape (c : Char) : List Char → Prop where
  | letter {e : Char} (names : escaped? e = some c)
      (known : e ∈ ['"', '\\', 'n', 'r', 't', 'f', 'b']) : Escape c ['\\', e]
  | itself (quote : c ≠ '"') (backslash : c ≠ '\\') (visible : 0x20 ≤ c.toNat ∧ c.toNat < 0x7f) :
      Escape c [c]
  | unit (short : c.toNat < 0x10000) : Escape c (unitEscape c.toNat)
  | surrogates (long : 0x10000 ≤ c.toNat) :
      Escape c (unitEscape (0xd800 + (c.toNat - 0x10000) / 0x400) ++
        unitEscape (0xdc00 + (c.toNat - 0x10000) % 0x400))

theorem escape_escapeChar (c : Char) : Escape c (escapeChar c) := by
  by_cases hnamed : c ∈ ['"', '\\', '\n', '\r', '\t', '\x0c', '\x08']
  · simp only [List.mem_cons, List.not_mem_nil, or_false] at hnamed
    rcases hnamed with rfl | rfl | rfl | rfl | rfl | rfl | rfl
    all_goals exact .letter rfl (by decide)
  simp only [List.mem_cons, List.not_mem_nil, or_false, not_or] at hnamed
  obtain ⟨hquote, hslash, hline, hreturn, htab, hpage, hback⟩ := hnamed
  rw [escapeChar, if_neg hquote, if_neg hslash, if_neg hline, if_neg hreturn, if_neg htab,
    if_neg hpage, if_neg hback]
  split_ifs with hprintable hshort
  · simp only [Bool.and_eq_true, decide_eq_true_eq] at hprintable
    exact .itself hquote hslash hprintable
  · exact .unit hshort
  · exact .surrogates (Nat.le_of_not_lt hshort)

theorem hexValue?_hexDigit (n : Nat) : hexValue? (.char (hexDigit n)) = some (n % 16) := by
  have hdigit : ∀ d : Fin 16, hexValue? (.char (Nat.digitChar d)) = some d.val := by decide
  exact hdigit ⟨n % 16, Nat.mod_lt n (by decide)⟩

theorem unit?_hexDigits {u : Nat} (h : u < 0x10000) :
    unit? (.char (hexDigit (u / 16 / 16 / 16))) (.char (hexDigit (u / 16 / 16)))
      (.char (hexDigit (u / 16))) (.char (hexDigit u)) = some u := by
  have hsum : ((u / 16 / 16 / 16 % 16 * 16 + u / 16 / 16 % 16) * 16 + u / 16 % 16) * 16 + u % 16 =
      u := by omega
  simp [unit?, hexValue?_hexDigit, hsum]

theorem map_char_unitEscape (u : Nat) : (unitEscape u).map Symbol.char =
    [.char '\\', .char 'u', .char (hexDigit (u / 16 / 16 / 16)), .char (hexDigit (u / 16 / 16)),
      .char (hexDigit (u / 16)), .char (hexDigit u)] := rfl

section Tail

variable {opened : Nat} {done rest : List Symbol}

theorem stringTail_letter {e c : Char} (h : escaped? e = some c) :
    stringTail opened done (.char '\\' :: .char e :: rest) =
      stringTail opened (.char c :: done) rest := by
  have hunit : e ≠ 'u' := by
    rintro rfl
    cases h
  rw [stringTail.eq_def]
  simp [Symbol.shown, h, hunit]

/-- The number of a character that is no high surrogate is no half of a pair, whatever follows. -/
theorem stringTail_unit {a b c d : Symbol} {u : Nat} (h : unit? a b c d = some u)
    (single : isHighSurrogate u = false) (more : rest ≠ []) :
    stringTail opened done (.char '\\' :: .char 'u' :: a :: b :: c :: d :: rest) =
      stringTail opened (.ofNat u :: done) rest := by
  have hpair (e f g h : Symbol) : pair? u e f g h = none := by
    unfold pair?
    cases unit? e f g h <;> simp [single]
  by_cases hnext : ∃ e f g h r tail,
      rest = .char '\\' :: .char 'u' :: e :: f :: g :: h :: r :: tail
  · obtain ⟨e, f, g, h', r, tail, rfl⟩ := hnext
    rw [stringTail]
    simp only [h, hpair]
  · rw [stringTail]
    · simp [h, more]
    · exact fun e f g h' r tail hrest => hnext ⟨e, f, g, h', r, tail, hrest⟩

theorem stringTail_pair {a b c d e f g h s : Symbol} {high : Nat}
    (first : unit? a b c d = some high) (second : pair? high e f g h = some s)
    (more : rest ≠ []) :
    stringTail opened done (.char '\\' :: .char 'u' :: a :: b :: c :: d ::
        .char '\\' :: .char 'u' :: e :: f :: g :: h :: rest) =
      stringTail opened (s :: done) rest := by
  obtain ⟨r, rest, rfl⟩ := List.exists_cons_of_ne_nil more
  rw [stringTail]
  simp [first, second]

theorem stringTail_char_unit {c : Char} (short : c.toNat < 0x10000) (more : rest ≠ []) :
    stringTail opened done ((unitEscape c.toNat).map .char ++ rest) =
      stringTail opened (.char c :: done) rest := by
  have hvalid : c.toNat < 0xd800 ∨ 0xdfff < c.toNat ∧ c.toNat < 0x110000 := c.valid
  have hsingle : isHighSurrogate c.toNat = false := by
    simp only [isHighSurrogate, Bool.and_eq_false_iff, decide_eq_false_iff_not]
    omega
  have htail : stringTail opened done ((unitEscape c.toNat).map .char ++ rest) =
      stringTail opened (.ofNat c.toNat :: done) rest :=
    stringTail_unit (unit?_hexDigits short) hsingle more
  rw [htail, Symbol.ofNat_toNat]

theorem pair?_hexDigits {high low : Nat} (first : isHighSurrogate high = true)
    (second : isLowSurrogate low = true) :
    pair? high (.char (hexDigit (low / 16 / 16 / 16))) (.char (hexDigit (low / 16 / 16)))
      (.char (hexDigit (low / 16))) (.char (hexDigit low)) =
        some (.ofNat (joinSurrogates high low)) := by
  have hmost : low < 0x10000 := by
    simp only [isLowSurrogate, Bool.and_eq_true, decide_eq_true_eq] at second
    omega
  rw [pair?, unit?_hexDigits hmost]
  simp [first, second]

theorem stringTail_surrogates {high low : Nat} (first : isHighSurrogate high = true)
    (second : isLowSurrogate low = true) (more : rest ≠ []) :
    stringTail opened done ((unitEscape high ++ unitEscape low).map .char ++ rest) =
      stringTail opened (.ofNat (joinSurrogates high low) :: done) rest := by
  have hshort : high < 0x10000 := by
    simp only [isHighSurrogate, Bool.and_eq_true, decide_eq_true_eq] at first
    omega
  rw [List.map_append, map_char_unitEscape, map_char_unitEscape]
  exact stringTail_pair (unit?_hexDigits hshort) (pair?_hexDigits first second) more

/-- The halves of a long number lie in their ranges, and they are put together again. -/
theorem surrogates_of_long {n high low : Nat} (long : 0x10000 ≤ n) (most : n < 0x110000)
    (first : high = 0xd800 + (n - 0x10000) / 0x400)
    (second : low = 0xdc00 + (n - 0x10000) % 0x400) :
    isHighSurrogate high = true ∧ isLowSurrogate low = true ∧ joinSurrogates high low = n := by
  have hhigh : 0xd800 ≤ high ∧ high < 0xdc00 := by omega
  have hlow : 0xdc00 ≤ low ∧ low < 0xe000 := by omega
  have hjoin : joinSurrogates high low = n := by
    unfold joinSurrogates
    omega
  exact ⟨by simp [isHighSurrogate, hhigh], by simp [isLowSurrogate, hlow], hjoin⟩

/-- However a character is written between quotes, it is read as itself. -/
theorem stringTail_escapeChar (c : Char) (more : rest ≠ []) :
    stringTail opened done ((escapeChar c).map .char ++ rest) =
      stringTail opened (.char c :: done) rest := by
  have hescape := escape_escapeChar c
  generalize escapeChar c = cs at hescape ⊢
  cases hescape with
  | letter names _ => exact stringTail_letter names
  | itself quote backslash visible => exact stringTail_literal ⟨quote, backslash, visible.1⟩
  | unit short => exact stringTail_char_unit short more
  | surrogates long =>
    have hvalid : c.toNat < 0xd800 ∨ 0xdfff < c.toNat ∧ c.toNat < 0x110000 := c.valid
    obtain ⟨hhigh, hlow, hjoin⟩ := surrogates_of_long (n := c.toNat) (by omega) (by omega) rfl rfl
    rw [stringTail_surrogates hhigh hlow more, hjoin, Symbol.ofNat_toNat]

theorem stringTail_escaped (cs : List Char) :
    stringTail opened done ((cs.flatMap escapeChar).map .char ++ .char '"' :: rest) =
      .ok (.ofSymbols (done.reverse ++ cs.map .char), rest) := by
  induction cs generalizing done with
  | nil => simp [stringTail]
  | cons c cs ih =>
    have hmore : (cs.flatMap escapeChar).map .char ++ .char '"' :: rest ≠ [] := by simp
    rw [List.flatMap_cons, List.map_append, List.append_assoc, stringTail_escapeChar c hmore, ih]
    simp

end Tail

theorem stringChars_plain (s : String) :
    stringChars (.plain s) = '"' :: s.toList.flatMap escapeChar ++ ['"'] := by
  simp [stringChars, LooseText.symbols, List.flatMap_map, escapeSymbol]

theorem map_char_stringChars (s : String) : (stringChars (.plain s)).map Symbol.char =
    .char '"' :: ((s.toList.flatMap escapeChar).map .char ++ [.char '"']) := by
  simp [stringChars_plain]

theorem stringTail_stringChars (s : String) (opened : Nat) (rest : List Symbol) :
    stringTail opened [] ((s.toList.flatMap escapeChar).map .char ++ .char '"' :: rest) =
      .ok (.plain s, rest) := by
  have hplain : LooseText.ofSymbols (s.toList.map .char) = .plain s :=
    LooseText.ofSymbols_symbols (.plain s)
  rw [stringTail_escaped, List.reverse_nil, List.nil_append, hplain]

end AllowanceProxy.Json
