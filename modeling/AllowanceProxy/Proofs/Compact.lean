import AllowanceProxy.Proofs.Escape

/-!
The compact form read back. A value without fractions and lone surrogates, whose objects name no
member twice, is read from its compact form as itself, with its members in order, unless it is
nested deeper than is read.
-/
namespace AllowanceProxy

namespace Number

theorem exists_natDigits (n : Nat) : ∃ c cs, natDigits n = c :: cs ∧ c.isDigit := by
  obtain ⟨c, cs, hcs⟩ := List.exists_cons_of_ne_nil (l := natDigits n) Nat.toDigits_ne_nil
  exact ⟨c, cs, hcs, isDigit_of_mem_natDigits (n := n) (by simp [hcs])⟩

/-- Only zero is written with a zero in front. -/
theorem head?_natDigits {n : Nat} (positive : 0 < n) : (natDigits n).head? ≠ some '0' := by
  induction n using Nat.strongRecOn with
  | ind n ih =>
    unfold natDigits
    rw [Nat.toDigits_eq_if (by decide)]
    split
    next hdigit =>
      have hcode := Nat.toNat_digitChar_of_lt_ten hdigit
      have hzero : Nat.digitChar n ≠ '0' := by
        intro h
        rw [h] at hcode
        have : '0'.toNat = 48 := rfl
        omega
      simpa using hzero
    next hmore =>
      obtain ⟨c, cs, hcs, -⟩ := exists_natDigits (n / 10)
      have hhead := ih (n / 10) (by omega) (by omega)
      rw [hcs] at hhead
      unfold natDigits at hcs
      simpa [hcs] using hhead

end Number

namespace Json

open Number Text

/-- What may follow a value: nothing, a comma or a closing bracket. -/
def Ends (rest : List Symbol) : Prop :=
  ∀ s ∈ rest.head?, s = .char ',' ∨ s = .char ']' ∨ s = .char '\x7d'

section Number

variable {rest : List Symbol}

theorem digits_append {cs : List Char} (h : ∀ c ∈ cs, c.isDigit)
    (stop : ∀ s ∈ rest.head?, isDigit s = false) : digits (cs.map .char ++ rest) = (cs, rest) := by
  have hall : ∀ s ∈ cs.map Symbol.char, isDigit s = true := by
    simpa [isDigit] using h
  have htake : rest.takeWhile isDigit = [] := by
    cases rest with
    | nil => rfl
    | cons s rest => simp [stop s (by simp)]
  have hdrop : rest.dropWhile isDigit = rest := by
    cases rest with
    | nil => rfl
    | cons s rest => simp [stop s (by simp)]
  unfold digits
  rw [List.takeWhile_append_of_pos hall, List.dropWhile_append_of_pos hall, htake, hdrop]
  simp [Function.comp_def, Symbol.char?]

theorem Ends.not_digit (ends : Ends rest) : ∀ s ∈ rest.head?, isDigit s = false := by
  intro s hs
  rcases ends s hs with rfl | rfl | rfl <;> rfl

theorem Ends.fraction? (ends : Ends rest) : fraction? rest = none := by
  cases rest with
  | nil => rfl
  | cons s rest => rcases ends s (by simp) with rfl | rfl | rfl <;> rfl

theorem Ends.exponent? (ends : Ends rest) : exponent? rest = none := by
  cases rest with
  | nil => rfl
  | cons s rest => rcases ends s (by simp) with rfl | rfl | rfl <;> rfl

theorem wholeDigits_natDigits (n : Nat) (ends : Ends rest) :
    wholeDigits ((natDigits n).map .char ++ rest) = (natDigits n, rest) := by
  rcases Nat.eq_zero_or_pos n with rfl | hpositive
  · rfl
  · have hhead := head?_natDigits hpositive
    have hdigits := digits_append (fun c hc => isDigit_of_mem_natDigits (n := n) hc) ends.not_digit
    obtain ⟨c, cs, hcs, -⟩ := exists_natDigits n
    rw [hcs] at hhead hdigits ⊢
    have hzero : c ≠ '0' := by simpa using hhead
    rw [← hdigits]
    simp [wholeDigits, hzero]

theorem not_maxDigits_lt {n : Nat} (writable : Writable n) :
    ¬ maxDigits < (natDigits n).length :=
  Nat.not_lt.mpr ((natDigits_length_le_iff n (k := maxDigits) (by decide)).mpr writable)

theorem number_natDigits {n : Nat} (writable : Writable n) (ends : Ends rest) :
    number ((natDigits n).map .char ++ rest) = .ok (.int n, rest) := by
  obtain ⟨c, cs, hcs, hdigit⟩ := exists_natDigits n
  have hnonempty : natDigits n ≠ [] := by simp [hcs]
  have hminus : c ≠ '-' := by
    rintro rfl
    cases hdigit
  have hcons : (natDigits n).map Symbol.char ++ rest = .char c :: (cs.map .char ++ rest) := by
    rw [hcs, List.map_cons, List.cons_append]
  have hwhole := wholeDigits_natDigits n ends
  rw [hcons] at hwhole ⊢
  simp [number, hminus, hwhole, hnonempty, ends.fraction?, ends.exponent?,
    not_maxDigits_lt writable, applySign, ofDigitChars_natDigits]

theorem number_minus {n : Nat} (writable : Writable n) (ends : Ends rest) :
    number (.char '-' :: ((natDigits n).map .char ++ rest)) = .ok (.int (-n), rest) := by
  obtain ⟨c, cs, hcs, -⟩ := exists_natDigits n
  have hnonempty : natDigits n ≠ [] := by simp [hcs]
  simp [number, wholeDigits_natDigits n ends, hnonempty, ends.fraction?, ends.exponent?,
    not_maxDigits_lt writable, applySign, ofDigitChars_natDigits]

end Number

section Scalar

variable {rest : List Symbol}

theorem ne_of_isDigit {c d : Char} (h : c.isDigit) (hd : d.isDigit = false) : c ≠ d := by
  rintro rfl
  rw [h] at hd
  cases hd

/-- No fixed word starts with a digit. -/
theorem constantOf_of_isDigit {c : Char} (h : c.isDigit) :
    constantOf constants (.char c :: rest) = number (.char c :: rest) := by
  simp [constantOf, constants, afterWord?, ne_of_isDigit h]

theorem constantOf_minus {c : Char} (h : c.isDigit) :
    constantOf constants (.char '-' :: .char c :: rest) =
      number (.char '-' :: .char c :: rest) := by
  simp [constantOf, constants, afterWord?, ne_of_isDigit h]

theorem constantOf_intDigits {n : Int} (writable : Writable n) (ends : Ends rest) :
    constantOf constants ((intDigits n).map .char ++ rest) = .ok (.int n, rest) := by
  cases n with
  | ofNat n =>
    obtain ⟨c, cs, hcs, hdigit⟩ := exists_natDigits n
    have hnumber := number_natDigits writable ends
    rw [intDigits]
    rw [hcs, List.map_cons, List.cons_append] at hnumber ⊢
    rw [constantOf_of_isDigit hdigit]
    exact hnumber
  | negSucc n =>
    obtain ⟨c, cs, hcs, hdigit⟩ := exists_natDigits (n + 1)
    have hnumber := number_minus (n := n + 1) writable ends
    rw [intDigits, List.map_cons, List.cons_append]
    rw [hcs, List.map_cons, List.cons_append] at hnumber ⊢
    rw [constantOf_minus hdigit]
    exact hnumber

/-- Neither a text nor an array nor an object starts here. -/
theorem value_scalar {c : Char} (quote : c ≠ '"') (bracket : c ≠ '[') (brace : c ≠ '\x7b')
    (depth : Nat) :
    value depth (.char c :: rest) = constantOf constants (.char c :: rest) := by
  rw [value.eq_def]
  split <;> simp_all

end Scalar

/-- A value without fractions and lone surrogates, whose whole numbers can be written and whose
objects name no member twice; arrays and objects are nested at most `depth` deep. -/
inductive Plain : (depth : Nat) → Json → Prop where
  | null {depth : Nat} : Plain depth .null
  | bool {depth : Nat} (b : Bool) : Plain depth (.bool b)
  | int {depth : Nat} {n : Int} (writable : Writable n) : Plain depth (.int n)
  | str {depth : Nat} (s : String) : Plain depth (.str s)
  | arr {depth : Nat} {items : List Json} (plain : ∀ v ∈ items, Plain depth v) :
      Plain (depth + 1) (.arr items)
  | obj {depth : Nat} {members : Members} (names : ∀ m ∈ members, ∃ name : String, m.1 = name)
      (distinct : (members.map Prod.fst).Nodup) (plain : ∀ m ∈ members, Plain depth m.2) :
      Plain (depth + 1) (.obj members)

theorem Plain.mono {depth more : Nat} {v : Json} (plain : Plain depth v) (h : depth ≤ more) :
    Plain more v := by
  induction plain generalizing more with
  | null => exact .null
  | bool b => exact .bool b
  | int writable => exact .int writable
  | str s => exact .str s
  | arr _ ih =>
    obtain ⟨more, rfl⟩ := Nat.exists_eq_add_of_le' (Nat.one_le_of_lt h)
    exact .arr fun v hv => ih v hv (Nat.le_of_succ_le_succ h)
  | obj names distinct _ ih =>
    obtain ⟨more, rfl⟩ := Nat.exists_eq_add_of_le' (Nat.one_le_of_lt h)
    exact .obj names distinct fun m hm => ih m hm (Nat.le_of_succ_le_succ h)

/-- What the compact form of a value starts with. -/
def Opens (c : Char) : Prop := c ∈ ['n', 't', 'f', '"', '[', '\x7b', '-'] ∨ c.isDigit

theorem exists_chars {depth : Nat} {v : Json} (plain : Plain depth v) :
    ∃ c cs, chars v = c :: cs ∧ Opens c := by
  cases plain with
  | null => exact ⟨_, _, by rw [chars], .inl (by simp)⟩
  | bool b => cases b <;> exact ⟨_, _, by rw [chars], .inl (by simp)⟩
  | str s => exact ⟨_, _, by rw [chars, stringChars]; rfl, .inl (by simp)⟩
  | @int _ n _ =>
    cases n with
    | ofNat n =>
      obtain ⟨c, cs, hcs, hdigit⟩ := exists_natDigits n
      exact ⟨c, cs, by rw [chars, intDigits, hcs], .inr hdigit⟩
    | negSucc n => exact ⟨_, _, by rw [chars, intDigits], .inl (by simp)⟩
  | @arr _ items _ =>
    exact ⟨'[', (chars (.arr items)).tail, by cases items <;> simp [chars], .inl (by simp)⟩
  | @obj _ members _ _ _ =>
    exact ⟨'\x7b', (chars (.obj members)).tail, by cases members <;> simp [chars], .inl (by simp)⟩

theorem Opens.ne {c d : Char} (opens : Opens c)
    (hd : d ∉ ['n', 't', 'f', '"', '[', '\x7b', '-'] ∧ d.isDigit = false) : c ≠ d := by
  rintro rfl
  rcases opens with h | h
  · exact hd.1 h
  · exact ne_of_isDigit h hd.2 rfl

theorem skipSpace_cons {c : Char} (h : isSpace (.char c) = false) (tail : List Symbol) :
    skipSpace (.char c :: tail) = .char c :: tail := by
  simp [skipSpace, h]

/-- No blank is skipped in front of a value. -/
theorem skipSpace_chars {depth : Nat} {v : Json} (plain : Plain depth v) (rest : List Symbol) :
    skipSpace ((chars v).map .char ++ rest) = (chars v).map .char ++ rest := by
  obtain ⟨c, cs, hcs, hopens⟩ := exists_chars plain
  have hspace : isSpace (.char c) = false := by
    simp [isSpace, hopens.ne]
  rw [hcs]
  exact skipSpace_cons hspace _

/-- From its compact form the value is read, up to where a value may end. -/
def ReadsBack (depth : Nat) (v : Json) : Prop :=
  ∀ rest, Ends rest → value depth ((chars v).map .char ++ rest) = .ok (v, rest)

section Sequence

variable {depth : Nat} {rest : List Symbol}

theorem ends_itemChars (vs : List Json) : Ends ((itemChars vs).map .char ++ rest) := by
  cases vs <;> simp [Ends, itemChars]

theorem ends_memberChars (ms : Members) : Ends ((memberChars ms).map .char ++ rest) := by
  rcases ms with _ | ⟨⟨k, v⟩, ms⟩ <;> simp [Ends, memberChars]

theorem length_lt_itemChars (vs : List Json) : vs.length < (itemChars vs).length := by
  induction vs with
  | nil => simp [itemChars]
  | cons v vs ih =>
    simp only [itemChars, List.length_cons, List.length_append]
    omega

theorem length_lt_memberChars (ms : Members) : ms.length < (memberChars ms).length := by
  induction ms with
  | nil => simp [memberChars]
  | cons m ms ih =>
    simp only [memberChars, List.length_cons, List.length_append]
    omega

/-- The loop takes one item after another, with the comma or the bracket behind it. -/
theorem items_chars {count : Nat} {v : Json} {vs done : List Json}
    (plain : ∀ w ∈ v :: vs, Plain depth w) (read : ∀ w ∈ v :: vs, ReadsBack depth w)
    (enough : vs.length < count) :
    items (value depth) count done ((chars v ++ itemChars vs).map .char ++ rest) =
      .ok (.arr (done.reverse ++ v :: vs), rest) := by
  induction count generalizing v vs done with
  | zero => exact absurd enough (Nat.not_lt_zero _)
  | succ count ih =>
    have hv := read v List.mem_cons_self ((itemChars vs).map .char ++ rest) (ends_itemChars vs)
    rw [List.map_append, List.append_assoc, items, hv]
    cases vs with
    | nil =>
      have hclose := skipSpace_cons (rfl : isSpace (.char ']') = false)
      simp [itemChars, bind, Except.bind, hclose]
    | cons w vs =>
      have htight := skipSpace_chars (plain w (by simp)) ((itemChars vs).map .char ++ rest)
      have hrest : items (value depth) count (v :: done) _ = _ :=
        ih (fun u hu => plain u (List.mem_cons_of_mem v hu))
          (fun u hu => read u (List.mem_cons_of_mem v hu)) (Nat.lt_of_succ_lt_succ enough)
      have hcomma := skipSpace_cons (rfl : isSpace (.char ',') = false)
      rw [List.map_append, List.append_assoc] at hrest
      simp [itemChars, bind, Except.bind, hcomma, htight, hrest]

theorem put_of_notMem {key : LooseText} {v : Json} {done : Members}
    (new : key ∉ done.map Prod.fst) : put key v done = done ++ [(key, v)] := by
  induction done with
  | nil => rfl
  | cons m done ih =>
    simp only [List.map_cons, List.mem_cons, not_or] at new
    simp [put, Ne.symm new.1, ih new.2]

/-- The loop takes one member after another; each name is new, so that the members keep their
order. -/
theorem members_chars {count : Nat} {k : LooseText} {v : Json} {ms done : Members}
    (names : ∀ m ∈ (k, v) :: ms, ∃ name : String, m.1 = name)
    (distinct : ((done ++ (k, v) :: ms).map Prod.fst).Nodup)
    (plain : ∀ m ∈ (k, v) :: ms, Plain depth m.2)
    (read : ∀ m ∈ (k, v) :: ms, ReadsBack depth m.2) (enough : ms.length < count) :
    members (value depth) count done
        ((stringChars k ++ ':' :: chars v ++ memberChars ms).map .char ++ rest) =
      .ok (.obj (done ++ (k, v) :: ms), rest) := by
  induction count generalizing k v ms done with
  | zero => exact absurd enough (Nat.not_lt_zero _)
  | succ count ih =>
    obtain ⟨name, rfl⟩ : ∃ name : String, k = name := names _ List.mem_cons_self
    have hv := read _ List.mem_cons_self ((memberChars ms).map .char ++ rest) (ends_memberChars ms)
    have htight := skipSpace_chars (plain _ List.mem_cons_self) ((memberChars ms).map .char ++ rest)
    have hnew : (name : LooseText) ∉ done.map Prod.fst := by
      simp only [List.map_append, List.map_cons, List.nodup_append, List.mem_cons] at distinct
      exact fun hmem => distinct.2.2 _ hmem _ (.inl rfl) rfl
    have hcolon := skipSpace_cons (rfl : isSpace (.char ':') = false)
    have hcomma := skipSpace_cons (rfl : isSpace (.char ',') = false)
    have hclose := skipSpace_cons (rfl : isSpace (.char '\x7d') = false)
    rw [List.map_append, List.map_append, map_char_stringChars]
    simp only [List.cons_append, List.append_assoc, List.map_cons, List.nil_append]
    rw [members, stringTail_stringChars]
    cases ms with
    | nil =>
      simp only [bind, Except.bind, hcolon, htight, hv]
      simp [memberChars, hclose, put_of_notMem hnew]
    | cons m ms =>
      obtain ⟨k', v'⟩ := m
      have hrest : members (value depth) count (done ++ [((name : LooseText), v)])
          ((stringChars k' ++ ':' :: chars v' ++ memberChars ms).map .char ++ rest) = _ :=
        ih (fun m hm => names m (List.mem_cons_of_mem _ hm)) (by simpa using distinct)
          (fun m hm => plain m (List.mem_cons_of_mem _ hm))
          (fun m hm => read m (List.mem_cons_of_mem _ hm)) (Nat.lt_of_succ_lt_succ enough)
      have hkey : skipSpace ((stringChars k' ++ ':' :: chars v' ++ memberChars ms).map .char ++
          rest) = (stringChars k' ++ ':' :: chars v' ++ memberChars ms).map .char ++ rest := rfl
      simp only [bind, Except.bind, hcolon, htight, hv]
      simp only [memberChars, List.map_cons, List.cons_append, hcomma, put_of_notMem hnew]
      rw [hkey, hrest]
      simp

end Sequence

section Value

variable {depth : Nat}

theorem readsBack_str (s : String) : ReadsBack depth (.str s) := by
  intro rest _
  rw [chars, map_char_stringChars, List.cons_append, List.append_assoc, value]
  simp [stringTail_stringChars, bind, Except.bind, pure, Except.pure]

theorem readsBack_int {n : Int} (writable : Writable n) : ReadsBack depth (.int n) := by
  intro rest ends
  have hread := constantOf_intDigits writable ends
  rw [chars]
  cases n with
  | ofNat n =>
    obtain ⟨c, cs, hcs, hdigit⟩ := exists_natDigits n
    rw [intDigits, hcs, List.map_cons, List.cons_append] at hread ⊢
    rw [value_scalar (ne_of_isDigit hdigit rfl) (ne_of_isDigit hdigit rfl)
      (ne_of_isDigit hdigit rfl), hread]
  | negSucc n =>
    rw [intDigits, List.map_cons, List.cons_append] at hread ⊢
    rw [value_scalar (by decide) (by decide) (by decide), hread]

theorem readsBack_arr {vs : List Json} (plain : ∀ v ∈ vs, Plain depth v)
    (read : ∀ v ∈ vs, ReadsBack depth v) : ReadsBack (depth + 1) (.arr vs) := by
  intro rest _
  cases vs with
  | nil =>
    have hclose := skipSpace_cons (rfl : isSpace (.char ']') = false)
    simp [chars, value, hclose]
  | cons v vs =>
    obtain ⟨c, cs, hcs, hopens⟩ := exists_chars (plain v List.mem_cons_self)
    have hclose : c ≠ ']' := hopens.ne (by decide)
    have htight := skipSpace_chars (plain v List.mem_cons_self) ((itemChars vs).map .char ++ rest)
    have henough : vs.length < ((chars v ++ itemChars vs).map Symbol.char ++ rest).length + 1 := by
      have hshort := length_lt_itemChars vs
      simp only [List.length_append, List.length_map]
      omega
    have hitems : items (value depth) _ [] _ = .ok (.arr (v :: vs), rest) :=
      items_chars plain read henough
    rw [chars, List.cons_append, List.map_cons, List.cons_append, value]
    rw [List.map_append, List.append_assoc] at hitems ⊢
    rw [htight]
    simp only [hcs, List.map_cons, List.cons_append] at hitems ⊢
    simpa [hclose] using hitems

theorem readsBack_obj {ms : Members} (names : ∀ m ∈ ms, ∃ name : String, m.1 = name)
    (distinct : (ms.map Prod.fst).Nodup) (plain : ∀ m ∈ ms, Plain depth m.2)
    (read : ∀ m ∈ ms, ReadsBack depth m.2) : ReadsBack (depth + 1) (.obj ms) := by
  intro rest _
  rcases ms with _ | ⟨⟨k, v⟩, ms⟩
  · have hclose := skipSpace_cons (rfl : isSpace (.char '\x7d') = false)
    simp [chars, value, hclose]
  · have henough : ms.length < ((stringChars k ++ ':' :: chars v ++ memberChars ms).map
        Symbol.char ++ rest).length + 1 := by
      have hshort := length_lt_memberChars ms
      simp only [List.length_append, List.length_map, List.length_cons]
      omega
    have hmembers : members (value depth) _ [] _ = .ok (.obj ((k, v) :: ms), rest) :=
      members_chars names distinct plain read henough
    have hopen : skipSpace ((stringChars k ++ ':' :: chars v ++ memberChars ms).map Symbol.char ++
        rest) = (stringChars k ++ ':' :: chars v ++ memberChars ms).map Symbol.char ++ rest := rfl
    rw [chars, List.cons_append, List.cons_append, List.map_cons, List.cons_append, value, hopen]
    exact hmembers

/-- Every plain value is read back, by induction on how it is built. -/
theorem readsBack_of_plain {v : Json} (plain : Plain depth v) : ReadsBack depth v := by
  induction plain with
  | null => exact fun rest _ => value_scalar (by decide) (by decide) (by decide) _
  | bool b =>
    cases b <;> exact fun rest _ => value_scalar (by decide) (by decide) (by decide) _
  | int writable => exact readsBack_int writable
  | str s => exact readsBack_str s
  | arr plain ih => exact readsBack_arr plain ih
  | obj names distinct plain ih => exact readsBack_obj names distinct plain ih

end Value

variable [Json.Nesting]

/-- What is read back from the compact form of a plain value is the value. -/
theorem readSymbols_chars {v : Json} (plain : Plain Nesting.depth v) :
    readSymbols ((chars v).map .char) = .ok v := by
  have htight := skipSpace_chars plain []
  have hread := readsBack_of_plain plain [] (by simp [Ends])
  rw [List.append_nil] at htight hread
  have hdocument : document ((chars v).map .char) = .ok v := by
    rw [document, htight, hread]
    rfl
  rw [readSymbols, hdocument]
  rfl

theorem read_compact {v : Json} (plain : Plain Nesting.depth v) : read v.compact = .ok v := by
  obtain ⟨c, cs, hcs, hopens⟩ := exists_chars plain
  have hmark : c ≠ '\ufeff' := hopens.ne (by decide)
  unfold read compact
  rw [String.toList_ofList]
  split
  next tail h =>
    rw [hcs, List.cons.injEq] at h
    exact absurd h.1 hmark
  next => exact readSymbols_chars plain

end Json

end AllowanceProxy
