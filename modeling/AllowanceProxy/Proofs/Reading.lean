import AllowanceProxy.Json.Reader
import AllowanceProxy.Proofs.Numeral

/-!
What the reader makes of plain text: a quoted text without escapes stands for itself, and a member
alone between braces for an object with that member.
-/
namespace AllowanceProxy.Json

open Text

/-- A character that stands for itself between quotes. -/
def Literal (c : Char) : Prop := c ≠ '"' ∧ c ≠ '\\' ∧ 0x20 ≤ c.toNat

theorem literal_of_isDigit {c : Char} (h : c.isDigit) : Literal c := by
  obtain ⟨hleast, -⟩ := between_of_isDigit h
  refine ⟨?_, ?_, by omega⟩
  · rintro rfl
    exact absurd h (by decide)
  · rintro rfl
    exact absurd h (by decide)

section Text

variable {opened : Nat} {done rest : List Symbol}

theorem stringTail_literal {c : Char} (h : Literal c) :
    stringTail opened done (.char c :: rest) = stringTail opened (.char c :: done) rest := by
  obtain ⟨hquote, hslash, hprintable⟩ := h
  rw [stringTail.eq_def]
  simp [hquote, hslash, Symbol.shown, Nat.not_lt.mpr hprintable]

theorem stringTail_literals {cs : List Char} (h : ∀ c ∈ cs, Literal c) :
    stringTail opened done (cs.map .char ++ .char '"' :: rest) =
      .ok (.ofSymbols (done.reverse ++ cs.map .char), rest) := by
  induction cs generalizing done with
  | nil => simp [stringTail]
  | cons c cs ih =>
    rw [List.map_cons, List.cons_append, stringTail_literal (h c List.mem_cons_self),
      ih fun d hd => h d (List.mem_cons_of_mem c hd)]
    simp

theorem stringTail_text {s : String} (h : ∀ c ∈ s.toList, Literal c) (opened : Nat)
    (rest : List Symbol) :
    stringTail opened [] (s.toList.map .char ++ .char '"' :: rest) = .ok (.plain s, rest) := by
  have hplain : LooseText.ofSymbols (s.toList.map .char) = .plain s :=
    LooseText.ofSymbols_symbols (.plain s)
  rw [stringTail_literals h, List.reverse_nil, List.nil_append, hplain]

end Text

theorem value_text {s : String} (h : ∀ c ∈ s.toList, Literal c) (depth : Nat)
    (rest : List Symbol) :
    value depth (.char '"' :: (s.toList.map .char ++ .char '"' :: rest)) = .ok (.str s, rest) := by
  rw [value, stringTail_text h]
  rfl

section Member

variable {depth count : Nat} {v : Json} {body rest : List Symbol}

theorem members_single (key : String) (h : ∀ c ∈ key.toList, Literal c)
    (tight : skipSpace body = body)
    (read : value depth body = .ok (v, .char '\x7d' :: rest)) :
    members (value depth) (count + 1) [] (.char '"' ::
      (key.toList.map .char ++ .char '"' :: .char ':' :: body)) = .ok (.obj [(key, v)], rest) := by
  have hcolon : skipSpace (.char ':' :: body) = .char ':' :: body := rfl
  have hclose : skipSpace (.char '\x7d' :: rest) = .char '\x7d' :: rest := rfl
  rw [members, stringTail_text h]
  simp [bind, Except.bind, hcolon, tight, read, hclose, put]

theorem value_single (key : String) (h : ∀ c ∈ key.toList, Literal c)
    (tight : skipSpace body = body)
    (read : value depth body = .ok (v, .char '\x7d' :: rest)) :
    value (depth + 1) (.char '\x7b' :: .char '"' ::
      (key.toList.map .char ++ .char '"' :: .char ':' :: body)) = .ok (.obj [(key, v)], rest) := by
  have hopen (tail : List Symbol) : skipSpace (.char '"' :: tail) = .char '"' :: tail := rfl
  rw [value, hopen]
  exact members_single key h tight read

end Member

/-- The payload that burns an amount of a contract's tokens. -/
def burning (amount : String) : String :=
  "\x7b\"burn\":\x7b\"amount\":\"" ++ amount ++ "\"\x7d\x7d"

theorem map_char_burning (amount : String) : (burning amount).toList.map Symbol.char =
    .char '\x7b' :: .char '"' :: ("burn".toList.map .char ++ .char '"' :: .char ':' ::
      .char '\x7b' :: .char '"' :: ("amount".toList.map .char ++ .char '"' :: .char ':' ::
        .char '"' :: (amount.toList.map .char ++ [.char '"', .char '\x7d', .char '\x7d']))) := by
  have hjoin (s t : String) :
      (s ++ amount ++ t).toList = s.toList ++ (amount.toList ++ t.toList) := by
    rw [String.toList_append, String.toList_append, List.append_assoc]
  have hfront : "\x7b\"burn\":\x7b\"amount\":\"".toList =
      ['\x7b', '"', 'b', 'u', 'r', 'n', '"', ':', '\x7b', '"', 'a', 'm', 'o', 'u', 'n', 't', '"',
        ':', '"'] := by simp
  have hback : "\"\x7d\x7d".toList = ['"', '\x7d', '\x7d'] := by simp
  unfold burning
  rw [hjoin, hfront, hback, List.map_append, List.map_append]
  rfl

variable [Json.Nesting]

theorem read_burning {amount : String} (h : ∀ c ∈ amount.toList, Literal c) :
    read (burning amount) = .ok (.obj [("burn", .obj [("amount", .str amount)])]) := by
  have htwo : 2 ≤ Nesting.depth := Nat.le_trans (by decide) Nesting.le_depth
  obtain ⟨room, hroom⟩ := Nat.exists_eq_add_of_le' htwo
  have hamount := value_text h room [.char '\x7d', .char '\x7d']
  have hinner := value_single "amount" (by simp [Literal]) rfl hamount
  have houter := value_single "burn" (by simp [Literal]) rfl hinner
  have hopen (tail : List Symbol) : skipSpace (.char '\x7b' :: tail) = .char '\x7b' :: tail := rfl
  unfold read
  split
  next tail hmark =>
    have hsymbols := map_char_burning amount
    rw [hmark] at hsymbols
    simp at hsymbols
  next =>
    rw [map_char_burning, readSymbols, document, hopen, hroom, houter]
    rfl

end AllowanceProxy.Json
