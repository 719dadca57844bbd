import AllowanceProxy.Chain.Lcd
import AllowanceProxy.Proofs.Compact
import Mathlib.Data.Bool.AllAny
import Mathlib.Data.List.Basic

/-!
Octets of texts. Base64 gives back every octet, and the compact form of a value is visible ASCII:
each of its characters is one octet, from which the coding is told and the value is read back.
-/
namespace AllowanceProxy

open Text

namespace Base64

theorem value?_symbol {n : Nat} (h : n < 64) : value? (symbol n) = some n := by
  have hall : ∀ k : Fin 64, value? (symbol k) = some k.val := by decide
  exact hall ⟨n, h⟩

/-- The characters of base64. -/
def IsSymbol (c : Char) : Prop := c.isAlphanum ∨ c ∈ ['+', '/', '=']

theorem symbol_eq_slash_iff {n : Nat} : symbol n = '/' ↔ 63 ≤ n := by
  have hall : ∀ k : Fin 64, symbol k = '/' ↔ 63 ≤ k.val := by decide
  by_cases h : n < 64
  · exact hall ⟨n, h⟩
  · refine iff_of_true ?_ (by omega)
    unfold symbol
    rw [if_neg (by omega), if_neg (by omega), if_neg (by omega), if_neg (by omega)]

theorem isSymbol_symbol (n : Nat) : IsSymbol (symbol n) ∧ symbol n ≠ '=' := by
  have hall : ∀ k : Fin 64,
      ((symbol k).isAlphanum ∨ symbol k ∈ ['+', '/', '=']) ∧ symbol k ≠ '=' := by decide
  by_cases h : n < 64
  · exact hall ⟨n, h⟩
  · rw [symbol_eq_slash_iff.mpr (by omega)]
    exact ⟨.inr (by decide), by decide⟩

theorem isSymbol_of_mem_encode {bs : List UInt8} : ∀ c ∈ encode bs, IsSymbol c := by
  have hpad : IsSymbol '=' := .inr (by decide)
  induction bs using encode.induct with
  | case1 => simp [encode]
  | case2 a => simp [encode, isSymbol_symbol, hpad]
  | case3 a b => simp [encode, isSymbol_symbol, hpad]
  | case4 a b c rest ih => simpa [encode, isSymbol_symbol] using ih

section Groups

variable {i j k l : Nat} (hi : i < 64) (hj : j < 64) (hk : k < 64) (hl : l < 64)

include hi hj

theorem decode?_pair :
    decode? [symbol i, symbol j, '=', '='] = some [octet ((i * 64 + j) / 16)] := by
  simp [decode?, value?_symbol hi, value?_symbol hj]

include hk

theorem decode?_triple : decode? [symbol i, symbol j, symbol k, '='] =
    some [octet (((i * 64 + j) * 64 + k) / 1024), octet (((i * 64 + j) * 64 + k) / 4 % 256)] := by
  have hpad := (isSymbol_symbol k).2
  rw [decode?]
  · simp [value?_symbol hi, value?_symbol hj, value?_symbol hk]
  · simp [hpad]

include hl

theorem decode?_group (rest : List Char) :
    decode? (symbol i :: symbol j :: symbol k :: symbol l :: rest) =
      (decode? rest).map fun more =>
        let n := ((i * 64 + j) * 64 + k) * 64 + l
        octet (n / 65536) :: octet (n / 256 % 256) :: octet (n % 256) :: more := by
  have hpad := (isSymbol_symbol l).2
  rw [decode?]
  · rw [value?_symbol hi, value?_symbol hj, value?_symbol hk, value?_symbol hl]
    cases decode? rest <;> rfl
  · simp [hpad]
  · simp [hpad]

end Groups

theorem octet_eq {n : Nat} {b : UInt8} (h : n = b.toNat) : octet n = b := by
  rw [h, octet, UInt8.ofNat_toNat]

/-- Three octets are four symbols; the symbols of the last group are padded. -/
theorem decode?_encode (bs : List UInt8) : decode? (encode bs) = some bs := by
  induction bs using encode.induct with
  | case1 => rfl
  | case2 a =>
    have ha := a.toNat_lt
    have hfirst : octet ((a.toNat * 65536 / 262144 * 64 + a.toNat * 65536 / 4096 % 64) / 16) = a :=
      octet_eq (by omega)
    rw [encode, decode?_pair (by omega) (by omega), hfirst]
  | case3 a b =>
    have ha := a.toNat_lt
    have hb := b.toNat_lt
    rw [encode, decode?_triple (by omega) (by omega) (by omega)]
    rw [octet_eq (b := a) (by omega), octet_eq (b := b) (by omega)]
  | case4 a b c rest ih =>
    have ha := a.toNat_lt
    have hb := b.toNat_lt
    have hc := c.toNat_lt
    rw [encode, decode?_group (by omega) (by omega) (by omega) (by omega), ih]
    simp only [Option.map_some]
    rw [octet_eq (b := a) (by omega), octet_eq (b := b) (by omega), octet_eq (b := c) (by omega)]

end Base64

/-- Visible ASCII, with the blank. -/
def Text.IsGraphic (c : Char) : Prop := 0x20 ≤ c.toNat ∧ c.toNat < 0x7f

instance (c : Char) : Decidable (IsGraphic c) := inferInstanceAs (Decidable (_ ∧ _))

namespace Json

open Number

section Visible

variable {depth : Nat}

theorem graphic_of_isDigit {c : Char} (h : c.isDigit) : IsGraphic c := by
  obtain ⟨hleast, hmost⟩ := Char.isDigit_iff_toNat.mp h
  have hzero : '0'.toNat = 48 := rfl
  have hnine : '9'.toNat = 57 := rfl
  exact ⟨by omega, by omega⟩

theorem graphic_unitEscape (u : Nat) : ∀ c ∈ unitEscape u, IsGraphic c := by
  have hdigit : ∀ n, IsGraphic (hexDigit n) := forall_hexDigit (by decide)
  have hmarks : IsGraphic '\\' ∧ IsGraphic 'u' := by decide
  simp [unitEscape, hexDigits, hmarks, hdigit]

theorem graphic_escapeChar (d : Char) : ∀ c ∈ escapeChar d, IsGraphic c := by
  have hescape := escape_escapeChar d
  generalize escapeChar d = cs at hescape ⊢
  cases hescape with
  | letter _ known =>
    have hletters : ∀ e ∈ ['"', '\\', 'n', 'r', 't', 'f', 'b'], IsGraphic e :=
      List.all_iff_forall_prop.mp (by decide)
    exact List.forall_mem_cons.mpr ⟨by decide, List.forall_mem_singleton.mpr (hletters _ known)⟩
  | itself _ _ visible => exact List.forall_mem_singleton.mpr visible
  | unit _ => exact graphic_unitEscape _
  | surrogates _ => exact List.forall_mem_append.mpr ⟨graphic_unitEscape _, graphic_unitEscape _⟩

theorem graphic_stringChars (s : String) : ∀ c ∈ stringChars s, IsGraphic c := by
  have hquote : IsGraphic '"' := by decide
  have hescaped : ∀ c ∈ s.toList.flatMap escapeChar, IsGraphic c := by
    intro c hc
    obtain ⟨d, -, hd⟩ := List.mem_flatMap.mp hc
    exact graphic_escapeChar d c hd
  rw [stringChars_plain, List.cons_append, List.forall_mem_cons, List.forall_mem_append]
  exact ⟨hquote, hescaped, List.forall_mem_singleton.mpr hquote⟩

theorem graphic_intDigits (n : Int) : ∀ c ∈ intDigits n, IsGraphic c := by
  have hdigits (n : Nat) : ∀ c ∈ natDigits n, IsGraphic c := fun c hc =>
    graphic_of_isDigit (isDigit_of_mem_natDigits hc)
  cases n with
  | ofNat n => exact hdigits n
  | negSucc n => exact List.forall_mem_cons.mpr ⟨by decide, hdigits _⟩

theorem graphic_itemChars {vs : List Json} (h : ∀ v ∈ vs, ∀ c ∈ chars v, IsGraphic c) :
    ∀ c ∈ itemChars vs, IsGraphic c := by
  have hmarks : IsGraphic ',' ∧ IsGraphic ']' := by decide
  induction vs with
  | nil => simp [itemChars, hmarks]
  | cons v vs ih =>
    obtain ⟨hv, hvs⟩ := List.forall_mem_cons.mp h
    simpa [itemChars, hmarks, or_imp, forall_and] using ⟨hv, ih hvs⟩

theorem graphic_memberChars {ms : Members} (names : ∀ m ∈ ms, ∃ name : String, m.1 = name)
    (h : ∀ m ∈ ms, ∀ c ∈ chars m.2, IsGraphic c) : ∀ c ∈ memberChars ms, IsGraphic c := by
  have hmarks : IsGraphic ',' ∧ IsGraphic ':' ∧ IsGraphic '\x7d' := by decide
  induction ms with
  | nil => simp [memberChars, hmarks]
  | cons m ms ih =>
    obtain ⟨⟨name, hname⟩, hnames⟩ := List.forall_mem_cons.mp names
    obtain ⟨hv, hvs⟩ := List.forall_mem_cons.mp h
    obtain ⟨k, v⟩ := m
    obtain rfl : k = name := hname
    simpa [memberChars, hmarks, or_imp, forall_and] using
      ⟨graphic_stringChars name, hv, ih hnames hvs⟩

/-- By induction on how the value is built. -/
theorem graphic_chars {v : Json} (plain : Plain depth v) : ∀ c ∈ chars v, IsGraphic c := by
  have hmarks : IsGraphic '[' ∧ IsGraphic ']' ∧ IsGraphic '\x7b' ∧ IsGraphic '\x7d' ∧
    IsGraphic ':' := by decide
  induction plain with
  | null =>
    rw [chars]
    exact List.all_iff_forall_prop.mp (by decide)
  | bool b =>
    cases b <;> rw [chars] <;> exact List.all_iff_forall_prop.mp (by decide)
  | int writable => simpa [chars] using graphic_intDigits _
  | str s => simpa [chars] using graphic_stringChars s
  | @arr _ items plain ih =>
    cases items with
    | nil => simp [chars, hmarks]
    | cons v vs =>
      obtain ⟨hv, hvs⟩ := List.forall_mem_cons.mp ih
      simpa [chars, hmarks, or_imp, forall_and] using ⟨hv, graphic_itemChars hvs⟩
  | @obj _ members names distinct plain ih =>
    cases members with
    | nil => simp [chars, hmarks]
    | cons m ms =>
      obtain ⟨⟨name, hname⟩, hnames⟩ := List.forall_mem_cons.mp names
      obtain ⟨hv, hvs⟩ := List.forall_mem_cons.mp ih
      obtain ⟨k, v⟩ := m
      obtain rfl : k = name := hname
      simpa [chars, hmarks, or_imp, forall_and] using
        ⟨graphic_stringChars name, hv, graphic_memberChars hnames hvs⟩

end Visible

end Json

/-! The octets of visible text are read as the text, whatever its coding might be taken for. -/

section Octets

variable {cs : List Char} {count start : Nat} {done : List Symbol}

def octetOf (c : Char) : UInt8 := UInt8.ofNat c.toNat

theorem toNat_octetOf {c : Char} (h : IsGraphic c) : (octetOf c).toNat = c.toNat := by
  have hmost := h.2
  simp only [octetOf, UInt8.toNat_ofNat']
  omega

theorem Lcd.utf8_eq_map {s : String} (h : ∀ c ∈ s.toList, IsGraphic c) :
    utf8 s = s.toList.map octetOf := by
  have hsingle : ∀ c ∈ s.toList, String.utf8EncodeChar c = [octetOf c] := by
    intro c hc
    have hmost : c.val.toNat < 0x7f := (h c hc).2
    unfold String.utf8EncodeChar
    rw [if_pos (by omega)]
    rfl
  unfold utf8
  rw [List.flatMap_congr hsingle, List.map_eq_flatMap]

theorem head_octetOf {c : Char} (h : IsGraphic c) (bs : List UInt8) :
    Coding.utf8.head (octetOf c) bs = .symbol (.char c) 1 := by
  have hcode := toNat_octetOf h
  have hmost := h.2
  have hsurrogate : spelledSurrogate? (octetOf c) bs = none := by
    unfold spelledSurrogate?
    split
    next heq =>
      have hfirst : (0xed : UInt8).toNat = c.toNat := heq ▸ hcode
      have hvalue : (0xed : UInt8).toNat = 237 := rfl
      omega
    next => rfl
  unfold Coding.head looseUtf8Head
  simp only [hsurrogate]
  unfold utf8Head
  simp only [hcode]
  rw [if_pos (by omega), Symbol.ofNat_toNat]

theorem decodeFrom_map_octetOf (h : ∀ c ∈ cs, IsGraphic c) (enough : cs.length ≤ count) :
    decodeFrom .utf8 count start done (cs.map octetOf) = .ok (done.reverse ++ cs.map .char) := by
  induction cs generalizing count start done with
  | nil => cases count <;> simp [decodeFrom]
  | cons c cs ih =>
    obtain ⟨hc, hcs⟩ := List.forall_mem_cons.mp h
    obtain ⟨count, rfl⟩ := Nat.exists_eq_add_of_le' (Nat.one_le_of_lt enough)
    rw [List.map_cons, decodeFrom, head_octetOf hc]
    simp only [List.drop_succ_cons, List.drop_zero]
    rw [ih hcs (Nat.le_of_succ_le_succ enough)]
    simp

/-- No visible text starts with a byte order mark or with zeros. -/
theorem decodeDetected_eq {bs : List UInt8} (h : ∀ b ∈ bs, 0x20 ≤ b.toNat ∧ b.toNat < 0x7f) :
    decodeDetected bs = decode .utf8 0 bs := by
  have hzero : ∀ b ∈ bs, b ≠ 0 := by
    rintro b hb rfl
    exact absurd (h 0 hb).1 (by decide)
  have hmark : ∀ m ∈ byteOrderMarks, ∃ b ∈ m.1, b.toNat < 0x20 ∨ 0x7f ≤ b.toNat := by
    simp [byteOrderMarks]
  have hunmarked : byteOrderMarks.find? (fun m => m.1.isPrefixOf bs) = none := by
    rw [List.find?_eq_none]
    intro m hm hpre
    obtain ⟨b, hb, hout⟩ := hmark m hm
    have hin := h b ((List.isPrefixOf_iff_prefix.mp hpre).subset hb)
    omega
  have hcoding : unmarkedCoding bs = .utf8 := by
    unfold unmarkedCoding
    split
    next a b => rw [if_neg (hzero a (by simp)), if_neg (hzero b (by simp))]
    next a b _ _ _ => rw [if_neg (hzero a (by simp)), if_neg (hzero b (by simp))]
    next => rfl
  rw [decodeDetected, hunmarked, hcoding]

theorem decodeDetected_map_octetOf (h : ∀ c ∈ cs, IsGraphic c) :
    decodeDetected (cs.map octetOf) = .ok (cs.map .char) := by
  have hoctets : ∀ b ∈ cs.map octetOf, 0x20 ≤ b.toNat ∧ b.toNat < 0x7f := by
    rw [List.forall_mem_map]
    intro c hc
    rw [toNat_octetOf (h c hc)]
    exact h c hc
  rw [decodeDetected_eq hoctets, decode, decodeFrom_map_octetOf h (by simp)]
  rfl

variable [Json.Nesting]

/-- The octets of the compact form of a plain value. -/
theorem readOctets_compact {v : Json} (plain : Json.Plain Json.Nesting.depth v) :
    Json.readOctets (Lcd.utf8 v.compact) = .ok v := by
  have hchars : v.compact.toList = Json.chars v := String.toList_ofList
  have hvisible := Json.graphic_chars plain
  have hoctets : Lcd.utf8 v.compact = (Json.chars v).map octetOf := by
    rw [Lcd.utf8_eq_map (hchars ▸ hvisible), hchars]
  rw [hoctets, Json.readOctets, decodeDetected_map_octetOf hvisible]
  exact Json.readSymbols_chars plain

end Octets

end AllowanceProxy
