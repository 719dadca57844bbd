import AllowanceProxy.Proofs.RequestUrl

/-!
The encoded query as one segment of its path. Of the characters of a query only a question mark is
ever a slash in base64, and only as the third of three. A price query has question marks in its
denomination alone, so amount and denomination tell which requests keep to the seven segments of
their path.
-/
namespace AllowanceProxy

open Number Text

namespace Base64

section Thirds

variable {α β : Type}

/-- The third of each three items. -/
def thirds : List α → List α
  | [] => []
  | [_] => []
  | [_, _] => []
  | _ :: _ :: x :: rest => x :: thirds rest

theorem thirds_map (f : α → β) (xs : List α) : thirds (xs.map f) = (thirds xs).map f := by
  induction xs using thirds.induct with
  | case4 a b x rest ih => simp [thirds, ih]
  | _ => rfl

theorem mem_thirds_iff {x : α} {xs : List α} :
    x ∈ thirds xs ↔ ∃ i, i % 3 = 2 ∧ xs[i]? = some x := by
  induction xs using thirds.induct with
  | case4 a b y rest ih =>
    rw [thirds, List.mem_cons, ih]
    constructor
    · rintro (rfl | ⟨i, hi, hx⟩)
      · exact ⟨2, rfl, rfl⟩
      · exact ⟨i + 3, by omega, hx⟩
    · rintro ⟨i, hi, hx⟩
      match i, hi, hx with
      | 2, _, hx => exact .inl (Option.some.inj hx).symm
      | i + 3, hi, hx => exact .inr ⟨i, by omega, hx⟩
  | _ =>
    refine iff_of_false List.not_mem_nil ?_
    rintro ⟨i, hi, hx⟩
    obtain ⟨hlt, -⟩ := List.getElem?_eq_some_iff.mp hx
    simp only [List.length_cons, List.length_nil] at hlt
    omega

end Thirds

theorem symbol_ne_slash {n : Nat} (h : n < 63) : symbol n ≠ '/' :=
  fun heq => Nat.not_le.mpr h (symbol_eq_slash_iff.mp heq)

/-- Of the four symbols for three octets of ASCII only the last one can be a slash. -/
theorem count_slash_encode {bs : List UInt8} (ascii : ∀ b ∈ bs, b.toNat < 128) :
    (encode bs).count '/' = (thirds bs).countP fun b => b.toNat % 64 = 63 := by
  induction bs using encode.induct with
  | case1 => rfl
  | case2 a =>
    have ha := ascii a (by simp)
    rw [encode, List.count_cons_of_ne (symbol_ne_slash (by omega)),
      List.count_cons_of_ne (symbol_ne_slash (by omega))]
    rfl
  | case3 a b =>
    have ha := ascii a (by simp)
    have hb := ascii b (by simp)
    rw [encode, List.count_cons_of_ne (symbol_ne_slash (by omega)),
      List.count_cons_of_ne (symbol_ne_slash (by omega)),
      List.count_cons_of_ne (symbol_ne_slash (by omega))]
    rfl
  | case4 a b c rest ih =>
    have ha := ascii a (by simp)
    have hb := ascii b (by simp)
    have hc := ascii c (by simp)
    have hrest := ih fun x hx => ascii x (by simp [hx])
    have hlast : symbol ((a.toNat * 65536 + b.toNat * 256 + c.toNat) % 64) = '/' ↔
        c.toNat % 64 = 63 := by
      rw [symbol_eq_slash_iff]
      omega
    rw [encode, thirds, List.count_cons_of_ne (symbol_ne_slash (by omega)),
      List.count_cons_of_ne (symbol_ne_slash (by omega)),
      List.count_cons_of_ne (symbol_ne_slash (by omega)), List.count_cons, List.countP_cons, hrest]
    simp [hlast]

end Base64

namespace Json

/-- A question mark stands for itself, and no escape has one. -/
theorem question_mem_escapeChar_iff {c : Char} : '?' ∈ escapeChar c ↔ c = '?' := by
  have hunit (u : Nat) : '?' ∉ unitEscape u := by
    have hdigit : ∀ n, '?' ≠ hexDigit n := forall_hexDigit (P := ('?' ≠ ·)) (by decide)
    simp [unitEscape, hexDigits, hdigit]
  constructor
  · intro h
    have hescape := escape_escapeChar c
    generalize escapeChar c = cs at hescape h
    cases hescape with
    | letter _ known =>
      have hletters : ∀ e ∈ ['"', '\\', 'n', 'r', 't', 'f', 'b'], '?' ∉ ['\\', e] :=
        List.all_iff_forall_prop.mp (by decide)
      exact absurd h (hletters _ known)
    | itself _ _ _ => exact (List.mem_singleton.mp h).symm
    | unit _ => exact absurd h (hunit _)
    | surrogates _ => exact absurd h (by simp [hunit])
  · rintro rfl
    decide

theorem question_mem_escaped_iff {cs : List Char} : '?' ∈ cs.flatMap escapeChar ↔ '?' ∈ cs := by
  simp [question_mem_escapeChar_iff]

theorem question_mem_stringChars_iff {s : String} :
    '?' ∈ stringChars (.plain s) ↔ '?' ∈ s.toList := by
  rw [stringChars_plain]
  simp [question_mem_escapeChar_iff]

theorem question_notMem_natDigits (n : Nat) : '?' ∉ natDigits n :=
  fun h => absurd (isDigit_of_mem_natDigits h) (by decide)

theorem escapeChar_of_isDigit {c : Char} (h : c.isDigit) : escapeChar c = [c] := by
  have hne {d : Char} (hd : d.isDigit = false) : c ≠ d := ne_of_isDigit h hd
  have hvisible : 0x20 ≤ c.toNat ∧ c.toNat < 0x7f := graphic_of_isDigit h
  rw [escapeChar, if_neg (hne rfl), if_neg (hne rfl), if_neg (hne rfl), if_neg (hne rfl),
    if_neg (hne rfl), if_neg (hne rfl), if_neg (hne rfl), if_pos (by simp [hvisible])]

theorem stringChars_natText (n : Nat) :
    stringChars (.plain (natText n)) = '"' :: natDigits n ++ ['"'] := by
  have hsame : (natDigits n).flatMap escapeChar = (natDigits n).flatMap fun c => [c] :=
    List.flatMap_congr fun c hc => escapeChar_of_isDigit (isDigit_of_mem_natDigits hc)
  rw [stringChars_plain, natText, String.toList_ofList, hsame, List.flatMap_singleton']

end Json

/-- A question mark of the denomination, as it is written, is the third of three characters if they
are counted from the first digit of the amount. -/
def Coin.QuestionAtThird (c : Coin) : Prop :=
  let written := c.denom.toList.flatMap Json.escapeChar
  ∃ i < written.length, written[i]? = some '?' ∧ ((natDigits c.amount).length + i) % 3 = 2

instance (c : Coin) : Decidable c.QuestionAtThird := inferInstanceAs (Decidable (∃ i, i < _ ∧ _))

theorem Coin.QuestionAtThird.mem {c : Coin} (h : c.QuestionAtThird) : '?' ∈ c.denom.toList := by
  obtain ⟨i, -, hi, -⟩ := h
  exact Json.question_mem_escaped_iff.mp (List.mem_of_getElem? hi)

namespace WireQuery

theorem plain_toJson (q : WireQuery) : Json.Plain 5 q.toJson := by
  have hone {depth : Nat} {v : Json} (name : String) (plain : Json.Plain depth v) :
      Json.Plain (depth + 1) (.obj [(.plain name, v)]) :=
    .obj (by simp) (by simp) (by simpa using plain)
  have hasset (c : Coin) : Json.Plain 3 (asset c) := by
    have hinfo : Json.Plain 2 (.obj [("native_token", .obj [("denom", .str c.denom)])]) :=
      hone _ (hone _ (.str _))
    exact .obj (by simp) (by simp) (by simp [hinfo, Json.Plain.str])
  have hratio (name side : String) (n : Nat) :
      Json.Plain 5 (.obj [(.plain name, .obj [(.plain side, .str (natText n))])]) :=
    hone _ (hone _ (.str _))
  cases q with
  | simulation c => exact hone _ (hone _ (hasset c))
  | reverseSimulation c => exact hone _ (hone _ (hasset c))
  | token1ForToken2 n => exact hratio _ _ n
  | token2ForToken1 n => exact hratio _ _ n

theorem toList_text (q : WireQuery) : q.text.toList = Json.chars q.toJson := String.toList_ofList

theorem graphic_text (q : WireQuery) : ∀ c ∈ q.text.toList, IsGraphic c := by
  rw [toList_text]
  exact Json.graphic_chars q.plain_toJson

theorem question_notMem_ratio {q : WireQuery} {n : Nat}
    (h : q = .token1ForToken2 n ∨ q = .token2ForToken1 n) : '?' ∉ q.text.toList := by
  rw [toList_text]
  rcases h with rfl | rfl <;>
    simp [toJson, Json.chars, Json.memberChars, Json.question_mem_stringChars_iff,
      Json.stringChars_natText, Json.question_notMem_natDigits]

/-- The text of a simulation up to the denomination of its asset. -/
def front (kind side : String) (amount : Nat) : List Char :=
  '\x7b' :: Json.stringChars kind ++ ':' :: '\x7b' :: Json.stringChars side ++
    ':' :: '\x7b' :: Json.stringChars "amount" ++ ':' :: '"' :: natDigits amount ++
    '"' :: ',' :: Json.stringChars "info" ++ ':' :: '\x7b' :: Json.stringChars "native_token" ++
    ':' :: '\x7b' :: Json.stringChars "denom" ++ [':', '"']

theorem chars_simulation (kind side : String) (c : Coin) :
    Json.chars (.obj [(.plain kind, .obj [(.plain side, asset c)])]) =
      front kind side c.amount ++ (c.denom.toList.flatMap Json.escapeChar ++
        '"' :: List.replicate 5 '\x7d') := by
  have hdenom := Json.stringChars_plain c.denom
  have hclosing : List.replicate 5 '\x7d' = ['\x7d', '\x7d', '\x7d', '\x7d', '\x7d'] := rfl
  simp [front, asset, Json.chars, Json.memberChars, Json.stringChars_natText, hdenom, hclosing]

section Front

variable {kind side : String}

theorem question_notMem_front (hkind : '?' ∉ kind.toList) (hside : '?' ∉ side.toList) (n : Nat) :
    '?' ∉ front kind side n := by
  simp [front, Json.question_mem_stringChars_iff, Json.question_notMem_natDigits, hkind, hside]

theorem length_front (kind side : String) (n : Nat) : (front kind side n).length =
    (Json.stringChars kind).length + (Json.stringChars side).length + (natDigits n).length +
      50 := by
  have hnames : (Json.stringChars "amount").length = 8 ∧ (Json.stringChars "info").length = 6 ∧
      (Json.stringChars "native_token").length = 14 ∧ (Json.stringChars "denom").length = 7 := by
    decide
  simp only [front, hnames, List.length_append, List.length_cons, List.length_nil]
  omega

/-- Three divides the length of what stands in front of the denomination without the digits. -/
theorem question_mem_thirds_simulation (hkind : '?' ∉ kind.toList) (hside : '?' ∉ side.toList)
    (names : ((Json.stringChars kind).length + (Json.stringChars side).length) % 3 = 1)
    (c : Coin) :
    '?' ∈ Base64.thirds (Json.chars (.obj [(.plain kind, .obj [(.plain side, asset c)])])) ↔
      c.QuestionAtThird := by
  have hfront := question_notMem_front hkind hside c.amount
  have hback : '?' ∉ '"' :: List.replicate 5 '\x7d' := by decide
  have hlength := length_front kind side c.amount
  rw [chars_simulation, Base64.mem_thirds_iff]
  constructor
  · rintro ⟨i, hthird, hi⟩
    rcases Nat.lt_or_ge i (front kind side c.amount).length with hlt | hle
    · rw [List.getElem?_append_left hlt] at hi
      exact absurd (List.mem_of_getElem? hi) hfront
    · rw [List.getElem?_append_right hle, List.getElem?_append] at hi
      split at hi
      next hlt => exact ⟨_, hlt, hi, by omega⟩
      next => exact absurd (List.mem_of_getElem? hi) hback
  · rintro ⟨i, hlt, hi, hthird⟩
    refine ⟨(front kind side c.amount).length + i, by omega, ?_⟩
    rw [List.getElem?_append_right (by omega), Nat.add_sub_cancel_left,
      List.getElem?_append_left hlt, hi]

end Front

theorem question_mem_thirds_iff {q : WireQuery} {c : Coin}
    (h : q = .simulation c ∨ q = .reverseSimulation c) :
    '?' ∈ Base64.thirds q.text.toList ↔ c.QuestionAtThird := by
  rw [toList_text]
  rcases h with rfl | rfl
  · exact question_mem_thirds_simulation (by decide) (by decide) (by decide) c
  · exact question_mem_thirds_simulation (by decide) (by decide) (by decide) c

end WireQuery

namespace Pool

variable {p : Pool} {n : Nat} {flip target : Bool} {q : PriceQuery}

/-- What a pool is asked, by its dialect. -/
theorem wire_of_priceQuery (formatted : p.priceQuery n flip target = .ok q) :
    (p.dialect = .simulation ∧
      (q.wire = .simulation ⟨q.offered, n⟩ ∨ q.wire = .reverseSimulation ⟨q.offered, n⟩)) ∨
    (p.dialect = .priceRatio ∧ (q.wire = .token1ForToken2 n ∨ q.wire = .token2ForToken1 n)) := by
  unfold priceQuery PriceRequest.toWire at formatted
  cases hnumeral : Error.numeralOf n with
  | error e => simp [hnumeral] at formatted
  | ok text =>
    cases hdialect : p.dialect with
    | simulation =>
      simp only [hnumeral, hdialect] at formatted
      obtain rfl := Except.ok.inj formatted
      cases target
      · exact .inl ⟨rfl, .inl rfl⟩
      · exact .inl ⟨rfl, .inr rfl⟩
    | priceRatio =>
      simp only [hnumeral, hdialect] at formatted
      obtain rfl := Except.ok.inj formatted
      cases flip
      · exact .inr ⟨rfl, .inl rfl⟩
      · exact .inr ⟨rfl, .inr rfl⟩

theorem question_mem_thirds_iff (formatted : p.priceQuery n flip target = .ok q) :
    '?' ∈ Base64.thirds q.text.toList ↔
      p.dialect = .simulation ∧ Coin.QuestionAtThird ⟨q.offered, n⟩ := by
  rcases wire_of_priceQuery formatted with ⟨hdialect, hwire⟩ | ⟨hdialect, hwire⟩
  · simp [hdialect, PriceQuery.text, WireQuery.question_mem_thirds_iff hwire]
  · have hnone := WireQuery.question_notMem_ratio hwire
    rw [Base64.mem_thirds_iff]
    refine iff_of_false ?_ (by simp [hdialect])
    rintro ⟨i, -, hi⟩
    exact hnone (List.mem_of_getElem? hi)

end Pool

namespace Lcd

variable {contract : String} {query : Json}

theorem toList_encodeQuery (visible : ∀ c ∈ query.compact.toList, IsGraphic c) :
    (encodeQuery query).toList = Base64.encode (query.compact.toList.map octetOf) := by
  rw [encodeQuery, String.toList_ofList, utf8_eq_map visible]

/-- Only a question mark among visible characters has the low bits of a slash. -/
theorem count_slash_encodeQuery (visible : ∀ c ∈ query.compact.toList, IsGraphic c) :
    (encodeQuery query).toList.count '/' = (Base64.thirds query.compact.toList).count '?' := by
  have hascii : ∀ b ∈ query.compact.toList.map octetOf, b.toNat < 128 := by
    rw [List.forall_mem_map]
    intro c hc
    rw [toNat_octetOf (visible c hc)]
    exact (visible c hc).2.trans (by decide)
  have hquestion : ∀ c ∈ Base64.thirds query.compact.toList,
      decide ((octetOf c).toNat % 64 = 63) = true ↔ (c == '?') = true := by
    intro c hc
    obtain ⟨i, -, hi⟩ := Base64.mem_thirds_iff.mp hc
    have hgraphic := visible c (List.mem_of_getElem? hi)
    have hcode : '?'.toNat = 63 := rfl
    rw [decide_eq_true_iff, beq_iff_eq, toNat_octetOf hgraphic, ← Char.toNat_inj]
    unfold IsGraphic at hgraphic
    omega
  rw [toList_encodeQuery visible, Base64.count_slash_encode hascii, Base64.thirds_map,
    List.countP_map, List.count]
  exact List.countP_congr hquestion

/-- What stands between the slashes of a path, behind the first one. -/
def pathSegments (contract : String) (query : Json) : List (List Char) :=
  ((path contract query).toList.drop 1).splitOn '/'

theorem pathSegments_eq (address : IsAddress contract) (query : Json) :
    pathSegments contract query =
      ["cosmwasm", "wasm", "v1", "contract", contract, "smart"].map String.toList ++
        (encodeQuery query).toList.splitOn '/' := by
  have hcontract : '/' ∉ contract.toList := fun h => absurd (address '/' h) (by decide)
  have hpath : segments contract query = "cosmwasm/wasm/v1/contract".toList ++ '/' ::
      (contract.toList ++ '/' :: ("smart".toList ++ '/' :: (encodeQuery query).toList)) := by
    unfold segments encodeQuery
    simp
  have hfront : "cosmwasm/wasm/v1/contract".toList.splitOn '/' =
      ["cosmwasm", "wasm", "v1", "contract"].map String.toList := by decide +kernel
  rw [pathSegments, toList_path, List.drop_succ_cons, List.drop_zero, hpath,
    List.splitOn_append_cons_self, hfront, List.splitOn_append_cons_self_of_not_mem hcontract,
    List.splitOn_append_cons_self_of_not_mem (by decide)]
  simp only [List.map_cons, List.map_nil, List.cons_append, List.nil_append]

theorem length_pathSegments (address : IsAddress contract) (query : Json) :
    (pathSegments contract query).length = 7 + (encodeQuery query).toList.count '/' := by
  rw [pathSegments_eq address, List.length_append, List.length_map, length_splitOn]
  simp only [List.length_cons, List.length_nil]
  omega

/-- The path of a request for a price has the query as the last of seven segments, unless the query
is a simulation for whose denomination a question mark is the third of three characters: each of
these is a slash in base64 and cuts the query into one segment more. So a price ratio has its seven
segments always, and so has a simulation for a denomination without question marks. -/
theorem price_path_segments (base : String) {p : Pool} {n : Nat} {flip target : Bool}
    {q : PriceQuery} (address : IsAddress contract)
    (formatted : p.priceQuery n flip target = .ok q) :
    let e := Endpoint.read (trimBase base).toList
    let query := q.wire.toJson
    let route := ["cosmwasm", "wasm", "v1", "contract", contract, "smart"].map String.toList
    let cut := p.dialect = .simulation ∧ Coin.QuestionAtThird ⟨q.offered, n⟩
    (oversized? base contract query = none → refusal? e = none → url base contract query =
      .ok (String.ofList e.stem ++ path contract query ++ String.ofList e.tail)) ∧
    pathSegments contract query = route ++ (encodeQuery query).toList.splitOn '/' ∧
    (pathSegments contract query).length = 7 + (Base64.thirds q.text.toList).count '?' ∧
    (pathSegments contract query = route ++ [(encodeQuery query).toList] ↔ ¬ cut) ∧
    ((pathSegments contract query).length = 7 ↔ ¬ cut) ∧
    ('/' ∈ (encodeQuery query).toList ↔ cut) ∧
    (cut → '?' ∈ q.offered.toList) := by
  intro e query route cut
  have hsegments := pathSegments_eq address query
  have hlength := length_pathSegments address query
  have hcount : (encodeQuery query).toList.count '/' =
      (Base64.thirds q.text.toList).count '?' := count_slash_encodeQuery q.wire.graphic_text
  have hslash : '/' ∈ (encodeQuery query).toList ↔ cut := by
    refine Iff.trans ?_ (Pool.question_mem_thirds_iff formatted)
    rw [← List.count_pos_iff, ← List.count_pos_iff, hcount]
  have hseven : (pathSegments contract query).length = 7 ↔ ¬ cut := by
    rw [hlength, ← hslash, ← List.count_eq_zero]
    omega
  refine ⟨url_of_not_refused address, hsegments, hcount ▸ hlength, ?_, hseven, hslash,
    fun h => h.2.mem⟩
  constructor
  · intro hshape
    exact hseven.mp (by rw [hshape]; rfl)
  · intro hwhole
    rw [hsegments, List.splitOn_eq_singleton fun hmem => hwhole (hslash.mp hmem)]

end Lcd

/-- A pool that is asked by simulations, with a question mark in a denomination. -/
def Sample.questionPool : Pool := ⟨"juno1pool", "what?", "uusd", .simulation⟩

namespace Lcd

open Sample

/-- Counted from the three digits of the amount the question mark is the eighth character. -/
theorem price_path_segments_hundred :
    let q : PriceQuery := ⟨.simulation, .simulation ⟨"what?", 100⟩, "what?", "uusd"⟩
    IsAddress "juno1pool" ∧ questionPool.priceQuery 100 false false = .ok q ∧
      pathSegments "juno1pool" q.wire.toJson =
        ["cosmwasm", "wasm", "v1", "contract", "juno1pool", "smart"].map String.toList ++
          [(encodeQuery q.wire.toJson).toList] := by
  intro q
  have haddress : IsAddress "juno1pool" := by simp [IsAddress]
  have hformatted : questionPool.priceQuery 100 false false = .ok q := by decide +kernel
  obtain ⟨-, -, -, hshape, -⟩ := price_path_segments "https://lcd.example.org" haddress hformatted
  exact ⟨haddress, hformatted, hshape.mpr (by decide +kernel)⟩

/-- Counted from four digits it is the ninth, and the path has eight segments. -/
theorem price_path_cut :
    let q : PriceQuery := ⟨.simulation, .simulation ⟨"what?", 1000⟩, "what?", "uusd"⟩
    IsAddress "juno1pool" ∧ questionPool.priceQuery 1000 false false = .ok q ∧
      url "https://lcd.example.org" "juno1pool" q.wire.toJson =
        .ok ("https://lcd.example.org" ++ path "juno1pool" q.wire.toJson) ∧
      pathSegments "juno1pool" q.wire.toJson =
        ["cosmwasm", "wasm", "v1", "contract", "juno1pool", "smart",
          "eyJzaW11bGF0aW9uIjp7Im9mZmVyX2Fzc2V0Ijp7ImFtb3VudCI6IjEwMDAiLCJpbmZvIjp7Im5h" ++
            "dGl2ZV90b2tlbiI6eyJkZW5vbSI6IndoYXQ", "In19fX19"].map String.toList := by
  intro q
  have haddress : IsAddress "juno1pool" := by simp [IsAddress]
  have hfront : String.ofList (Endpoint.read (trimBase "https://lcd.example.org").toList).stem =
      "https://lcd.example.org" := by decide +kernel
  have hback : (Endpoint.read (trimBase "https://lcd.example.org").toList).tail = [] := by
    decide +kernel
  have hurl : url "https://lcd.example.org" "juno1pool" q.wire.toJson =
      .ok (String.ofList (Endpoint.read (trimBase "https://lcd.example.org").toList).stem ++
        path "juno1pool" q.wire.toJson ++
        String.ofList (Endpoint.read (trimBase "https://lcd.example.org").toList).tail) :=
    url_of_not_refused haddress (by decide +kernel) (by decide +kernel)
  -- the octets are those of the characters, so no text has to be put together and read again
  have hencoded := toList_encodeQuery q.wire.graphic_text
  have hchars : q.wire.toJson.compact.toList = Json.chars q.wire.toJson := q.wire.toList_text
  rw [hchars] at hencoded
  refine ⟨haddress, by decide +kernel, ?_, ?_⟩
  · rw [hurl, hfront, hback, String.ofList_nil, String.append_empty]
  · rw [pathSegments_eq haddress, hencoded]
    decide +kernel

end Lcd

end AllowanceProxy
