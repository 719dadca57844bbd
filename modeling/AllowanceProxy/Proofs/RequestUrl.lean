import AllowanceProxy.Proofs.Octets
import AllowanceProxy.Proofs.Segments

/-!
Requests over HTTP. Whatever the base URL is, the path of a request stands in it as it was written,
between a front and a fragment that the base alone decides; and from the path the contract and the
query can be read.
-/
namespace AllowanceProxy

open Text

namespace Endpoint

open Base64 (IsSymbol)

variable {e : Endpoint} {path rel s t : List Char} {query : Option (List Char)}

/-- Path and query are in the form in which they are requested. -/
structure Requested (e : Endpoint) (path : List Char) (query : Option (List Char)) : Prop where
  pathStands : ∀ c ∈ path, Stands pathDelimiters c
  undotted : e.IsRooted → Undotted path
  queryStands : ∀ q ∈ query, ∀ c ∈ q, Stands queryDelimiters c

theorem requested_withPath (e : Endpoint) (path : List Char) (query : Option (List Char)) :
    Requested (e.withPath path query) (e.withPath path query).path
      (e.withPath path query).query where
  pathStands _ := stands_of_mem_percentEncode stands_escapeMarks.1
  undotted rooted := by
    have hrooted : e.IsRooted := rooted
    unfold withPath
    rw [if_pos hrooted]
    exact (undotted_withoutDots path).percentEncode
  queryStands q hq c hc := by
    obtain ⟨q', -, rfl⟩ := Option.map_eq_some_iff.mp hq
    exact stands_of_mem_percentEncode stands_escapeMarks.2 hc

theorem exists_read (s : List Char) : ∃ (e : Endpoint) (path : List Char)
    (query : Option (List Char)), read s = e.withPath path query := by
  unfold read
  rcases splitScheme s with ⟨scheme, rest⟩
  rcases splitAuthority rest with ⟨authority, rest⟩
  rcases (cutAtLast? '@' authority).getD ([], authority) with ⟨userInfo, place⟩
  rcases splitPort place with ⟨host, port⟩
  exact ⟨_, _, _, rfl⟩

theorem requested_read (s : List Char) : Requested (read s) (read s).path (read s).query := by
  obtain ⟨e, path, query, hread⟩ := exists_read s
  rw [hread]
  exact requested_withPath e path query

/-- What is in that form already stays as it is. -/
theorem Requested.withPath (h : Requested e path query) :
    e.withPath path query = { e with path, query } := by
  have hpath : percentEncode pathDelimiters (if e.IsRooted then withoutDots path else path) =
      path := by
    have hdots : (if e.IsRooted then withoutDots path else path) = path := by
      split
      next hrooted => exact withoutDots_of_undotted (h.undotted hrooted)
      next => rfl
    rw [hdots, percentEncode_of_stands h.pathStands]
  have hquery : query.map (percentEncode queryDelimiters) = query := by
    cases query with
    | none => rfl
    | some q => rw [Option.map_some, percentEncode_of_stands (h.queryStands q rfl)]
  rw [Endpoint.withPath, hpath, hquery]

/-- No question mark stands in the path, so the query is told from it. -/
theorem Requested.cutAt (h : Requested e path query) :
    Text.cutAt '?' (path ++ queryText query) = (path, query) := by
  have hmark : '?' ∉ path := fun hmem => absurd (h.pathStands '?' hmem) (by decide)
  cases query with
  | none => rw [queryText, List.append_nil, cutAt_of_notMem hmark]
  | some q => rw [queryText, cutAt_append hmark]

def unslashed (s : List Char) : List Char := if s.getLast? = some '/' then s.dropLast else s

theorem unslashed_append_slash (s : List Char) :
    (if s.getLast? = some '/' then s else s ++ ['/']) = unslashed s ++ ['/'] := by
  unfold unslashed
  split
  next hlast => rw [List.dropLast_append_getLast? '/' hlast]
  next => rfl

theorem unslashed_append (more : t ≠ []) : unslashed (s ++ t) = s ++ unslashed t := by
  unfold unslashed
  rw [List.getLast?_append_of_ne_nil _ more, List.dropLast_append_of_ne_nil more]
  split <;> rfl

theorem unslashed_cons {c : Char} (h : c ≠ '/') : unslashed (c :: s) = c :: unslashed s := by
  cases s with
  | nil => simp [unslashed, h]
  | cons d s => exact unslashed_append (s := [c]) (List.cons_ne_nil d s)

theorem undotted_unslashed (h : Undotted s) : Undotted (unslashed s) := by
  unfold unslashed
  split
  next hlast =>
    rw [← List.dropLast_append_getLast? '/' hlast] at h
    exact (undotted_append_slash.mp h).1
  next => exact h

theorem mem_of_mem_unslashed {c : Char} (h : c ∈ unslashed s) : c ∈ s := by
  unfold unslashed at h
  split at h
  · exact (List.dropLast_sublist s).subset h
  · exact h

theorem visible_of_isAlphanum {c : Char} (h : c.isAlphanum) : 0x20 < c.toNat ∧ c.toNat < 0x7f := by
  delta Char.isAlphanum Char.isAlpha Char.isUpper Char.isLower Char.isDigit at h
  simp only [Bool.or_eq_true, Bool.and_eq_true, decide_eq_true_eq, UInt32.le_iff_toNat_le,
    ge_iff_le] at h
  have hcode : c.toNat = c.val.toNat := rfl
  have hupper : 'A'.val.toNat = 65 ∧ 'Z'.val.toNat = 90 := by decide
  have hlower : 'a'.val.toNat = 97 ∧ 'z'.val.toNat = 122 := by decide
  have hdigit : '0'.val.toNat = 48 ∧ '9'.val.toNat = 57 := by decide
  omega

/-- The characters of base64 are no delimiters, nor dots. -/
theorem stands_of_isSymbol {c : Char} (h : IsSymbol c) :
    Stands pathDelimiters c ∧ Stands queryDelimiters c ∧ c ∉ ['.', '?', '#'] := by
  have hapart : ∀ d ∈ ['.', '?', '#'] ++ pathDelimiters ++ queryDelimiters, ¬ IsSymbol d := by
    simp only [IsSymbol]
    exact List.all_iff_forall_prop.mp (by decide)
  have hnot : c ∉ ['.', '?', '#'] ++ pathDelimiters ++ queryDelimiters := fun hc => hapart c hc h
  have hvisible : 0x20 < c.toNat ∧ c.toNat < 0x7f := by
    rcases h with h | h
    · exact visible_of_isAlphanum h
    · have hmarks : ∀ d ∈ ['+', '/', '='], 0x20 < d.toNat ∧ d.toNat < 0x7f :=
        List.all_iff_forall_prop.mp (by decide)
      exact hmarks c h
  simp only [List.mem_append, not_or] at hnot
  exact ⟨⟨hvisible, hnot.1.2⟩, ⟨hvisible, hnot.2⟩, hnot.1.1⟩

/-- An empty path is requested as a slash. -/
theorem Requested.slash (h : Requested e e.path e.query) :
    Requested e (if e.path = [] then ['/'] else e.path) e.query := by
  split
  next =>
    exact ⟨List.forall_mem_singleton.mpr (by decide), fun _ => undotted_of_notMem (by decide),
      h.queryStands⟩
  next => exact h

/-- What stands in front of the path of a request. -/
def stem (e : Endpoint) : List Char :=
  (if e.scheme = [] then [] else e.scheme ++ [':']) ++
    (if e.authorityText = [] then [] else '/' :: '/' :: e.authorityText) ++ unslashed e.target

/-- What stands behind it. -/
def tail (e : Endpoint) : List Char :=
  match e.fragment with
  | some f => '#' :: f
  | none => []

theorem text_eq (e : Endpoint) :
    e.text = (if e.scheme = [] then [] else e.scheme ++ [':']) ++
      (if e.authorityText = [] then [] else '/' :: '/' :: e.authorityText) ++
      e.path ++ queryText e.query ++ e.tail := rfl

/-- The path of a request goes behind the path of the base, or behind its query if it has one. -/
theorem exists_target (h : Requested e e.path e.query) (symbols : ∀ c ∈ rel, IsSymbol c) :
    ∃ path query, unslashed e.target ++ '/' :: rel = path ++ queryText query ∧
      Requested e path query := by
  have hslash := h.slash
  have hsymbols : ∀ c ∈ '/' :: rel, IsSymbol c :=
    List.forall_mem_cons.mpr ⟨.inr (by decide), symbols⟩
  unfold target
  generalize (if e.path = [] then ['/'] else e.path) = p at hslash
  cases hquery : e.query with
  | none =>
    refine ⟨unslashed p ++ '/' :: rel, none, by simp [queryText], ?_, ?_, by simp⟩
    · refine List.forall_mem_append.mpr ⟨?_, fun c hc => (stands_of_isSymbol (hsymbols c hc)).1⟩
      exact fun c hc => hslash.pathStands c (mem_of_mem_unslashed hc)
    · intro hrooted
      have hplain : '.' ∉ rel := fun hmem => (stands_of_isSymbol (symbols '.' hmem)).2.2 (by simp)
      exact undotted_append_slash.mpr
        ⟨undotted_unslashed (hslash.undotted hrooted), undotted_of_notMem hplain⟩
  | some q =>
    refine ⟨p, some (unslashed q ++ '/' :: rel), ?_, hslash.pathStands, hslash.undotted, ?_⟩
    · simp only [queryText]
      rw [unslashed_append (List.cons_ne_nil _ _), unslashed_cons (by decide)]
      simp
    · rintro q' hq' c hc
      obtain rfl := Option.some.inj hq'
      rcases List.mem_append.mp hc with hc | hc
      · exact h.queryStands q hquery c (mem_of_mem_unslashed hc)
      · exact (stands_of_isSymbol (hsymbols c hc)).2.1

/-- What is put below the base is left as it is, so that its parts are those that are joined. -/
theorem exists_below (h : Requested e e.path e.query) (symbols : ∀ c ∈ rel, IsSymbol c)
    (start : rel.head? ≠ some '/') :
    ∃ path query, e.joined ('/' :: rel) = (path, query) ∧
      e.below ('/' :: rel) = { e with path, query } ∧
      unslashed e.target ++ '/' :: rel = path ++ queryText query := by
  obtain ⟨path, query, htarget, hrequested⟩ := exists_target h symbols
  have hrel : ('/' :: rel).dropWhile (· = '/') = rel := by
    cases rel with
    | nil => rfl
    | cons c rel =>
      have hc : c ≠ '/' := by simpa using start
      simp [hc]
  have hjoined : e.joined ('/' :: rel) = (path, query) := by
    unfold joined
    simp only
    rw [unslashed_append_slash, hrel, List.append_assoc, List.singleton_append, htarget,
      hrequested.cutAt]
  refine ⟨path, query, hjoined, ?_, htarget⟩
  rw [below, hjoined]
  exact hrequested.withPath

theorem text_below (h : Requested e e.path e.query) (symbols : ∀ c ∈ rel, IsSymbol c)
    (start : rel.head? ≠ some '/') :
    (e.below ('/' :: rel)).text = e.stem ++ '/' :: rel ++ e.tail := by
  obtain ⟨path, query, -, hbelow, htarget⟩ := exists_below h symbols start
  rw [hbelow, text_eq, stem]
  simp only [List.append_assoc]
  rw [← List.append_assoc path, ← htarget]
  simp only [List.append_assoc, List.cons_append]
  rfl

/-- No part of a URL is longer than the URL. -/
theorem length_le_of_mem_parts (e : Endpoint) :
    ∀ p ∈ e.parts e.path e.query, p.2.length ≤ e.text.length := by
  have hscheme : e.scheme.length ≤ (if e.scheme = [] then [] else e.scheme ++ [':']).length := by
    split <;> simp [*]
  have hauthority : e.authorityText.length ≤
      (if e.authorityText = [] then [] else '/' :: '/' :: e.authorityText).length := by
    split
    next hnil => rw [hnil]
    next =>
      simp only [List.length_cons]
      omega
  have hquery : (e.query.getD []).length ≤ (queryText e.query).length := by
    cases e.query <;> simp [queryText]
  have hfragment : (e.fragment.getD []).length ≤ e.tail.length := by
    unfold tail
    cases e.fragment <;> simp
  rw [text_eq]
  simp only [List.length_append]
  unfold parts
  simp only [List.forall_mem_cons, List.not_mem_nil, false_imp_iff, implies_true, and_true]
  omega

theorem length_le_of_mem_parts_below (h : Requested e e.path e.query)
    (symbols : ∀ c ∈ rel, IsSymbol c) (start : rel.head? ≠ some '/') :
    ∀ p ∈ e.parts (e.joined ('/' :: rel)).1 (e.joined ('/' :: rel)).2,
      p.2.length ≤ (e.below ('/' :: rel)).text.length := by
  obtain ⟨path, query, hjoined, hbelow, -⟩ := exists_below h symbols start
  rw [hjoined, hbelow]
  exact length_le_of_mem_parts { e with path, query }

/-- A path by itself is read as it is. -/
theorem target_read (symbols : ∀ c ∈ rel, IsSymbol c) (start : rel.head? ≠ some '/') :
    (read ('/' :: rel)).target = '/' :: rel := by
  have hsymbols : ∀ c ∈ '/' :: rel, IsSymbol c :=
    List.forall_mem_cons.mpr ⟨.inr (by decide), symbols⟩
  have hapart (mark : Char) (hmark : mark ∈ ['.', '?', '#']) : mark ∉ '/' :: rel :=
    fun hmem => (stands_of_isSymbol (hsymbols mark hmem)).2.2 hmark
  have hscheme : splitScheme ('/' :: rel) = ([], '/' :: rel) := rfl
  have hauthority : splitAuthority ('/' :: rel) = ([], '/' :: rel) := by
    cases rel with
    | nil => rfl
    | cons c rel =>
      have hc : c ≠ '/' := by simpa using start
      simp [splitAuthority, hc]
  have hplace : (cutAtLast? '@' []).getD ([], []) = ([], []) := rfl
  have hhost : splitPort [] = ([], []) := rfl
  unfold read
  simp only [hscheme, hauthority, hplace, hhost, cutAt_of_notMem (hapart '#' (by simp)),
    cutAt_of_notMem (hapart '?' (by simp))]
  have hrequested (e : Endpoint) : Requested e ('/' :: rel) none :=
    ⟨fun c hc => (stands_of_isSymbol (hsymbols c hc)).1,
      fun _ => undotted_of_notMem (hapart '.' (by simp)), by simp⟩
  rw [(hrequested _).withPath]
  simp [target, queryText]

/-- A base that is written as it is requested stands in front as it is. -/
theorem stem_eq_of_text (written : e.text = s) (noQuery : e.query = none)
    (noFragment : e.fragment = none) (trimmed : s.getLast? ≠ some '/') : e.stem = s := by
  have htext : e.text = (if e.scheme = [] then [] else e.scheme ++ [':']) ++
      (if e.authorityText = [] then [] else '/' :: '/' :: e.authorityText) ++ e.path := by
    simp [text_eq, tail, noQuery, noFragment, queryText]
  have htarget : unslashed e.target = e.path := by
    unfold target
    rw [noQuery, queryText, List.append_nil]
    by_cases hpath : e.path = []
    · rw [hpath]
      rfl
    · rw [← written, htext, List.getLast?_append_of_ne_nil _ hpath] at trimmed
      rw [if_neg hpath, unslashed, if_neg trimmed]
  rw [stem, htarget, ← htext, written]

end Endpoint

namespace Lcd

def IsAddress (contract : String) : Prop := ∀ c ∈ contract.toList, c.isAlphanum

/-- A query is an object without fractions and lone surrogates, nested at most 200 deep. -/
def IsQuery (query : Json) : Prop := (∃ ms, query = .obj ms) ∧ Json.Plain 200 query

variable {base contract contract' : String} {query query' : Json}

/-- The path of a request behind its first slash. -/
def segments (contract : String) (query : Json) : List Char :=
  "cosmwasm/wasm/v1/contract/".toList ++
    (contract.toList ++ ("/smart/".toList ++ Base64.encode (utf8 query.compact)))

theorem toList_path (contract : String) (query : Json) :
    (path contract query).toList = '/' :: segments contract query := by
  unfold path encodeQuery segments
  simp

theorem head?_segments (contract : String) (query : Json) :
    (segments contract query).head? ≠ some '/' := by
  unfold segments
  simp

theorem isSymbol_of_mem_segments (address : IsAddress contract) (query : Json) :
    ∀ c ∈ segments contract query, Base64.IsSymbol c := by
  have hfirst : ∀ c ∈ "cosmwasm/wasm/v1/contract/".toList,
      c.isAlphanum ∨ c ∈ ['+', '/', '='] := by simp
  have hlast : ∀ c ∈ "/smart/".toList, c.isAlphanum ∨ c ∈ ['+', '/', '='] := by simp
  refine List.forall_mem_append.mpr ⟨hfirst, List.forall_mem_append.mpr ⟨?_, ?_⟩⟩
  · exact fun c hc => .inl (address c hc)
  · exact List.forall_mem_append.mpr ⟨hlast, Base64.isSymbol_of_mem_encode⟩

theorem refusal?_below (e : Endpoint) (relative : List Char) :
    refusal? (e.below relative) = refusal? e := rfl

theorem relative_eq (address : IsAddress contract) (query : Json) :
    relative contract query = '/' :: segments contract query := by
  rw [relative, toList_path, Endpoint.target_read (isSymbol_of_mem_segments address query)
    (head?_segments contract query)]

/-- A request goes to its path below the base. -/
theorem exists_endpoint (address : IsAddress contract) (base : String) (query : Json) :
    let e := Endpoint.read (trimBase base).toList
    refusal? (endpoint base contract query) = refusal? e ∧
      String.ofList (endpoint base contract query).text =
        String.ofList e.stem ++ path contract query ++ String.ofList e.tail := by
  intro e
  have hsymbols := isSymbol_of_mem_segments address query
  have hstart := head?_segments contract query
  have hendpoint : endpoint base contract query = e.below ('/' :: segments contract query) := by
    rw [endpoint, relative_eq address]
  have htext : (e.below ('/' :: segments contract query)).text =
      e.stem ++ (path contract query).toList ++ e.tail := by
    rw [toList_path]
    exact Endpoint.text_below (Endpoint.requested_read (trimBase base).toList) hsymbols hstart
  rw [hendpoint, htext, String.ofList_append, String.ofList_append, String.ofList_toList]
  exact ⟨refusal?_below e _, rfl⟩

theorem url_of_oversized {err : Error} (h : oversized? base contract query = some err) :
    url base contract query = .error err := by
  rw [url, h]

theorem url_of_refused {cause : String} (address : IsAddress contract)
    (fits : oversized? base contract query = none)
    (refused : refusal? (Endpoint.read (trimBase base).toList) = some cause) :
    url base contract query = .error (failed cause) := by
  have hrefusal := (exists_endpoint address base query).1.trans refused
  rw [url, fits]
  simp only [hrefusal]

theorem url_of_not_refused (address : IsAddress contract)
    (fits : oversized? base contract query = none)
    (made : refusal? (Endpoint.read (trimBase base).toList) = none) :
    url base contract query = .ok (String.ofList (Endpoint.read (trimBase base).toList).stem ++
      path contract query ++ String.ofList (Endpoint.read (trimBase base).toList).tail) := by
  obtain ⟨hsame, htext⟩ := exists_endpoint address base query
  have hrefusal := hsame.trans made
  rw [url, fits]
  simp only [hrefusal, htext]

/-- A URL that is requested is the one that stands below the base. -/
theorem eq_of_url_eq_ok {u : String} (address : IsAddress contract)
    (h : url base contract query = .ok u) :
    u = String.ofList (Endpoint.read (trimBase base).toList).stem ++ path contract query ++
      String.ofList (Endpoint.read (trimBase base).toList).tail := by
  cases hfits : oversized? base contract query with
  | some err =>
    rw [url_of_oversized hfits] at h
    cases h
  | none =>
    cases hrefusal : refusal? (Endpoint.read (trimBase base).toList) with
    | some cause =>
      rw [url_of_refused address hfits hrefusal] at h
      cases h
    | none =>
      rw [url_of_not_refused address hfits hrefusal] at h
      exact (Except.ok.inj h).symm

/-- Nothing is too long for the client if neither the base nor the URL that is requested is. -/
theorem oversized?_eq_none (address : IsAddress contract)
    (baseFits : (trimBase base).length ≤ maxUrlLength)
    (urlFits : (String.ofList (Endpoint.read (trimBase base).toList).stem ++ path contract query ++
      String.ofList (Endpoint.read (trimBase base).toList).tail).length ≤ maxUrlLength) :
    oversized? base contract query = none := by
  have hsymbols := isSymbol_of_mem_segments address query
  have hstart := head?_segments contract query
  have hrequested := Endpoint.requested_read (trimBase base).toList
  rw [← (exists_endpoint address base query).2, String.length_ofList, endpoint,
    relative_eq address] at urlFits
  have hpath : (path contract query).length ≤ maxUrlLength := by
    refine le_trans ?_ urlFits
    rw [Endpoint.text_below hrequested hsymbols hstart, ← toList_path, List.length_append,
      List.length_append, String.length_toList]
    omega
  rw [oversized?, if_neg (by omega)]
  simp only [relative_eq address, Option.map_eq_none_iff, List.find?_eq_none, decide_eq_true_eq]
  intro p hp
  have hpart := Endpoint.length_le_of_mem_parts_below hrequested hsymbols hstart p hp
  omega

theorem getLast?_trimBase (base : String) : (trimBase base).toList.getLast? ≠ some '/' := by
  rw [trimBase, String.toList_ofList, List.getLast?_reverse]
  intro h
  have hfirst := List.head?_dropWhile_not (fun c => decide (c = '/')) base.toList.reverse
  rw [h] at hfirst
  simp at hfirst

/-- The contract ends at its first slash, and the query is all that follows. -/
theorem path_inj (address : IsAddress contract) (address' : IsAddress contract')
    (same : path contract query = path contract' query') :
    contract = contract' ∧ encodeQuery query = encodeQuery query' := by
  have hapart {c : String} (hc : IsAddress c) : '/' ∉ c.toList :=
    fun hmem => absurd (hc '/' hmem) (by decide)
  have hslash (cs : List Char) : "/smart/".toList ++ cs = '/' :: ("smart/".toList ++ cs) := by simp
  have hsegments := congrArg String.toList same
  rw [toList_path, toList_path, List.cons_inj_right] at hsegments
  have hrest := List.append_cancel_left hsegments
  rw [hslash, hslash] at hrest
  have hcut := congrArg (cutAt '/') hrest
  rw [cutAt_append (hapart address), cutAt_append (hapart address'), Prod.mk.injEq,
    Option.some.injEq, List.append_right_inj] at hcut
  exact ⟨String.toList_inj.mp hcut.1, by rw [encodeQuery, encodeQuery, hcut.2]⟩

theorem decode?_encodeQuery (query : Json) :
    Base64.decode? (encodeQuery query).toList = some (utf8 query.compact) := by
  rw [encodeQuery, String.toList_ofList, Base64.decode?_encode]

section

variable [Json.Nesting]

theorem IsQuery.plain (h : IsQuery query) : Json.Plain Json.Nesting.depth query :=
  h.2.mono Json.Nesting.le_depth

theorem IsQuery.readOctets (h : IsQuery query) :
    Json.readOctets (utf8 query.compact) = .ok query := readOctets_compact h.plain

theorem IsQuery.eq_of_encodeQuery (h : IsQuery query) (h' : IsQuery query')
    (same : encodeQuery query = encodeQuery query') : query = query' := by
  have hoctets := decode?_encodeQuery query
  rw [same, decode?_encodeQuery, Option.some.injEq] at hoctets
  have hread := h.readOctets
  rw [← hoctets, h'.readOctets] at hread
  exact (Except.ok.inj hread).symm

/-- The octets of a query are ASCII, and they are its compact form. -/
theorem IsQuery.octets (h : IsQuery query) : (∀ b ∈ utf8 query.compact, b < 128) ∧
    (utf8 query.compact).map (fun b => Char.ofNat b.toNat) = query.compact.toList := by
  have hvisible : ∀ c ∈ query.compact.toList, IsGraphic c := by
    have hchars : query.compact.toList = Json.chars query := String.toList_ofList
    rw [hchars]
    exact Json.graphic_chars h.plain
  rw [utf8_eq_map hvisible]
  constructor
  · rw [List.forall_mem_map]
    intro c hc
    have hmost := (hvisible c hc).2
    rw [UInt8.lt_iff_toNat_lt, toNat_octetOf (hvisible c hc)]
    exact Nat.lt_trans hmost (by decide)
  · have hback : ∀ c ∈ query.compact.toList, Char.ofNat (octetOf c).toNat = c := by
      intro c hc
      rw [toNat_octetOf (hvisible c hc), Char.ofNat_toNat]
    rw [List.map_map]
    exact (List.map_congr_left hback).trans (List.map_id _)

/-- For every base the request goes to one path, in which the contract and, in base64, the octets
of the compact query stand; these are ASCII and are read as the query. What stands in front and
behind the base alone decides: the base itself in front, if it is written as it is requested and has
neither a query nor a fragment. So no two contracts and queries share a URL. The client takes the
URL for its length if it takes the base and the URL itself. -/
theorem request_determines_query (base : String) (address : IsAddress contract)
    (plain : IsQuery query) :
    let e := Endpoint.read (trimBase base).toList
    let front := String.ofList e.stem
    let back := String.ofList e.tail
    let requested := front ++
      ("/cosmwasm/wasm/v1/contract/" ++ contract ++ "/smart/" ++ encodeQuery query) ++ back
    (∀ err, oversized? base contract query = some err → url base contract query = .error err) ∧
    (oversized? base contract query = none →
      (∀ cause, refusal? e = some cause → url base contract query = .error (failed cause)) ∧
      (refusal? e = none → url base contract query = .ok requested)) ∧
    ((trimBase base).length ≤ maxUrlLength → requested.length ≤ maxUrlLength →
      oversized? base contract query = none) ∧
    (e.text = (trimBase base).toList → e.query = none → e.fragment = none →
      front = trimBase base ∧ back = "") ∧
    (∃ octets, Base64.decode? (encodeQuery query).toList = some octets ∧
      (∀ b ∈ octets, b < 128) ∧
      octets.map (fun b => Char.ofNat b.toNat) = query.compact.toList ∧
      Json.readOctets octets = .ok query) ∧
    ∀ contract' query' u, IsAddress contract' → IsQuery query' →
      url base contract query = .ok u → url base contract' query' = .ok u →
      contract = contract' ∧ query = query' := by
  intro e front back requested
  refine ⟨fun err => url_of_oversized, fun fits => ⟨fun cause => url_of_refused address fits,
    url_of_not_refused address fits⟩, oversized?_eq_none address, ?_,
    ⟨_, decode?_encodeQuery query, plain.octets.1, plain.octets.2, plain.readOctets⟩, ?_⟩
  · intro hwritten hquery hfragment
    have hstem := Endpoint.stem_eq_of_text hwritten hquery hfragment (getLast?_trimBase base)
    have htail : e.tail = [] := by rw [Endpoint.tail, hfragment]
    unfold front back
    rw [hstem, htail, String.ofList_toList]
    exact ⟨rfl, rfl⟩
  · intro contract' query' u address' plain' hu hu'
    have hsame := (eq_of_url_eq_ok address hu).symm.trans (eq_of_url_eq_ok address' hu')
    rw [String.append_left_inj, String.append_right_inj] at hsame
    obtain ⟨rfl, hquery⟩ := path_inj address address' hsame
    exact ⟨rfl, plain.eq_of_encodeQuery plain' hquery⟩

end

theorem request_determines_query_pool :
    let query : Json := .obj [("pool", .obj [])]
    IsAddress "juno1pool" ∧ IsQuery query ∧ url "https://lcd.example.org/" "juno1pool" query =
      .ok ("https://lcd.example.org/cosmwasm/wasm/v1/contract/juno1pool/smart/" ++
        "eyJwb29sIjp7fX0=") := by
  intro query
  have haddress : IsAddress "juno1pool" := by simp [IsAddress]
  have hempty : Json.Plain 199 (.obj []) := .obj (by simp) (by simp) (by simp)
  have hquery : IsQuery query := ⟨⟨_, rfl⟩, .obj (by simp) (by simp) (by simp [hempty])⟩
  obtain ⟨-, hmade, -, hwritten, -⟩ :=
    request_determines_query "https://lcd.example.org/" haddress hquery
  obtain ⟨hfront, hback⟩ := hwritten (by decide +kernel) (by decide +kernel) (by decide +kernel)
  have htrimmed : trimBase "https://lcd.example.org/" = "https://lcd.example.org" := by
    decide +kernel
  have hencoded : encodeQuery query = "eyJwb29sIjp7fX0=" := by decide +kernel
  refine ⟨haddress, hquery, ?_⟩
  rw [(hmade (by decide +kernel)).2 (by decide +kernel), hfront, hback, htrimmed, hencoded]
  decide +kernel

end Lcd

end AllowanceProxy
