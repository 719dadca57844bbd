import AllowanceProxy.Audit.Console
import AllowanceProxy.Proofs.Segments
import Mathlib.Data.List.Chain

/-!
Texts that markup can be read in. A text is shown if no tag in it closes a style, and so is one in
which a style stands around such a text: whatever the tags and backslashes within leave open, the
style is still open at its own end, unless that end was made a text.
-/
namespace AllowanceProxy.Audit

open Text

namespace Markup

variable {s : Styling} {styles : List Style} {ps qs : List Piece} {cs name u v rest : List Char}
  {position skipped slashes : Nat}

/-- No slash stands behind an opening bracket, so that no tag in the text closes a style. -/
def ClosesNothing (cs : List Char) : Prop := cs.IsChain fun a b => ¬ (a = '[' ∧ b = '/')

instance (cs : List Char) : Decidable (ClosesNothing cs) :=
  inferInstanceAs (Decidable (List.IsChain _ cs))

namespace ClosesNothing

theorem head?_ne (h : ClosesNothing ('[' :: cs)) : cs.head? ≠ some '/' := by
  intro hslash
  exact (List.isChain_cons.mp h).1 '/' hslash ⟨rfl, rfl⟩

theorem of_notMem (h : '[' ∉ cs) : ClosesNothing cs := by
  induction cs with
  | nil => exact List.isChain_nil
  | cons c cs ih =>
    obtain ⟨hc, hcs⟩ := not_or.mp (List.mem_cons.not.mp h)
    exact List.isChain_cons.mpr ⟨fun _ _ hopen => hc hopen.1.symm, ih hcs⟩

theorem append_of_getLast? (hu : ClosesNothing u) (hv : ClosesNothing v)
    (last : u.getLast? ≠ some '[') : ClosesNothing (u ++ v) := by
  refine List.isChain_append.mpr ⟨hu, hv, ?_⟩
  rintro a ha b - ⟨rfl, -⟩
  exact last ha

theorem append_of_head? (hu : ClosesNothing u) (hv : ClosesNothing v)
    (first : v.head? ≠ some '/') : ClosesNothing (u ++ v) := by
  refine List.isChain_append.mpr ⟨hu, hv, ?_⟩
  rintro a - b hb ⟨-, rfl⟩
  exact first hb

end ClosesNothing

/-- The piece closes no style. -/
def Piece.Opens : Piece → Prop
  | .text _ => True
  | .tag _ cs => cs.head? ≠ some '/'

section Scan

theorem takeWhile_append_bracket (bracket : ∀ c ∈ rest.head?, c = '[') :
    (u ++ rest).takeWhile (fun x => !isBracket x) = u.takeWhile fun x => !isBracket x := by
  have hnone : rest.takeWhile (fun x => !isBracket x) = [] := by
    cases rest with
    | nil => rfl
    | cons c rest =>
      obtain rfl := bracket c rfl
      rfl
  rw [List.takeWhile_append, hnone, List.append_nil]
  split
  next hall => exact ((List.takeWhile_sublist _).eq_of_length hall).symm
  next => rfl

/-- A tag that is read in front of another bracket stands in front of it as a whole. -/
theorem tagAfter?_append {tag : List Char} (bracket : ∀ c ∈ rest.head?, c = '[')
    (h : tagAfter? (u ++ rest) = some tag) : tag.length + 1 ≤ u.length ∧ tag.head? = u.head? := by
  cases u with
  | nil =>
    cases rest with
    | nil => cases h
    | cons c rest =>
      obtain rfl := bracket c rfl
      simp [tagAfter?, opensTag] at h
  | cons c u =>
    rw [List.cons_append, tagAfter?, takeWhile_append_bracket bracket] at h
    split at h
    next hfound =>
      obtain rfl := Option.some.inj h
      have hle := (List.takeWhile_sublist (fun x => !isBracket x) (l := u)).length_le
      have hne : (u.takeWhile fun x => !isBracket x).length ≠ u.length := by
        intro hall
        simp only [hall, List.drop_left, Bool.and_eq_true, decide_eq_true_eq] at hfound
        exact absurd (bracket _ hfound.2) (by decide)
      refine ⟨?_, rfl⟩
      simp only [List.length_cons]
      omega
    next => cases h

/-- The pieces go on to those of the rest, and up to there no style is closed. -/
def Reaches (rest : List Char) (qs : List Piece) : Prop :=
  ∃ ps position slashes, (∀ p ∈ ps, p.Opens) ∧ qs = ps ++ scan position 0 slashes rest

theorem Reaches.cons {p : Piece} (h : Reaches rest qs) (opens : p.Opens) :
    Reaches rest (p :: qs) := by
  obtain ⟨ps, position, slashes, hps, rfl⟩ := h
  exact ⟨p :: ps, position, slashes, List.forall_mem_cons.mpr ⟨opens, hps⟩, rfl⟩

/-- Whatever was read before, in front of a bracket or of the end no tag is being read any more. The
induction is on the text, for any number of its characters that belong to a tag read before. -/
theorem reaches_scan (rest : List Char) (bracket : ∀ c ∈ rest.head?, c = '[')
    (closesNothing : ClosesNothing u) (position slashes : Nat) (room : skipped ≤ u.length) :
    Reaches rest (scan position skipped slashes (u ++ rest)) := by
  induction u generalizing position skipped slashes with
  | nil =>
    obtain rfl := Nat.le_zero.mp room
    exact ⟨[], position, slashes, by simp, rfl⟩
  | cons c u ih =>
    have hrest {skipped : Nat} (slashes : Nat) (room : skipped ≤ u.length) :=
      ih (List.IsChain.tail closesNothing) (position + 1) slashes room
    cases skipped with
    | succ skipped => exact hrest slashes (Nat.le_of_succ_le_succ room)
    | zero =>
      rw [List.cons_append, scan]
      split
      next => exact hrest (slashes + 1) (Nat.zero_le _)
      next =>
        split
        next hopen =>
          subst hopen
          split
          next => exact (hrest 0 (Nat.zero_le _)).cons trivial
          next tag htag =>
            obtain ⟨hfits, hhead⟩ := tagAfter?_append bracket htag
            refine ((hrest 0 hfits).cons ?_).cons trivial
            split
            next =>
              intro hslash
              exact closesNothing.head?_ne (hhead.symm.trans hslash)
            next => trivial
        next => exact (hrest 0 (Nat.zero_le _)).cons trivial

theorem scan_skipped (position slashes : Nat) (u rest : List Char) :
    scan position u.length slashes (u ++ rest) = scan (position + u.length) 0 slashes rest := by
  induction u generalizing position with
  | nil => rfl
  | cons c u ih =>
    rw [List.length_cons, List.cons_append, scan, ih, Nat.add_assoc, Nat.add_comm 1]

/-- A character that stands for itself wherever it is. -/
def isPlain (c : Char) : Bool := c ≠ '[' && c ≠ '\\'

theorem scan_plain (position : Nat) (plain : u.all isPlain = true) (rest : List Char) :
    scan position 0 0 (u ++ rest) =
      u.map (fun c => .text [c]) ++ scan (position + u.length) 0 0 rest := by
  induction u generalizing position with
  | nil => rfl
  | cons c u ih =>
    obtain ⟨⟨hbracket, hslash⟩, hu⟩ : (c ≠ '[' ∧ c ≠ '\\') ∧ u.all isPlain = true := by
      simpa [isPlain] using plain
    rw [List.cons_append, scan, if_neg hslash, if_neg hbracket, ih (position + 1) hu,
      List.length_cons, Nat.add_assoc, Nat.add_comm 1]
    rfl

theorem scan_tag (position slashes : Nat) {c : Char} (opens : opensTag c = true)
    (whole : ∀ x ∈ u, isBracket x = false) (rest : List Char) :
    scan position 0 slashes ('[' :: c :: (u ++ ']' :: rest)) =
      .text (backslashes (slashes / 2)) ::
        (if slashes % 2 = 0 then .tag position (c :: u) else .text ('[' :: (c :: u) ++ [']'])) ::
        scan (position + u.length + 3) 0 0 rest := by
  have hbody : (u ++ ']' :: rest).takeWhile (fun x => !isBracket x) = u := by
    rw [List.takeWhile_append_of_pos fun x hx => by rw [whole x hx]; rfl]
    simp [isBracket]
  have htag : tagAfter? (c :: (u ++ ']' :: rest)) = some (c :: u) := by
    rw [tagAfter?, hbody, List.drop_left, opens]
    rfl
  have hskipped : scan (position + 1) (u.length + 2) 0 (c :: (u ++ ']' :: rest)) =
      scan (position + u.length + 3) 0 0 rest := by
    have hall := scan_skipped (position + 1) 0 (c :: (u ++ [']'])) rest
    have hlength : (c :: (u ++ [']'])).length = u.length + 2 := by simp
    rw [hlength, List.cons_append, List.append_assoc, List.singleton_append] at hall
    rw [hall]
    congr 1
    omega
  rw [scan, if_neg (by decide), if_pos rfl, htag]
  simp only [List.length_cons, hskipped]

end Scan

section Render

/-- The pieces can be shown when the styles are open. -/
def Renders (s : Styling) (styles : List Style) (ps : List Piece) : Prop :=
  ∃ cs, render s styles ps = .ok cs

theorem Renders.text (h : Renders s styles ps) (cs : List Char) :
    Renders s styles (.text cs :: ps) := by
  obtain ⟨out, hout⟩ := h
  exact ⟨cs ++ out, by rw [render, hout]; rfl⟩

theorem Renders.tag {styles' : List Style} {tag : List Char}
    (after : afterTag s position tag styles = .ok styles') (h : Renders s styles' ps) :
    Renders s styles (.tag position tag :: ps) := by
  obtain ⟨out, hout⟩ := h
  exact ⟨out, by rw [render, after]; exact hout⟩

theorem exists_afterTag {tag : List Char} (opens : tag.head? ≠ some '/') (position : Nat)
    (styles : List Style) : ∃ style, afterTag s position tag styles = .ok (style :: styles) := by
  unfold afterTag
  simp only
  split
  next name hname =>
    rw [cutAt_fst] at hname
    cases tag with
    | nil => cases hname
    | cons c tag =>
      rw [List.takeWhile_cons] at hname
      split at hname
      next =>
        obtain rfl := (List.cons.inj hname).1
        exact absurd rfl opens
      next => cases hname
  next => exact ⟨_, rfl⟩

/-- Behind pieces that close nothing at least those styles are open that were open before. -/
theorem renders_append (opens : ∀ p ∈ ps, p.Opens)
    (rest : ∀ more, Renders s (more ++ styles) qs) : Renders s styles (ps ++ qs) := by
  induction ps generalizing styles with
  | nil => exact rest []
  | cons p ps ih =>
    obtain ⟨hp, hps⟩ := List.forall_mem_cons.mp opens
    cases p with
    | text cs => exact (ih hps rest).text cs
    | tag position tag =>
      obtain ⟨style, hafter⟩ := exists_afterTag (s := s) hp position styles
      refine .tag hafter (ih hps fun more => ?_)
      rw [List.append_cons]
      exact rest (more ++ [style])

theorem renders_of_closesNothing (h : ClosesNothing cs) (position : Nat) (styles : List Style) :
    Renders s styles (scan position 0 0 cs) := by
  obtain ⟨ps, position', slashes, hps, hscan⟩ :=
    reaches_scan [] (by simp) h position 0 (Nat.zero_le _)
  rw [List.append_nil] at hscan
  rw [hscan]
  exact renders_append hps fun more => ⟨backslashes slashes ++ [], rfl⟩

end Render

section Styled

/-- A name that a style goes by in tags, and no handler. -/
def IsStyle (name : List Char) : Prop :=
  name.head?.any (fun c => opensTag c && c ≠ '/') = true ∧
    name.all (fun c => !isBracket c && c ≠ '=' && c ≠ '@') = true ∧ trimBy isSpacing name = name

instance (name : List Char) : Decidable (IsStyle name) := inferInstanceAs (Decidable (_ ∧ _ ∧ _))

theorem IsStyle.exists_cons (h : IsStyle name) :
    ∃ c u, name = c :: u ∧ opensTag c = true ∧ c ≠ '/' := by
  cases name with
  | nil => cases h.1
  | cons c u => exact ⟨c, u, rfl, by simpa using h.1⟩

theorem IsStyle.plain (h : IsStyle name) :
    ∀ c ∈ name, isBracket c = false ∧ c ≠ '=' ∧ c ≠ '@' := by
  simpa [and_assoc] using h.2.1

theorem afterTag_style (style : IsStyle name) (position : Nat) (styles : List Style) :
    afterTag s position name styles = .ok (⟨s.normal name, none⟩ :: styles) := by
  obtain ⟨c, u, rfl, -, hslash⟩ := style.exists_cons
  have hplain := style.plain
  have hcut : cutAt '=' (c :: u) = (c :: u, none) :=
    cutAt_of_notMem fun hmem => (hplain _ hmem).2.1 rfl
  unfold afterTag
  rw [hcut]
  simp only
  split
  next name hname => exact absurd (List.cons.inj hname).1 hslash
  next => rfl

theorem exists_afterTag_end (style : IsStyle name)
    (isOpen : ∃ x ∈ styles, x.name = s.normal name) (position : Nat) :
    ∃ styles', afterTag s position ('/' :: name) styles = .ok styles' := by
  obtain ⟨c, u, rfl, -, -⟩ := style.exists_cons
  have hplain := style.plain
  have htrim := style.2.2
  have hcut : cutAt '=' ('/' :: c :: u) = ('/' :: c :: u, none) := by
    refine cutAt_of_notMem fun hmem => ?_
    rcases List.mem_cons.mp hmem with hfirst | hname
    · exact absurd hfirst (by decide)
    · exact (hplain _ hname).2.1 rfl
  unfold afterTag
  rw [hcut]
  simp only [htrim, reduceCtorEq, if_false]
  split
  next hnone =>
    obtain ⟨x, hx, hname⟩ := isOpen
    have hclosed := List.find?_eq_none.mp hnone x hx
    simp [hname] at hclosed
  next found hfound =>
    have hname : found.name = s.normal (c :: u) := by simpa using List.find?_some hfound
    unfold afterEnd
    split
    next tail d ds hhandler _ =>
      -- a handler's name keeps its sign in the normal form, which here is that of a style
      have hat := s.at_mem_of_mem_normal (c :: u) (hname ▸ hhandler ▸ List.mem_cons_self)
      exact absurd rfl (hplain _ hat).2.2
    next => exact ⟨_, rfl⟩

/-- Where the end of an open style stands, it is read as such, or it was made a text. -/
theorem renders_end (style : IsStyle name) (isOpen : ∃ x ∈ styles, x.name = s.normal name)
    (behind : ClosesNothing cs) (position slashes : Nat) :
    Renders s styles (scan position 0 slashes ('[' :: '/' :: (name ++ ']' :: cs))) := by
  rw [scan_tag position slashes (by decide) fun x hx => (style.plain x hx).1]
  refine Renders.text ?_ _
  split
  next =>
    obtain ⟨styles', hafter⟩ := exists_afterTag_end style isOpen position
    exact .tag hafter (renders_of_closesNothing behind _ styles')
  next => exact (renders_of_closesNothing behind _ styles).text _

/-- A style around a text that closes nothing, with plain characters in front of it and such a text
behind it. -/
theorem renders_styled {front inner : List Char} (plain : front.all isPlain = true)
    (style : IsStyle name) (within : ClosesNothing inner) (behind : ClosesNothing cs)
    (styles : List Style) :
    Renders s styles (scan 0 0 0
      (front ++ '[' :: (name ++ ']' :: (inner ++ '[' :: '/' :: (name ++ ']' :: cs))))) := by
  obtain ⟨c, u, rfl, hopens, -⟩ := style.exists_cons
  have hu : ∀ x ∈ u, isBracket x = false :=
    fun x hx => (style.plain x (List.mem_cons_of_mem c hx)).1
  rw [scan_plain 0 plain]
  refine renders_append (by simp [Piece.Opens]) fun more => ?_
  rw [List.cons_append, scan_tag _ 0 hopens hu]
  refine Renders.text (.tag (afterTag_style style _ _) ?_) _
  obtain ⟨ps, position, slashes, hps, hscan⟩ :=
    reaches_scan ('[' :: '/' :: (c :: u ++ ']' :: cs)) (by simp) within
      (0 + front.length + u.length + 3) 0 (Nat.zero_le _)
  rw [hscan]
  refine renders_append hps fun more' => renders_end style ?_ behind position slashes
  exact ⟨_, List.mem_append_right more' List.mem_cons_self, rfl⟩

end Styled

/-- The text can be shown. -/
def Legible (s : Styling) (text : String) : Prop := ∃ out, shown s text = .ok out

theorem Renders.legible {text : String} (h : Renders s [] (scan 0 0 0 text.toList)) :
    Legible s text := by
  obtain ⟨out, hout⟩ := h
  exact ⟨String.ofList out, by rw [shown, hout]; rfl⟩

theorem legible_of_closesNothing {text : String} (h : ClosesNothing text.toList) :
    Legible s text :=
  (renders_of_closesNothing h 0 []).legible

theorem legible_of_styled {text : String} (front name inner cs : List Char)
    (written : text.toList =
      front ++ '[' :: (name ++ ']' :: (inner ++ '[' :: '/' :: (name ++ ']' :: cs))))
    (plain : front.all isPlain = true) (style : IsStyle name)
    (within : ClosesNothing inner) (behind : ClosesNothing cs) : Legible s text := by
  refine Renders.legible ?_
  rw [written]
  exact renders_styled plain style within behind []

/-- A tag within that closes the style leaves nothing for its own end to close. -/
example : shown .plain "[bold]a[/]b[/bold]" = .error (.unmatched "/bold".toList 11) := by
  decide +kernel

end Markup

end AllowanceProxy.Audit
