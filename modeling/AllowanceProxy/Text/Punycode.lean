import AllowanceProxy.Text.Cut

/-!
Punycode: a label of any characters written in ASCII. The characters beyond ASCII are inserted in
the order of their code points; each insertion is a number of places skipped, in digits to the
base 36 whose thresholds adapt to the numbers before.
-/
namespace AllowanceProxy.Text.Punycode

/-- Letters are the digits up to 25, and numerals those up to 35. -/
def digit (n : Nat) : Char :=
  if n < 26 then Char.ofNat ('a'.toNat + n) else Char.ofNat ('0'.toNat + n - 26)

/-- A digit below the threshold of its place ends a number. -/
def threshold (place bias : Nat) : Nat := max 1 (min 26 (place - bias))

theorem one_le_threshold (place bias : Nat) : 1 ≤ threshold place bias := Nat.le_max_left _ _

/-- The digits of a number from a place on; places are 36 apart. -/
def digitsFrom (place bias n : Nat) : List Char :=
  let t := threshold place bias
  if h : n < t then [digit n]
  else
    have : (n - t) / (36 - t) < n := by
      have h1 := one_le_threshold place bias
      have h2 := Nat.div_le_self (n - t) (36 - t)
      omega
    digit (t + (n - t) % (36 - t)) :: digitsFrom (place + 36) bias ((n - t) / (36 - t))
termination_by n

def biasOf (delta place : Nat) : Nat :=
  if h : 455 < delta then
    have : delta / 35 < delta := Nat.div_lt_self (by omega) (by omega)
    biasOf (delta / 35) (place + 36)
  else place + 36 * delta / (delta + 38)
termination_by delta

/-- The bias after a number, with `count` characters in place; the first number counts less. -/
def adapted (delta count : Nat) (first : Bool) : Nat :=
  let d := if first then delta / 700 else delta / 2
  biasOf (d + d / count) 0

/-- What is written so far, the places skipped, and how many characters are in place. -/
structure Progress where
  written : List Char
  delta : Nat
  bias : Nat
  handled : Nat

/-- One place of the label is passed while those of a code point are inserted. -/
def Progress.pass (basic point : Nat) (p : Progress) (n : Nat) : Progress :=
  if n < point then { p with delta := p.delta + 1 }
  else if n = point then
    ⟨p.written ++ digitsFrom 36 p.bias p.delta, 0,
      adapted p.delta (p.handled + 1) (p.handled = basic), p.handled + 1⟩
  else p

/-- Insertions of further code points in their order, the least of which may be `next`. -/
def Progress.insert (label : List Nat) (basic : Nat) :
    (next : Nat) → List Nat → Progress → Progress
  | _, [], p => p
  | next, point :: points, p =>
    let p := { p with delta := p.delta + (point - next) * (p.handled + 1) }
    let p := label.foldl (Progress.pass basic point) p
    insert label basic (point + 1) points { p with delta := p.delta + 1 }

/-- The first code point that is inserted, and not written as it is. -/
def firstInserted : Nat := 0x80

def isAscii (c : Char) : Bool := c.toNat < firstInserted

/-- The one coded form of a label of code points. -/
def encode (label : List Nat) : List Char :=
  let (basic, others) := label.partition (· < firstInserted)
  let front := basic.map Char.ofNat
  let points := others.mergeSort.eraseDups
  let p := Progress.insert label front.length firstInserted points ⟨[], 0, 72, front.length⟩
  (if front = [] then [] else front ++ ['-']) ++ p.written

def digitValue? (c : Char) : Option Nat :=
  if 'a' ≤ c ∧ c ≤ 'z' then some (c.toNat - 'a'.toNat)
  else if c.isDigit then some (c.toNat - '0'.toNat + 26)
  else none

/-- A number in digits from a place on, and what follows it. -/
def number? (place bias weight : Nat) : List Char → Option (Nat × List Char)
  | [] => none
  | c :: cs => do
    let d ← digitValue? c
    let t := threshold place bias
    if d < t then some (d * weight, cs)
    else
      let (n, rest) ← number? (place + 36) bias (weight * (36 - t)) cs
      some (d * weight + n, rest)

theorem length_lt_of_number? {place bias weight n : Nat} {cs rest : List Char}
    (h : number? place bias weight cs = some (n, rest)) : rest.length < cs.length := by
  induction cs generalizing place weight n rest with
  | nil => simp [number?] at h
  | cons c cs ih =>
    simp only [number?, Option.bind_eq_bind, Option.bind_eq_some_iff] at h
    obtain ⟨d, -, h⟩ := h
    split at h
    · simp only [Option.some.injEq, Prod.mk.injEq] at h
      simp [h.2]
    · simp only [Option.bind_eq_some_iff] at h
      obtain ⟨⟨m, r⟩, hm, h⟩ := h
      simp only [Option.some.injEq, Prod.mk.injEq] at h
      have := ih hm
      simp only [List.length_cons]
      rw [← h.2]
      omega

/-- The label with the insertions that a text spells. The next one takes place at `start` or
behind it, with the code point `point` unless it passes the end of the label. -/
def inserted? (label : List Nat) (start point bias : Nat) (first : Bool) (cs : List Char) :
    Option (List Nat) :=
  if cs = [] then some label
  else
    match h : number? 36 bias 1 cs with
    | none => none
    | some (delta, rest) =>
      have := length_lt_of_number? h
      let count := label.length + 1
      let point := point + (start + delta) / count
      let place := (start + delta) % count
      if 0x10ffff < point then none
      else
        inserted? (label.take place ++ point :: label.drop place) (place + 1) point
          (adapted delta count first) false rest
termination_by cs.length

/-- The code points of a coded label; a hyphen divides its ASCII characters from the insertions. -/
def decode? (coded : List Char) : Option (List Nat) :=
  let (front, back) := (cutAtLast? '-' coded).getD ([], coded)
  inserted? (front.map Char.toNat) 0 firstInserted 72 true back

end AllowanceProxy.Text.Punycode
