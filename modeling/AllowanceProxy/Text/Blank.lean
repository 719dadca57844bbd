/-! Blank characters: the White_Space property, and with it the separators of records. -/
namespace AllowanceProxy.Text

def isBlank (c : Char) : Bool :=
  let n := c.toNat
  (9 ≤ n && n ≤ 13) || n = 0x20 || n = 0x85 || n = 0xa0 || n = 0x1680 ||
    (0x2000 ≤ n && n ≤ 0x200a) || n = 0x2028 || n = 0x2029 || n = 0x202f || n = 0x205f ||
    n = 0x3000

/-- Blanks between words, over the ends of lines and records. -/
def isSpacing (c : Char) : Bool := isBlank c || (0x1c ≤ c.toNat && c.toNat ≤ 0x1f)

def trimBy (p : Char → Bool) (cs : List Char) : List Char :=
  ((cs.dropWhile p).reverse.dropWhile p).reverse

theorem mem_of_mem_trimBy {p : Char → Bool} {c : Char} {cs : List Char} (h : c ∈ trimBy p cs) :
    c ∈ cs := by
  have hfront := (List.dropWhile_sublist p).subset (List.mem_reverse.mp h)
  exact (List.dropWhile_sublist p).subset (List.mem_reverse.mp hfront)

def trim (cs : List Char) : List Char := trimBy isBlank cs

end AllowanceProxy.Text
