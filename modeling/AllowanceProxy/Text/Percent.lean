import AllowanceProxy.Text.Quoted

/-! Percent-encoding: a character is written by the octets of its UTF-8 form. -/
namespace AllowanceProxy.Text

def upperHex (c : Char) : Char := if 'a' ≤ c ∧ c ≤ 'f' then Char.ofNat (c.toNat - 32) else c

def percentEncoded (c : Char) : List Char :=
  (String.utf8EncodeChar c).flatMap fun b => '%' :: (hexDigits 2 b.toNat).map upperHex

/-- Visible ASCII characters stand for themselves unless they are delimiters. -/
def percentEncode (delimiters : List Char) (s : List Char) : List Char :=
  s.flatMap fun c =>
    if 0x20 < c.toNat && c.toNat < 0x7f && !delimiters.contains c then [c] else percentEncoded c

end AllowanceProxy.Text
