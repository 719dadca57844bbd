import AllowanceProxy.Text.CombiningClass
import AllowanceProxy.Text.Mark

/-! How letters of cursive scripts join their neighbours. -/
namespace AllowanceProxy.Text

/-- Letters that join what follows them. -/
def forwardRanges : List (Nat × Nat) := [
  (0x620, 0x620), (0x626, 0x626), (0x628, 0x628), (0x62a, 0x62e), (0x633, 0x63f), (0x641, 0x647),
  (0x649, 0x64a), (0x66e, 0x66f), (0x678, 0x687), (0x69a, 0x6bf), (0x6c1, 0x6c2), (0x6cc, 0x6cc),
  (0x6ce, 0x6ce), (0x6d0, 0x6d1), (0x6fa, 0x6fc), (0x6ff, 0x6ff), (0x712, 0x714), (0x71a, 0x71d),
  (0x71f, 0x727), (0x729, 0x729), (0x72b, 0x72b), (0x72d, 0x72e), (0x74e, 0x758), (0x75c, 0x76a),
  (0x76d, 0x770), (0x772, 0x772), (0x775, 0x777), (0x77a, 0x77f), (0x7ca, 0x7ea), (0x841, 0x845),
  (0x848, 0x848), (0x84a, 0x853), (0x855, 0x855), (0x860, 0x860), (0x862, 0x865), (0x868, 0x868),
  (0x886, 0x886), (0x889, 0x88d), (0x88f, 0x88f), (0x8a0, 0x8a9), (0x8af, 0x8b0), (0x8b3, 0x8b8),
  (0x8ba, 0x8c8), (0x1807, 0x1807), (0x1820, 0x1878), (0x1887, 0x18a8), (0x18aa, 0x18aa),
  (0xa840, 0xa872), (0x10ac0, 0x10ac4), (0x10acd, 0x10acd), (0x10ad3, 0x10adc),
  (0x10ade, 0x10ae0), (0x10aeb, 0x10aee), (0x10b80, 0x10b80), (0x10b82, 0x10b82),
  (0x10b86, 0x10b88), (0x10b8a, 0x10b8b), (0x10b8d, 0x10b8d), (0x10b90, 0x10b90),
  (0x10bad, 0x10bae), (0x10d00, 0x10d21), (0x10d23, 0x10d23), (0x10ec3, 0x10ec4),
  (0x10ec6, 0x10ec7), (0x10f30, 0x10f32), (0x10f34, 0x10f44), (0x10f51, 0x10f53),
  (0x10f70, 0x10f73), (0x10f76, 0x10f81), (0x10fb0, 0x10fb0), (0x10fb2, 0x10fb3),
  (0x10fb8, 0x10fb8), (0x10fbb, 0x10fbc), (0x10fbe, 0x10fbf), (0x10fc1, 0x10fc1),
  (0x10fc4, 0x10fc4), (0x10fca, 0x10fcb), (0x1e900, 0x1e943)]

/-- Letters that join what comes before them. -/
def backwardRanges : List (Nat × Nat) := [
  (0x620, 0x620), (0x622, 0x63f), (0x641, 0x64a), (0x66e, 0x66f), (0x671, 0x673), (0x675, 0x6d3),
  (0x6d5, 0x6d5), (0x6ee, 0x6ef), (0x6fa, 0x6fc), (0x6ff, 0x6ff), (0x710, 0x710), (0x712, 0x72f),
  (0x74d, 0x77f), (0x7ca, 0x7ea), (0x840, 0x858), (0x860, 0x860), (0x862, 0x865), (0x867, 0x86a),
  (0x870, 0x882), (0x886, 0x886), (0x889, 0x88f), (0x8a0, 0x8ac), (0x8ae, 0x8c8),
  (0x1807, 0x1807), (0x1820, 0x1878), (0x1887, 0x18a8), (0x18aa, 0x18aa), (0xa840, 0xa871),
  (0x10ac0, 0x10ac5), (0x10ac7, 0x10ac7), (0x10ac9, 0x10aca), (0x10ace, 0x10ad6),
  (0x10ad8, 0x10ae1), (0x10ae4, 0x10ae4), (0x10aeb, 0x10aef), (0x10b80, 0x10b91),
  (0x10ba9, 0x10bae), (0x10d01, 0x10d23), (0x10ec2, 0x10ec4), (0x10ec6, 0x10ec7),
  (0x10f30, 0x10f44), (0x10f51, 0x10f54), (0x10f70, 0x10f81), (0x10fb0, 0x10fb0),
  (0x10fb2, 0x10fb6), (0x10fb8, 0x10fbf), (0x10fc1, 0x10fc4), (0x10fc9, 0x10fca),
  (0x1e900, 0x1e943)]

/-- Characters besides nonspacing marks over which letters join. -/
def transparentRanges : List (Nat × Nat) := [
  (0xad, 0xad), (0x5c8, 0x5c8), (0x61c, 0x61c), (0x70f, 0x70f), (0x897, 0x897), (0xcbf, 0xcbf),
  (0xcc6, 0xcc6), (0xece, 0xece), (0x1acf, 0x1add), (0x1ae0, 0x1aeb), (0x200b, 0x200b),
  (0x200e, 0x200f), (0x202a, 0x202e), (0x2060, 0x2064), (0x206a, 0x206f), (0xfeff, 0xfeff),
  (0xfff9, 0xfffb), (0x10d69, 0x10d6d), (0x10efa, 0x10eff), (0x11241, 0x11241), (0x113bb, 0x113c0),
  (0x113ce, 0x113ce), (0x113d0, 0x113d0), (0x113d2, 0x113d2), (0x113e1, 0x113e2),
  (0x11a07, 0x11a08), (0x11b60, 0x11b60), (0x11b62, 0x11b64), (0x11b66, 0x11b66),
  (0x11c3f, 0x11c3f), (0x11f00, 0x11f01), (0x11f36, 0x11f3a), (0x11f40, 0x11f40),
  (0x11f42, 0x11f42), (0x11f5a, 0x11f5a), (0x13430, 0x13440), (0x13447, 0x13455),
  (0x1611e, 0x16129), (0x1612d, 0x1612f), (0x1bca0, 0x1bca3), (0x1d173, 0x1d17a),
  (0x1e08f, 0x1e08f), (0x1e4ec, 0x1e4ef), (0x1e5ee, 0x1e5ef), (0x1e6e3, 0x1e6e3),
  (0x1e6e6, 0x1e6e6), (0x1e6ee, 0x1e6ef), (0x1e6f5, 0x1e6f5), (0x1e94b, 0x1e94b),
  (0xe0001, 0xe0001), (0xe0020, 0xe007f)]

def isTransparent (n : Nat) : Bool :=
  (isNonspacing n && n ≠ 0x1171e) || inRanges transparentRanges n

/-- The number of the marks that drop the vowel of a letter. -/
def viramaClass : Nat := 9

/-- Whether a sign against joining has an effect between what stands before it, last one first,
and what follows. -/
def separates (before after : List Nat) : Bool :=
  ((before.dropWhile isTransparent).head?.map (inRanges forwardRanges)).getD false &&
    ((after.dropWhile isTransparent).head?.map (inRanges backwardRanges)).getD false

def followsVirama (before : List Nat) : Bool :=
  before.head?.map combiningClass = some viramaClass

end AllowanceProxy.Text
