import AllowanceProxy.Text.Mark

/-! The direction in which letters, digits and signs that may stand in a host are written. -/
namespace AllowanceProxy.Text

inductive Direction where
  | leftToRight
  | rightToLeft
  | arabicNumber
  | number
  | neutral
  | nonspacing
  | unknown
  deriving DecidableEq

def rightToLeftRanges : List (Nat × Nat) := [
  (0x5d0, 0x5ea), (0x5ef, 0x5f4), (0x620, 0x63f), (0x641, 0x64a), (0x66e, 0x66f), (0x671, 0x674),
  (0x679, 0x6d3), (0x6d5, 0x6d5), (0x6e5, 0x6e6), (0x6ee, 0x6ef), (0x6fa, 0x6ff), (0x710, 0x710),
  (0x712, 0x72f), (0x74d, 0x7a5), (0x7b1, 0x7b1), (0x7c0, 0x7ea), (0x7f4, 0x7f5), (0x800, 0x815),
  (0x81a, 0x81a), (0x824, 0x824), (0x828, 0x828), (0x840, 0x858), (0x860, 0x86a), (0x870, 0x887),
  (0x889, 0x88e), (0x8a0, 0x8c9), (0xfe73, 0xfe73), (0x10800, 0x10805), (0x10808, 0x10808),
  (0x1080a, 0x10835), (0x10837, 0x10838), (0x1083c, 0x1083c), (0x1083f, 0x10855),
  (0x10860, 0x10876), (0x10880, 0x1089e), (0x108e0, 0x108f2), (0x108f4, 0x108f5),
  (0x10900, 0x10915), (0x10920, 0x10939), (0x10980, 0x109b7), (0x109be, 0x109bf),
  (0x10a00, 0x10a00), (0x10a10, 0x10a13), (0x10a15, 0x10a17), (0x10a19, 0x10a35),
  (0x10a60, 0x10a7c), (0x10a80, 0x10a9c), (0x10ac0, 0x10ac7), (0x10ac9, 0x10ae4),
  (0x10b00, 0x10b35), (0x10b40, 0x10b55), (0x10b60, 0x10b72), (0x10b80, 0x10b91),
  (0x10c00, 0x10c48), (0x10cc0, 0x10cf2), (0x10d00, 0x10d23), (0x10e80, 0x10ea9),
  (0x10eb0, 0x10eb1), (0x10f00, 0x10f1c), (0x10f27, 0x10f27), (0x10f30, 0x10f45),
  (0x10f70, 0x10f81), (0x10fb0, 0x10fc4), (0x10fe0, 0x10ff6), (0x1e800, 0x1e8c4),
  (0x1e922, 0x1e943), (0x1e94b, 0x1e94b), (0x1e950, 0x1e959)]

def neutralRanges : List (Nat × Nat) := [
  (0x2d, 0x2d), (0xb7, 0xb7), (0x2b9, 0x2ba), (0x2c6, 0x2cf), (0x2ec, 0x2ec), (0x375, 0x375),
  (0x200c, 0x200d), (0x2e2f, 0x2e2f), (0x30fb, 0x30fb), (0xa67f, 0xa67f), (0xa717, 0xa71f),
  (0xa788, 0xa788)]

/-- Letters of later days, of which no direction is known. -/
def undirectedRanges : List (Nat × Nat) := [
  (0x5c8, 0x5c8), (0x88f, 0x88f), (0x897, 0x897), (0xc5c, 0xc5c), (0xcdc, 0xcdc), (0xcf3, 0xcf3),
  (0xece, 0xece), (0x1acf, 0x1add), (0x1ae0, 0x1aeb), (0x1c8a, 0x1c8a), (0xa7cd, 0xa7cd),
  (0xa7cf, 0xa7cf), (0xa7db, 0xa7db), (0x105c0, 0x105f3), (0x10940, 0x10959), (0x10d40, 0x10d4f),
  (0x10d69, 0x10d6d), (0x10d6f, 0x10d85), (0x10ec2, 0x10ec7), (0x10efa, 0x10eff),
  (0x1123f, 0x11241), (0x11380, 0x11389), (0x1138b, 0x1138b), (0x1138e, 0x1138e),
  (0x11390, 0x113b5), (0x113b7, 0x113c0), (0x113c2, 0x113c2), (0x113c5, 0x113c5),
  (0x113c7, 0x113ca), (0x113cc, 0x113d3), (0x113e1, 0x113e2), (0x116d0, 0x116e3),
  (0x11b60, 0x11b67), (0x11bc0, 0x11be0), (0x11bf0, 0x11bf9), (0x11db0, 0x11ddb),
  (0x11de0, 0x11de9), (0x11f00, 0x11f10), (0x11f12, 0x11f3a), (0x11f3e, 0x11f42),
  (0x11f50, 0x11f5a), (0x1342f, 0x1342f), (0x13440, 0x13455), (0x13460, 0x143fa),
  (0x16100, 0x16139), (0x16d40, 0x16d6c), (0x16d70, 0x16d79), (0x16ebb, 0x16ed3),
  (0x16ff2, 0x16ff3), (0x187f8, 0x187ff), (0x18cff, 0x18cff), (0x18d09, 0x18d1e),
  (0x18d80, 0x18df2), (0x1b132, 0x1b132), (0x1b155, 0x1b155), (0x1df25, 0x1df2a),
  (0x1e08f, 0x1e08f), (0x1e4d0, 0x1e4f9), (0x1e5d0, 0x1e5fa), (0x1e6c0, 0x1e6de),
  (0x1e6e0, 0x1e6f5), (0x1e6fe, 0x1e6ff), (0x2b739, 0x2b73f), (0x2b81e, 0x2b81e),
  (0x2cea2, 0x2cead), (0x2ebf0, 0x2ee5d), (0x31350, 0x33479)]

def Direction.of (n : Nat) : Direction :=
  if inRanges rightToLeftRanges n then .rightToLeft
  else if (0x660 ≤ n ∧ n ≤ 0x669) ∨ (0x10d30 ≤ n ∧ n ≤ 0x10d39) then .arabicNumber
  else if (0x30 ≤ n ∧ n ≤ 0x39) ∨ (0x6f0 ≤ n ∧ n ≤ 0x6f9) then .number
  else if inRanges neutralRanges n then .neutral
  else if isNonspacing n then .nonspacing
  else if inRanges undirectedRanges n then .unknown
  else .leftToRight

end AllowanceProxy.Text
