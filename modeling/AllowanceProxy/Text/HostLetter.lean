import AllowanceProxy.Text.Ranges

/-!
Letters, digits and marks that may stand anywhere in the label of a host. A letter with a lower
case, or one that another form stands for, is none of them.
-/
namespace AllowanceProxy.Text

def hostLetterRuns : List (Nat × Nat × Nat) := [
  (0x2d, 1, 1), (0x30, 10, 1), (0x61, 26, 1), (0xdf, 24, 1), (0xf8, 8, 1), (0x101, 25, 2),
  (0x135, 1, 1), (0x137, 2, 1), (0x13a, 3, 2), (0x142, 4, 2), (0x14b, 23, 2), (0x17a, 4, 2),
  (0x183, 1, 1), (0x185, 1, 1), (0x188, 1, 1), (0x18c, 2, 1), (0x192, 1, 1), (0x195, 1, 1),
  (0x199, 3, 1), (0x19e, 1, 1), (0x1a1, 3, 2), (0x1a8, 1, 1), (0x1aa, 2, 1), (0x1ad, 1, 1),
  (0x1b0, 1, 1), (0x1b4, 1, 1), (0x1b6, 1, 1), (0x1b9, 3, 1), (0x1bd, 7, 1), (0x1ce, 8, 2),
  (0x1dd, 10, 2), (0x1f0, 1, 1), (0x1f5, 1, 1), (0x1f9, 30, 2), (0x234, 6, 1), (0x23c, 1, 1),
  (0x23f, 2, 1), (0x242, 1, 1), (0x247, 5, 2), (0x250, 96, 1), (0x2b9, 9, 1), (0x2c6, 12, 1),
  (0x2ec, 1, 1), (0x2ee, 1, 1), (0x300, 64, 1), (0x342, 1, 1), (0x346, 9, 1), (0x350, 32, 1),
  (0x371, 1, 1), (0x373, 1, 1), (0x377, 1, 1), (0x37b, 3, 1), (0x390, 1, 1), (0x3ac, 35, 1),
  (0x3d7, 13, 2), (0x3f3, 1, 1), (0x3f8, 1, 1), (0x3fb, 2, 1), (0x430, 48, 1), (0x461, 18, 2),
  (0x484, 4, 1), (0x48b, 27, 2), (0x4c2, 7, 2), (0x4cf, 49, 2), (0x559, 1, 1), (0x560, 39, 1),
  (0x588, 1, 1), (0x591, 45, 1), (0x5bf, 1, 1), (0x5c1, 2, 1), (0x5c4, 2, 1), (0x5c7, 2, 1),
  (0x5d0, 27, 1), (0x5ef, 4, 1), (0x610, 11, 1), (0x620, 32, 1), (0x641, 31, 1), (0x66e, 7, 1),
  (0x679, 91, 1), (0x6d5, 8, 1), (0x6df, 10, 1), (0x6ea, 6, 1), (0x6fa, 6, 1), (0x710, 59, 1),
  (0x74d, 101, 1), (0x7c0, 54, 1), (0x7fd, 1, 1), (0x800, 46, 1), (0x840, 28, 1), (0x860, 11, 1),
  (0x870, 24, 1), (0x889, 7, 1), (0x897, 75, 1), (0x8e3, 117, 1), (0x960, 4, 1), (0x966, 10, 1),
  (0x971, 19, 1), (0x985, 8, 1), (0x98f, 2, 1), (0x993, 22, 1), (0x9aa, 7, 1), (0x9b2, 1, 1),
  (0x9b6, 4, 1), (0x9bc, 9, 1), (0x9c7, 2, 1), (0x9cb, 4, 1), (0x9d7, 1, 1), (0x9e0, 4, 1),
  (0x9e6, 12, 1), (0x9fc, 1, 1), (0x9fe, 1, 1), (0xa01, 3, 1), (0xa05, 6, 1), (0xa0f, 2, 1),
  (0xa13, 22, 1), (0xa2a, 7, 1), (0xa32, 1, 1), (0xa35, 1, 1), (0xa38, 2, 1), (0xa3c, 1, 1),
  (0xa3e, 5, 1), (0xa47, 2, 1), (0xa4b, 3, 1), (0xa51, 1, 1), (0xa5c, 1, 1), (0xa66, 16, 1),
  (0xa81, 3, 1), (0xa85, 9, 1), (0xa8f, 3, 1), (0xa93, 22, 1), (0xaaa, 7, 1), (0xab2, 2, 1),
  (0xab5, 5, 1), (0xabc, 10, 1), (0xac7, 3, 1), (0xacb, 3, 1), (0xad0, 1, 1), (0xae0, 4, 1),
  (0xae6, 10, 1), (0xaf9, 7, 1), (0xb01, 3, 1), (0xb05, 8, 1), (0xb0f, 2, 1), (0xb13, 22, 1),
  (0xb2a, 7, 1), (0xb32, 2, 1), (0xb35, 5, 1), (0xb3c, 9, 1), (0xb47, 2, 1), (0xb4b, 3, 1),
  (0xb55, 3, 1), (0xb5f, 5, 1), (0xb66, 10, 1), (0xb71, 1, 1), (0xb82, 2, 1), (0xb85, 6, 1),
  (0xb8e, 3, 1), (0xb92, 4, 1), (0xb99, 2, 1), (0xb9c, 1, 1), (0xb9e, 2, 1), (0xba3, 2, 1),
  (0xba8, 3, 1), (0xbae, 12, 1), (0xbbe, 5, 1), (0xbc6, 3, 1), (0xbca, 4, 1), (0xbd0, 1, 1),
  (0xbd7, 1, 1), (0xbe6, 10, 1), (0xc00, 13, 1), (0xc0e, 3, 1), (0xc12, 23, 1), (0xc2a, 16, 1),
  (0xc3c, 9, 1), (0xc46, 3, 1), (0xc4a, 4, 1), (0xc55, 2, 1), (0xc58, 3, 1), (0xc5c, 2, 1),
  (0xc60, 4, 1), (0xc66, 10, 1), (0xc80, 4, 1), (0xc85, 8, 1), (0xc8e, 3, 1), (0xc92, 23, 1),
  (0xcaa, 10, 1), (0xcb5, 5, 1), (0xcbc, 9, 1), (0xcc6, 3, 1), (0xcca, 4, 1), (0xcd5, 2, 1),
  (0xcdc, 3, 1), (0xce0, 4, 1), (0xce6, 10, 1), (0xcf1, 3, 1), (0xd00, 13, 1), (0xd0e, 3, 1),
  (0xd12, 51, 1), (0xd46, 3, 1), (0xd4a, 5, 1), (0xd54, 4, 1), (0xd5f, 5, 1), (0xd66, 10, 1),
  (0xd7a, 6, 1), (0xd81, 3, 1), (0xd85, 18, 1), (0xd9a, 24, 1), (0xdb3, 9, 1), (0xdbd, 1, 1),
  (0xdc0, 7, 1), (0xdca, 1, 1), (0xdcf, 6, 1), (0xdd6, 1, 1), (0xdd8, 8, 1), (0xde6, 10, 1),
  (0xdf2, 2, 1), (0xe01, 50, 1), (0xe34, 7, 1), (0xe40, 15, 1), (0xe50, 10, 1), (0xe81, 2, 1),
  (0xe84, 1, 1), (0xe86, 5, 1), (0xe8c, 24, 1), (0xea5, 1, 1), (0xea7, 12, 1), (0xeb4, 10, 1),
  (0xec0, 5, 1), (0xec6, 1, 1), (0xec8, 7, 1), (0xed0, 10, 1), (0xede, 2, 1), (0xf00, 1, 1),
  (0xf0b, 1, 1), (0xf18, 2, 1), (0xf20, 10, 1), (0xf35, 3, 2), (0xf3e, 5, 1), (0xf44, 4, 1),
  (0xf49, 4, 1), (0xf4e, 4, 1), (0xf53, 4, 1), (0xf58, 4, 1), (0xf5d, 12, 1), (0xf6a, 3, 1),
  (0xf71, 2, 1), (0xf74, 1, 1), (0xf7a, 7, 1), (0xf82, 3, 1), (0xf86, 13, 1), (0xf94, 4, 1),
  (0xf99, 4, 1), (0xf9e, 4, 1), (0xfa3, 4, 1), (0xfa8, 4, 1), (0xfad, 12, 1), (0xfba, 3, 1),
  (0xfc6, 1, 1), (0x1000, 74, 1), (0x1050, 78, 1), (0x10d0, 43, 1), (0x10fd, 3, 1),
  (0x1200, 73, 1), (0x124a, 4, 1), (0x1250, 7, 1), (0x1258, 1, 1), (0x125a, 4, 1),
  (0x1260, 41, 1), (0x128a, 4, 1), (0x1290, 33, 1), (0x12b2, 4, 1), (0x12b8, 7, 1),
  (0x12c0, 1, 1), (0x12c2, 4, 1), (0x12c8, 15, 1), (0x12d8, 57, 1), (0x1312, 4, 1),
  (0x1318, 67, 1), (0x135d, 3, 1), (0x1380, 16, 1), (0x13a0, 86, 1), (0x1401, 620, 1),
  (0x166f, 17, 1), (0x1681, 26, 1), (0x16a0, 75, 1), (0x16f1, 8, 1), (0x1700, 22, 1),
  (0x171f, 22, 1), (0x1740, 20, 1), (0x1760, 13, 1), (0x176e, 3, 1), (0x1772, 2, 1),
  (0x1780, 52, 1), (0x17b6, 30, 1), (0x17d7, 1, 1), (0x17dc, 2, 1), (0x17e0, 10, 1),
  (0x1810, 10, 1), (0x1820, 89, 1), (0x1880, 43, 1), (0x18b0, 70, 1), (0x1900, 31, 1),
  (0x1920, 12, 1), (0x1930, 12, 1), (0x1946, 40, 1), (0x1970, 5, 1), (0x1980, 44, 1),
  (0x19b0, 26, 1), (0x19d0, 10, 1), (0x1a00, 28, 1), (0x1a20, 63, 1), (0x1a60, 29, 1),
  (0x1a7f, 11, 1), (0x1a90, 10, 1), (0x1aa7, 1, 1), (0x1ab0, 14, 1), (0x1abf, 31, 1),
  (0x1ae0, 12, 1), (0x1b00, 77, 1), (0x1b50, 10, 1), (0x1b6b, 9, 1), (0x1b80, 116, 1),
  (0x1c00, 56, 1), (0x1c40, 10, 1), (0x1c4d, 49, 1), (0x1c8a, 1, 1), (0x1cd0, 3, 1),
  (0x1cd4, 39, 1), (0x1d00, 44, 1), (0x1d2f, 1, 1), (0x1d3b, 1, 1), (0x1d4e, 1, 1),
  (0x1d6b, 13, 1), (0x1d79, 34, 1), (0x1dc0, 64, 1), (0x1e01, 75, 2), (0x1e96, 4, 1),
  (0x1e9c, 2, 1), (0x1e9f, 49, 2), (0x1f00, 8, 1), (0x1f10, 6, 1), (0x1f20, 8, 1), (0x1f30, 8, 1),
  (0x1f40, 6, 1), (0x1f50, 8, 1), (0x1f60, 8, 1), (0x1f70, 7, 2), (0x1fb0, 2, 1), (0x1fb6, 1, 1),
  (0x1fc6, 1, 1), (0x1fd0, 3, 1), (0x1fd6, 2, 1), (0x1fe0, 3, 1), (0x1fe4, 4, 1), (0x1ff6, 1, 1),
  (0x214e, 1, 1), (0x2184, 1, 1), (0x2c30, 48, 1), (0x2c61, 1, 1), (0x2c65, 2, 1), (0x2c68, 3, 2),
  (0x2c71, 1, 1), (0x2c73, 2, 1), (0x2c76, 6, 1), (0x2c81, 50, 2), (0x2ce4, 1, 1), (0x2cec, 1, 1),
  (0x2cee, 4, 1), (0x2cf3, 1, 1), (0x2d00, 38, 1), (0x2d27, 1, 1), (0x2d2d, 1, 1),
  (0x2d30, 56, 1), (0x2d7f, 24, 1), (0x2da0, 7, 1), (0x2da8, 7, 1), (0x2db0, 7, 1),
  (0x2db8, 7, 1), (0x2dc0, 7, 1), (0x2dc8, 7, 1), (0x2dd0, 7, 1), (0x2dd8, 7, 1), (0x2de0, 32, 1),
  (0x2e2f, 1, 1), (0x3005, 3, 1), (0x302a, 4, 1), (0x303c, 1, 1), (0x3041, 86, 1), (0x3099, 2, 1),
  (0x309d, 2, 1), (0x30a1, 90, 1), (0x30fc, 3, 1), (0x3105, 43, 1), (0x31a0, 32, 1),
  (0x31f0, 16, 1), (0x3400, 6592, 1), (0x4e00, 22157, 1), (0xa4d0, 46, 1), (0xa500, 269, 1),
  (0xa610, 28, 1), (0xa641, 23, 2), (0xa66e, 2, 1), (0xa674, 10, 1), (0xa67f, 15, 2),
  (0xa69e, 72, 1), (0xa6f0, 2, 1), (0xa717, 9, 1), (0xa723, 7, 2), (0xa730, 2, 1),
  (0xa733, 32, 2), (0xa772, 7, 1), (0xa77a, 1, 1), (0xa77c, 1, 1), (0xa77f, 5, 2), (0xa788, 1, 1),
  (0xa78c, 1, 1), (0xa78e, 2, 1), (0xa791, 1, 1), (0xa793, 3, 1), (0xa797, 10, 2), (0xa7af, 1, 1),
  (0xa7b5, 8, 2), (0xa7c8, 1, 1), (0xa7ca, 1, 1), (0xa7cd, 8, 2), (0xa7f6, 2, 1), (0xa7fa, 46, 1),
  (0xa82c, 1, 1), (0xa840, 52, 1), (0xa880, 70, 1), (0xa8d0, 10, 1), (0xa8e0, 24, 1),
  (0xa8fb, 1, 1), (0xa8fd, 49, 1), (0xa930, 36, 1), (0xa980, 65, 1), (0xa9cf, 11, 1),
  (0xa9e0, 31, 1), (0xaa00, 55, 1), (0xaa40, 14, 1), (0xaa50, 10, 1), (0xaa60, 23, 1),
  (0xaa7a, 73, 1), (0xaadb, 3, 1), (0xaae0, 16, 1), (0xaaf2, 5, 1), (0xab01, 6, 1),
  (0xab09, 6, 1), (0xab11, 6, 1), (0xab20, 7, 1), (0xab28, 7, 1), (0xab30, 43, 1), (0xab60, 9, 1),
  (0xabc0, 43, 1), (0xabec, 2, 1), (0xabf0, 10, 1), (0xac00, 11172, 1), (0xfa0e, 2, 1),
  (0xfa11, 1, 1), (0xfa13, 2, 1), (0xfa1f, 3, 2), (0xfa24, 1, 1), (0xfa27, 3, 1), (0xfb1e, 1, 1),
  (0xfe20, 16, 1), (0xfe73, 1, 1), (0x10000, 12, 1), (0x1000d, 26, 1), (0x10028, 19, 1),
  (0x1003c, 2, 1), (0x1003f, 15, 1), (0x10050, 14, 1), (0x10080, 123, 1), (0x101fd, 1, 1),
  (0x10280, 29, 1), (0x102a0, 49, 1), (0x102e0, 1, 1), (0x10300, 32, 1), (0x1032d, 20, 1),
  (0x10342, 8, 1), (0x10350, 43, 1), (0x10380, 30, 1), (0x103a0, 36, 1), (0x103c8, 8, 1),
  (0x10428, 118, 1), (0x104a0, 10, 1), (0x104d8, 36, 1), (0x10500, 40, 1), (0x10530, 52, 1),
  (0x10597, 11, 1), (0x105a3, 15, 1), (0x105b3, 7, 1), (0x105bb, 2, 1), (0x105c0, 52, 1),
  (0x10600, 311, 1), (0x10740, 22, 1), (0x10760, 8, 1), (0x10780, 1, 1), (0x10800, 6, 1),
  (0x10808, 1, 1), (0x1080a, 44, 1), (0x10837, 2, 1), (0x1083c, 1, 1), (0x1083f, 23, 1),
  (0x10860, 23, 1), (0x10880, 31, 1), (0x108e0, 19, 1), (0x108f4, 2, 1), (0x10900, 22, 1),
  (0x10920, 26, 1), (0x10940, 26, 1), (0x10980, 56, 1), (0x109be, 2, 1), (0x10a00, 4, 1),
  (0x10a05, 2, 1), (0x10a0c, 8, 1), (0x10a15, 3, 1), (0x10a19, 29, 1), (0x10a38, 3, 1),
  (0x10a3f, 1, 1), (0x10a60, 29, 1), (0x10a80, 29, 1), (0x10ac0, 8, 1), (0x10ac9, 30, 1),
  (0x10b00, 54, 1), (0x10b40, 22, 1), (0x10b60, 19, 1), (0x10b80, 18, 1), (0x10c00, 73, 1),
  (0x10cc0, 51, 1), (0x10d00, 40, 1), (0x10d30, 10, 1), (0x10d40, 16, 1), (0x10d69, 5, 1),
  (0x10d6f, 23, 1), (0x10e80, 42, 1), (0x10eab, 2, 1), (0x10eb0, 2, 1), (0x10ec2, 6, 1),
  (0x10efa, 35, 1), (0x10f27, 1, 1), (0x10f30, 33, 1), (0x10f70, 22, 1), (0x10fb0, 21, 1),
  (0x10fe0, 23, 1), (0x11000, 71, 1), (0x11066, 16, 1), (0x1107f, 60, 1), (0x110c2, 1, 1),
  (0x110d0, 25, 1), (0x110f0, 10, 1), (0x11100, 53, 1), (0x11136, 10, 1), (0x11144, 4, 1),
  (0x11150, 36, 1), (0x11176, 1, 1), (0x11180, 69, 1), (0x111c9, 4, 1), (0x111ce, 13, 1),
  (0x111dc, 1, 1), (0x11200, 18, 1), (0x11213, 37, 1), (0x1123e, 4, 1), (0x11280, 7, 1),
  (0x11288, 1, 1), (0x1128a, 4, 1), (0x1128f, 15, 1), (0x1129f, 10, 1), (0x112b0, 59, 1),
  (0x112f0, 10, 1), (0x11300, 4, 1), (0x11305, 8, 1), (0x1130f, 2, 1), (0x11313, 22, 1),
  (0x1132a, 7, 1), (0x11332, 2, 1), (0x11335, 5, 1), (0x1133b, 10, 1), (0x11347, 2, 1),
  (0x1134b, 3, 1), (0x11350, 1, 1), (0x11357, 1, 1), (0x1135d, 7, 1), (0x11366, 7, 1),
  (0x11370, 5, 1), (0x11380, 10, 1), (0x1138b, 1, 1), (0x1138e, 1, 1), (0x11390, 38, 1),
  (0x113b7, 10, 1), (0x113c2, 1, 1), (0x113c5, 1, 1), (0x113c7, 4, 1), (0x113cc, 8, 1),
  (0x113e1, 2, 1), (0x11400, 75, 1), (0x11450, 10, 1), (0x1145e, 4, 1), (0x11480, 70, 1),
  (0x114c7, 1, 1), (0x114d0, 10, 1), (0x11580, 54, 1), (0x115b8, 9, 1), (0x115d8, 6, 1),
  (0x11600, 65, 1), (0x11644, 1, 1), (0x11650, 10, 1), (0x11680, 57, 1), (0x116c0, 10, 1),
  (0x116d0, 20, 1), (0x11700, 27, 1), (0x1171d, 15, 1), (0x11730, 10, 1), (0x11740, 7, 1),
  (0x11800, 59, 1), (0x118c0, 42, 1), (0x118ff, 8, 1), (0x11909, 1, 1), (0x1190c, 8, 1),
  (0x11915, 2, 1), (0x11918, 30, 1), (0x11937, 2, 1), (0x1193b, 9, 1), (0x11950, 10, 1),
  (0x119a0, 8, 1), (0x119aa, 46, 1), (0x119da, 8, 1), (0x119e3, 2, 1), (0x11a00, 63, 1),
  (0x11a47, 1, 1), (0x11a50, 74, 1), (0x11a9d, 1, 1), (0x11ab0, 73, 1), (0x11b60, 8, 1),
  (0x11bc0, 33, 1), (0x11bf0, 10, 1), (0x11c00, 9, 1), (0x11c0a, 45, 1), (0x11c38, 9, 1),
  (0x11c50, 10, 1), (0x11c72, 30, 1), (0x11c92, 22, 1), (0x11ca9, 14, 1), (0x11d00, 7, 1),
  (0x11d08, 2, 1), (0x11d0b, 44, 1), (0x11d3a, 1, 1), (0x11d3c, 2, 1), (0x11d3f, 9, 1),
  (0x11d50, 10, 1), (0x11d60, 6, 1), (0x11d67, 2, 1), (0x11d6a, 37, 1), (0x11d90, 2, 1),
  (0x11d93, 6, 1), (0x11da0, 10, 1), (0x11db0, 44, 1), (0x11de0, 10, 1), (0x11ee0, 23, 1),
  (0x11f00, 17, 1), (0x11f12, 41, 1), (0x11f3e, 5, 1), (0x11f50, 11, 1), (0x11fb0, 1, 1),
  (0x12000, 922, 1), (0x12480, 196, 1), (0x12f90, 97, 1), (0x13000, 1072, 1), (0x13440, 22, 1),
  (0x13460, 3995, 1), (0x14400, 583, 1), (0x16100, 58, 1), (0x16800, 569, 1), (0x16a40, 31, 1),
  (0x16a60, 10, 1), (0x16a70, 79, 1), (0x16ac0, 10, 1), (0x16ad0, 30, 1), (0x16af0, 5, 1),
  (0x16b00, 55, 1), (0x16b40, 4, 1), (0x16b50, 10, 1), (0x16b63, 21, 1), (0x16b7d, 19, 1),
  (0x16d40, 45, 1), (0x16d70, 10, 1), (0x16e60, 32, 1), (0x16ebb, 25, 1), (0x16f00, 75, 1),
  (0x16f4f, 57, 1), (0x16f8f, 17, 1), (0x16fe0, 2, 1), (0x16fe3, 2, 1), (0x16ff0, 4, 1),
  (0x17000, 7382, 1), (0x18cff, 32, 1), (0x18d80, 115, 1), (0x1aff0, 4, 1), (0x1aff5, 7, 1),
  (0x1affd, 2, 1), (0x1b000, 291, 1), (0x1b132, 1, 1), (0x1b150, 3, 1), (0x1b155, 1, 1),
  (0x1b164, 4, 1), (0x1b170, 396, 1), (0x1bc00, 107, 1), (0x1bc70, 13, 1), (0x1bc80, 9, 1),
  (0x1bc90, 10, 1), (0x1bc9d, 2, 1), (0x1cf00, 46, 1), (0x1cf30, 23, 1), (0x1da00, 55, 1),
  (0x1da3b, 50, 1), (0x1da75, 1, 1), (0x1da84, 1, 1), (0x1da9b, 5, 1), (0x1daa1, 15, 1),
  (0x1df00, 31, 1), (0x1df25, 6, 1), (0x1e000, 7, 1), (0x1e008, 17, 1), (0x1e01b, 7, 1),
  (0x1e023, 2, 1), (0x1e026, 5, 1), (0x1e08f, 1, 1), (0x1e100, 45, 1), (0x1e130, 14, 1),
  (0x1e140, 10, 1), (0x1e14e, 1, 1), (0x1e290, 31, 1), (0x1e2c0, 58, 1), (0x1e4d0, 42, 1),
  (0x1e5d0, 43, 1), (0x1e6c0, 31, 1), (0x1e6e0, 22, 1), (0x1e6fe, 2, 1), (0x1e7e0, 7, 1),
  (0x1e7e8, 4, 1), (0x1e7ed, 2, 1), (0x1e7f0, 15, 1), (0x1e800, 197, 1), (0x1e8d0, 7, 1),
  (0x1e922, 42, 1), (0x1e950, 10, 1), (0x20000, 42720, 1), (0x2a700, 4383, 1), (0x2b820, 5774, 1),
  (0x2ceb0, 7473, 1), (0x2ebf0, 622, 1), (0x30000, 4939, 1), (0x31350, 8490, 1)]

def isHostLetter (n : Nat) : Bool := hostLetterRuns.any fun run => inRun run n

end AllowanceProxy.Text
