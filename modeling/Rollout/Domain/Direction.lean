import Rollout.Text.CodePoints

/-!
# Directions of writing

Domain names may mix scripts that are written from the left and from the right. As soon as one
character of a domain name is written from the right, every label has to keep one direction, so that
its characters are seen in one order only.
-/

namespace Rollout.Domain

/-- How a character takes part in the direction of a text. -/
inductive Direction where
  | leftToRight
  | rightToLeft
  | arabicLetter
  | arabicNumber
  | europeanNumber
  | europeanSeparator
  | europeanTerminator
  | commonSeparator
  | nonspacing
  | boundary
  | neutral
  deriving DecidableEq

/-- The directions of the characters of domain names that are not written from left to right. -/
def directionRanges : CodePointMap Direction := #[
  (0x21, 0x22, .neutral), (0x24, 0x24, .europeanTerminator), (0x26, 0x2a, .neutral),
  (0x2b, 0x2b, .europeanSeparator), (0x2c, 0x2c, .commonSeparator),
  (0x2d, 0x2d, .europeanSeparator), (0x2e, 0x2e, .commonSeparator), (0x30, 0x39, .europeanNumber),
  (0x3b, 0x60, .neutral), (0x7b, 0xa1, .neutral), (0xa2, 0xa5, .europeanTerminator),
  (0xa6, 0xae, .neutral), (0xb0, 0xb1, .europeanTerminator), (0xb6, 0xd7, .neutral),
  (0xf7, 0xf7, .neutral), (0x2b9, 0x2ba, .neutral), (0x2c2, 0x2cf, .neutral),
  (0x2d2, 0x2ed, .neutral), (0x2ef, 0x2ff, .neutral), (0x300, 0x36f, .nonspacing),
  (0x375, 0x375, .neutral), (0x3f6, 0x3f6, .neutral), (0x483, 0x489, .nonspacing),
  (0x58a, 0x58e, .neutral), (0x58f, 0x58f, .europeanTerminator), (0x591, 0x5bd, .nonspacing),
  (0x5be, 0x5be, .rightToLeft), (0x5bf, 0x5bf, .nonspacing), (0x5c0, 0x5c0, .rightToLeft),
  (0x5c1, 0x5c2, .nonspacing), (0x5c3, 0x5c3, .rightToLeft), (0x5c4, 0x5c5, .nonspacing),
  (0x5c6, 0x5c6, .rightToLeft), (0x5c7, 0x5c7, .nonspacing), (0x5d0, 0x5f4, .rightToLeft),
  (0x606, 0x607, .neutral), (0x608, 0x608, .arabicLetter), (0x609, 0x60a, .europeanTerminator),
  (0x60b, 0x60b, .arabicLetter), (0x60c, 0x60c, .commonSeparator), (0x60d, 0x60d, .arabicLetter),
  (0x60e, 0x60f, .neutral), (0x610, 0x61a, .nonspacing), (0x61b, 0x64a, .arabicLetter),
  (0x64b, 0x65f, .nonspacing), (0x660, 0x669, .arabicNumber), (0x66a, 0x66a, .europeanTerminator),
  (0x66b, 0x66c, .arabicNumber), (0x66d, 0x66f, .arabicLetter), (0x670, 0x670, .nonspacing),
  (0x671, 0x6d5, .arabicLetter), (0x6d6, 0x6dc, .nonspacing), (0x6de, 0x6de, .neutral),
  (0x6df, 0x6e4, .nonspacing), (0x6e5, 0x6e6, .arabicLetter), (0x6e7, 0x6e8, .nonspacing),
  (0x6e9, 0x6e9, .neutral), (0x6ea, 0x6ed, .nonspacing), (0x6ee, 0x6ef, .arabicLetter),
  (0x6f0, 0x6f9, .europeanNumber), (0x6fa, 0x710, .arabicLetter), (0x711, 0x711, .nonspacing),
  (0x712, 0x72f, .arabicLetter), (0x730, 0x74a, .nonspacing), (0x74d, 0x7a5, .arabicLetter),
  (0x7a6, 0x7b0, .nonspacing), (0x7b1, 0x7b1, .arabicLetter), (0x7c0, 0x7ea, .rightToLeft),
  (0x7eb, 0x7f3, .nonspacing), (0x7f4, 0x7f5, .rightToLeft), (0x7f6, 0x7f9, .neutral),
  (0x7fa, 0x7fa, .rightToLeft), (0x7fd, 0x7fd, .nonspacing), (0x7fe, 0x815, .rightToLeft),
  (0x816, 0x819, .nonspacing), (0x81a, 0x81a, .rightToLeft), (0x81b, 0x823, .nonspacing),
  (0x824, 0x824, .rightToLeft), (0x825, 0x827, .nonspacing), (0x828, 0x828, .rightToLeft),
  (0x829, 0x82d, .nonspacing), (0x830, 0x858, .rightToLeft), (0x859, 0x85b, .nonspacing),
  (0x85e, 0x85e, .rightToLeft), (0x860, 0x88f, .arabicLetter), (0x897, 0x89f, .nonspacing),
  (0x8a0, 0x8c9, .arabicLetter), (0x8ca, 0x902, .nonspacing), (0x93a, 0x93a, .nonspacing),
  (0x93c, 0x93c, .nonspacing), (0x941, 0x948, .nonspacing), (0x94d, 0x94d, .nonspacing),
  (0x951, 0x957, .nonspacing), (0x962, 0x963, .nonspacing), (0x981, 0x981, .nonspacing),
  (0x9bc, 0x9bc, .nonspacing), (0x9c1, 0x9c4, .nonspacing), (0x9cd, 0x9cd, .nonspacing),
  (0x9e2, 0x9e3, .nonspacing), (0x9f2, 0x9f3, .europeanTerminator),
  (0x9fb, 0x9fb, .europeanTerminator), (0x9fe, 0xa02, .nonspacing), (0xa3c, 0xa3c, .nonspacing),
  (0xa41, 0xa51, .nonspacing), (0xa70, 0xa71, .nonspacing), (0xa75, 0xa75, .nonspacing),
  (0xa81, 0xa82, .nonspacing), (0xabc, 0xabc, .nonspacing), (0xac1, 0xac8, .nonspacing),
  (0xacd, 0xacd, .nonspacing), (0xae2, 0xae3, .nonspacing), (0xaf1, 0xaf1, .europeanTerminator),
  (0xafa, 0xb01, .nonspacing), (0xb3c, 0xb3c, .nonspacing), (0xb3f, 0xb3f, .nonspacing),
  (0xb41, 0xb44, .nonspacing), (0xb4d, 0xb56, .nonspacing), (0xb62, 0xb63, .nonspacing),
  (0xb82, 0xb82, .nonspacing), (0xbc0, 0xbc0, .nonspacing), (0xbcd, 0xbcd, .nonspacing),
  (0xbf3, 0xbf8, .neutral), (0xbf9, 0xbf9, .europeanTerminator), (0xbfa, 0xbfa, .neutral),
  (0xc00, 0xc00, .nonspacing), (0xc04, 0xc04, .nonspacing), (0xc3c, 0xc3c, .nonspacing),
  (0xc3e, 0xc40, .nonspacing), (0xc46, 0xc56, .nonspacing), (0xc62, 0xc63, .nonspacing),
  (0xc78, 0xc7e, .neutral), (0xc81, 0xc81, .nonspacing), (0xcbc, 0xcbc, .nonspacing),
  (0xccc, 0xccd, .nonspacing), (0xce2, 0xce3, .nonspacing), (0xd00, 0xd01, .nonspacing),
  (0xd3b, 0xd3c, .nonspacing), (0xd41, 0xd44, .nonspacing), (0xd4d, 0xd4d, .nonspacing),
  (0xd62, 0xd63, .nonspacing), (0xd81, 0xd81, .nonspacing), (0xdca, 0xdca, .nonspacing),
  (0xdd2, 0xdd6, .nonspacing), (0xe31, 0xe31, .nonspacing), (0xe34, 0xe3a, .nonspacing),
  (0xe3f, 0xe3f, .europeanTerminator), (0xe47, 0xe4e, .nonspacing), (0xeb1, 0xeb1, .nonspacing),
  (0xeb4, 0xebc, .nonspacing), (0xec8, 0xece, .nonspacing), (0xf18, 0xf19, .nonspacing),
  (0xf35, 0xf35, .nonspacing), (0xf37, 0xf37, .nonspacing), (0xf39, 0xf39, .nonspacing),
  (0xf3a, 0xf3d, .neutral), (0xf71, 0xf7e, .nonspacing), (0xf80, 0xf84, .nonspacing),
  (0xf86, 0xf87, .nonspacing), (0xf8d, 0xfbc, .nonspacing), (0xfc6, 0xfc6, .nonspacing),
  (0x102d, 0x1030, .nonspacing), (0x1032, 0x1037, .nonspacing), (0x1039, 0x103a, .nonspacing),
  (0x103d, 0x103e, .nonspacing), (0x1058, 0x1059, .nonspacing), (0x105e, 0x1060, .nonspacing),
  (0x1071, 0x1074, .nonspacing), (0x1082, 0x1082, .nonspacing), (0x1085, 0x1086, .nonspacing),
  (0x108d, 0x108d, .nonspacing), (0x109d, 0x109d, .nonspacing), (0x135d, 0x135f, .nonspacing),
  (0x1390, 0x1399, .neutral), (0x1400, 0x1400, .neutral), (0x169b, 0x169c, .neutral),
  (0x1712, 0x1714, .nonspacing), (0x1732, 0x1733, .nonspacing), (0x1752, 0x1753, .nonspacing),
  (0x1772, 0x1773, .nonspacing), (0x17b7, 0x17bd, .nonspacing), (0x17c6, 0x17c6, .nonspacing),
  (0x17c9, 0x17d3, .nonspacing), (0x17db, 0x17db, .europeanTerminator),
  (0x17dd, 0x17dd, .nonspacing), (0x17f0, 0x180a, .neutral), (0x1885, 0x1886, .nonspacing),
  (0x18a9, 0x18a9, .nonspacing), (0x1920, 0x1922, .nonspacing), (0x1927, 0x1928, .nonspacing),
  (0x1932, 0x1932, .nonspacing), (0x1939, 0x193b, .nonspacing), (0x1940, 0x1945, .neutral),
  (0x19de, 0x19ff, .neutral), (0x1a17, 0x1a18, .nonspacing), (0x1a1b, 0x1a1b, .nonspacing),
  (0x1a56, 0x1a56, .nonspacing), (0x1a58, 0x1a60, .nonspacing), (0x1a62, 0x1a62, .nonspacing),
  (0x1a65, 0x1a6c, .nonspacing), (0x1a73, 0x1a7f, .nonspacing), (0x1ab0, 0x1b03, .nonspacing),
  (0x1b34, 0x1b34, .nonspacing), (0x1b36, 0x1b3a, .nonspacing), (0x1b3c, 0x1b3c, .nonspacing),
  (0x1b42, 0x1b42, .nonspacing), (0x1b6b, 0x1b73, .nonspacing), (0x1b80, 0x1b81, .nonspacing),
  (0x1ba2, 0x1ba5, .nonspacing), (0x1ba8, 0x1ba9, .nonspacing), (0x1bab, 0x1bad, .nonspacing),
  (0x1be6, 0x1be6, .nonspacing), (0x1be8, 0x1be9, .nonspacing), (0x1bed, 0x1bed, .nonspacing),
  (0x1bef, 0x1bf1, .nonspacing), (0x1c2c, 0x1c33, .nonspacing), (0x1c36, 0x1c37, .nonspacing),
  (0x1cd0, 0x1cd2, .nonspacing), (0x1cd4, 0x1ce0, .nonspacing), (0x1ce2, 0x1ce8, .nonspacing),
  (0x1ced, 0x1ced, .nonspacing), (0x1cf4, 0x1cf4, .nonspacing), (0x1cf8, 0x1cf9, .nonspacing),
  (0x1dc0, 0x1dff, .nonspacing), (0x200c, 0x200d, .boundary), (0x2010, 0x2027, .neutral),
  (0x2030, 0x2032, .europeanTerminator), (0x2035, 0x2043, .neutral),
  (0x2044, 0x2044, .commonSeparator), (0x2045, 0x205e, .neutral),
  (0x20a0, 0x20c1, .europeanTerminator), (0x20d0, 0x20f0, .nonspacing),
  (0x2104, 0x2129, .neutral), (0x212e, 0x212e, .europeanTerminator), (0x213a, 0x214d, .neutral),
  (0x218a, 0x2211, .neutral), (0x2212, 0x2212, .europeanSeparator),
  (0x2213, 0x2213, .europeanTerminator), (0x2214, 0x2335, .neutral), (0x237b, 0x2394, .neutral),
  (0x2396, 0x26ab, .neutral), (0x26ad, 0x27ff, .neutral), (0x2900, 0x2bff, .neutral),
  (0x2ce5, 0x2cea, .neutral), (0x2cef, 0x2cf1, .nonspacing), (0x2cf9, 0x2cff, .neutral),
  (0x2d7f, 0x2d7f, .nonspacing), (0x2de0, 0x2dff, .nonspacing), (0x2e00, 0x3004, .neutral),
  (0x3008, 0x3020, .neutral), (0x302a, 0x302d, .nonspacing), (0x3030, 0x3030, .neutral),
  (0x3037, 0x3037, .neutral), (0x303d, 0x303f, .neutral), (0x3099, 0x309a, .nonspacing),
  (0x30a0, 0x30a0, .neutral), (0x30fb, 0x30fb, .neutral), (0x31c0, 0x31e5, .neutral),
  (0x4dc0, 0x4dff, .neutral), (0xa490, 0xa4c6, .neutral), (0xa60d, 0xa60f, .neutral),
  (0xa66f, 0xa672, .nonspacing), (0xa673, 0xa673, .neutral), (0xa674, 0xa67d, .nonspacing),
  (0xa67e, 0xa67f, .neutral), (0xa69e, 0xa69f, .nonspacing), (0xa6f0, 0xa6f1, .nonspacing),
  (0xa700, 0xa721, .neutral), (0xa788, 0xa788, .neutral), (0xa802, 0xa802, .nonspacing),
  (0xa806, 0xa806, .nonspacing), (0xa80b, 0xa80b, .nonspacing), (0xa825, 0xa826, .nonspacing),
  (0xa828, 0xa82b, .neutral), (0xa82c, 0xa82c, .nonspacing),
  (0xa838, 0xa839, .europeanTerminator), (0xa874, 0xa877, .neutral),
  (0xa8c4, 0xa8c5, .nonspacing), (0xa8e0, 0xa8f1, .nonspacing), (0xa8ff, 0xa8ff, .nonspacing),
  (0xa926, 0xa92d, .nonspacing), (0xa947, 0xa951, .nonspacing), (0xa980, 0xa982, .nonspacing),
  (0xa9b3, 0xa9b3, .nonspacing), (0xa9b6, 0xa9b9, .nonspacing), (0xa9bc, 0xa9bd, .nonspacing),
  (0xa9e5, 0xa9e5, .nonspacing), (0xaa29, 0xaa2e, .nonspacing), (0xaa31, 0xaa32, .nonspacing),
  (0xaa35, 0xaa36, .nonspacing), (0xaa43, 0xaa43, .nonspacing), (0xaa4c, 0xaa4c, .nonspacing),
  (0xaa7c, 0xaa7c, .nonspacing), (0xaab0, 0xaab0, .nonspacing), (0xaab2, 0xaab4, .nonspacing),
  (0xaab7, 0xaab8, .nonspacing), (0xaabe, 0xaabf, .nonspacing), (0xaac1, 0xaac1, .nonspacing),
  (0xaaec, 0xaaed, .nonspacing), (0xaaf6, 0xaaf6, .nonspacing), (0xab6a, 0xab6b, .neutral),
  (0xabe5, 0xabe5, .nonspacing), (0xabe8, 0xabe8, .nonspacing), (0xabed, 0xabed, .nonspacing),
  (0xfb1e, 0xfb1e, .nonspacing), (0xfbb2, 0xfbc2, .arabicLetter), (0xfbc3, 0xfdff, .neutral),
  (0xfe20, 0xfe2f, .nonspacing), (0xfe45, 0xfe46, .neutral), (0xfe73, 0xfe73, .arabicLetter),
  (0x10101, 0x10101, .neutral), (0x10140, 0x1018c, .neutral), (0x10190, 0x101a0, .neutral),
  (0x101fd, 0x101fd, .nonspacing), (0x102e0, 0x102e0, .nonspacing),
  (0x102e1, 0x102fb, .europeanNumber), (0x10376, 0x1037a, .nonspacing),
  (0x10800, 0x1091b, .rightToLeft), (0x1091f, 0x1091f, .neutral),
  (0x10920, 0x10a00, .rightToLeft), (0x10a01, 0x10a0f, .nonspacing),
  (0x10a10, 0x10a35, .rightToLeft), (0x10a38, 0x10a3f, .nonspacing),
  (0x10a40, 0x10ae4, .rightToLeft), (0x10ae5, 0x10ae6, .nonspacing),
  (0x10aeb, 0x10b35, .rightToLeft), (0x10b39, 0x10b3f, .neutral),
  (0x10b40, 0x10cff, .rightToLeft), (0x10d00, 0x10d23, .arabicLetter),
  (0x10d24, 0x10d27, .nonspacing), (0x10d30, 0x10d39, .arabicNumber),
  (0x10d40, 0x10d4f, .rightToLeft), (0x10d69, 0x10d6d, .nonspacing), (0x10d6e, 0x10d6e, .neutral),
  (0x10d6f, 0x10d8f, .rightToLeft), (0x10e60, 0x10e7e, .arabicNumber),
  (0x10e80, 0x10ea9, .rightToLeft), (0x10eab, 0x10eac, .nonspacing),
  (0x10ead, 0x10eb1, .rightToLeft), (0x10ec2, 0x10ec7, .arabicLetter),
  (0x10ed0, 0x10ed8, .neutral), (0x10efa, 0x10eff, .nonspacing), (0x10f00, 0x10f27, .rightToLeft),
  (0x10f30, 0x10f45, .arabicLetter), (0x10f46, 0x10f50, .nonspacing),
  (0x10f51, 0x10f59, .arabicLetter), (0x10f70, 0x10f81, .rightToLeft),
  (0x10f82, 0x10f85, .nonspacing), (0x10f86, 0x10ff6, .rightToLeft),
  (0x11001, 0x11001, .nonspacing), (0x11038, 0x11046, .nonspacing), (0x11052, 0x11065, .neutral),
  (0x11070, 0x11070, .nonspacing), (0x11073, 0x11074, .nonspacing),
  (0x1107f, 0x11081, .nonspacing), (0x110b3, 0x110b6, .nonspacing),
  (0x110b9, 0x110ba, .nonspacing), (0x110c2, 0x110c2, .nonspacing),
  (0x11100, 0x11102, .nonspacing), (0x11127, 0x1112b, .nonspacing),
  (0x1112d, 0x11134, .nonspacing), (0x11173, 0x11173, .nonspacing),
  (0x11180, 0x11181, .nonspacing), (0x111b6, 0x111be, .nonspacing),
  (0x111c9, 0x111cc, .nonspacing), (0x111cf, 0x111cf, .nonspacing),
  (0x1122f, 0x11231, .nonspacing), (0x11234, 0x11234, .nonspacing),
  (0x11236, 0x11237, .nonspacing), (0x1123e, 0x1123e, .nonspacing),
  (0x11241, 0x11241, .nonspacing), (0x112df, 0x112df, .nonspacing),
  (0x112e3, 0x112ea, .nonspacing), (0x11300, 0x11301, .nonspacing),
  (0x1133b, 0x1133c, .nonspacing), (0x11340, 0x11340, .nonspacing),
  (0x11366, 0x11374, .nonspacing), (0x113bb, 0x113c0, .nonspacing),
  (0x113ce, 0x113ce, .nonspacing), (0x113d0, 0x113d0, .nonspacing),
  (0x113d2, 0x113d2, .nonspacing), (0x113e1, 0x113e2, .nonspacing),
  (0x11438, 0x1143f, .nonspacing), (0x11442, 0x11444, .nonspacing),
  (0x11446, 0x11446, .nonspacing), (0x1145e, 0x1145e, .nonspacing),
  (0x114b3, 0x114b8, .nonspacing), (0x114ba, 0x114ba, .nonspacing),
  (0x114bf, 0x114c0, .nonspacing), (0x114c2, 0x114c3, .nonspacing),
  (0x115b2, 0x115b5, .nonspacing), (0x115bc, 0x115bd, .nonspacing),
  (0x115bf, 0x115c0, .nonspacing), (0x115dc, 0x115dd, .nonspacing),
  (0x11633, 0x1163a, .nonspacing), (0x1163d, 0x1163d, .nonspacing),
  (0x1163f, 0x11640, .nonspacing), (0x11660, 0x1166c, .neutral), (0x116ab, 0x116ab, .nonspacing),
  (0x116ad, 0x116ad, .nonspacing), (0x116b0, 0x116b5, .nonspacing),
  (0x116b7, 0x116b7, .nonspacing), (0x1171d, 0x1171d, .nonspacing),
  (0x1171f, 0x1171f, .nonspacing), (0x11722, 0x11725, .nonspacing),
  (0x11727, 0x1172b, .nonspacing), (0x1182f, 0x11837, .nonspacing),
  (0x11839, 0x1183a, .nonspacing), (0x1193b, 0x1193c, .nonspacing),
  (0x1193e, 0x1193e, .nonspacing), (0x11943, 0x11943, .nonspacing),
  (0x119d4, 0x119db, .nonspacing), (0x119e0, 0x119e0, .nonspacing),
  (0x11a01, 0x11a06, .nonspacing), (0x11a09, 0x11a0a, .nonspacing),
  (0x11a33, 0x11a38, .nonspacing), (0x11a3b, 0x11a3e, .nonspacing),
  (0x11a47, 0x11a47, .nonspacing), (0x11a51, 0x11a56, .nonspacing),
  (0x11a59, 0x11a5b, .nonspacing), (0x11a8a, 0x11a96, .nonspacing),
  (0x11a98, 0x11a99, .nonspacing), (0x11b60, 0x11b60, .nonspacing),
  (0x11b62, 0x11b64, .nonspacing), (0x11b66, 0x11b66, .nonspacing),
  (0x11c30, 0x11c3d, .nonspacing), (0x11c92, 0x11ca7, .nonspacing),
  (0x11caa, 0x11cb0, .nonspacing), (0x11cb2, 0x11cb3, .nonspacing),
  (0x11cb5, 0x11cb6, .nonspacing), (0x11d31, 0x11d45, .nonspacing),
  (0x11d47, 0x11d47, .nonspacing), (0x11d90, 0x11d91, .nonspacing),
  (0x11d95, 0x11d95, .nonspacing), (0x11d97, 0x11d97, .nonspacing),
  (0x11ef3, 0x11ef4, .nonspacing), (0x11f00, 0x11f01, .nonspacing),
  (0x11f36, 0x11f3a, .nonspacing), (0x11f40, 0x11f40, .nonspacing),
  (0x11f42, 0x11f42, .nonspacing), (0x11f5a, 0x11f5a, .nonspacing), (0x11fd5, 0x11fdc, .neutral),
  (0x11fdd, 0x11fe0, .europeanTerminator), (0x11fe1, 0x11ff1, .neutral),
  (0x13440, 0x13440, .nonspacing), (0x13447, 0x13455, .nonspacing),
  (0x1611e, 0x16129, .nonspacing), (0x1612d, 0x1612f, .nonspacing),
  (0x16af0, 0x16af4, .nonspacing), (0x16b30, 0x16b36, .nonspacing),
  (0x16f4f, 0x16f4f, .nonspacing), (0x16f8f, 0x16f92, .nonspacing), (0x16fe2, 0x16fe2, .neutral),
  (0x16fe4, 0x16fe4, .nonspacing), (0x1bc9d, 0x1bc9e, .nonspacing), (0x1cc00, 0x1cef0, .neutral),
  (0x1cf00, 0x1cf46, .nonspacing), (0x1d167, 0x1d169, .nonspacing),
  (0x1d17b, 0x1d182, .nonspacing), (0x1d185, 0x1d18b, .nonspacing),
  (0x1d1aa, 0x1d1ad, .nonspacing), (0x1d1e9, 0x1d241, .neutral), (0x1d242, 0x1d244, .nonspacing),
  (0x1d245, 0x1d245, .neutral), (0x1d300, 0x1d356, .neutral), (0x1da00, 0x1da36, .nonspacing),
  (0x1da3b, 0x1da6c, .nonspacing), (0x1da75, 0x1da75, .nonspacing),
  (0x1da84, 0x1da84, .nonspacing), (0x1da9b, 0x1daaf, .nonspacing),
  (0x1e000, 0x1e08f, .nonspacing), (0x1e130, 0x1e136, .nonspacing),
  (0x1e2ae, 0x1e2ae, .nonspacing), (0x1e2ec, 0x1e2ef, .nonspacing),
  (0x1e2ff, 0x1e2ff, .europeanTerminator), (0x1e4ec, 0x1e4ef, .nonspacing),
  (0x1e5ee, 0x1e5ef, .nonspacing), (0x1e6e3, 0x1e6e3, .nonspacing),
  (0x1e6e6, 0x1e6e6, .nonspacing), (0x1e6ee, 0x1e6ef, .nonspacing),
  (0x1e6f5, 0x1e6f5, .nonspacing), (0x1e800, 0x1e8cf, .rightToLeft),
  (0x1e8d0, 0x1e8d6, .nonspacing), (0x1e922, 0x1e943, .rightToLeft),
  (0x1e944, 0x1e94a, .nonspacing), (0x1e94b, 0x1e95f, .rightToLeft),
  (0x1ec71, 0x1ed3d, .arabicLetter), (0x1eef0, 0x1f12f, .neutral), (0x1f16d, 0x1f16f, .neutral),
  (0x1f1ad, 0x1f1ad, .neutral), (0x1f260, 0x1fbfa, .neutral)]

/-- The direction of a character. -/
def direction (c : Char) : Direction :=
  (directionRanges.find? c).getD .leftToRight

/-- The character is written from the right. -/
def isRightward (c : Char) : Bool :=
  direction c ∈ [.rightToLeft, .arabicLetter, .arabicNumber]

/-- What may stand inside a label of either direction. -/
def fitsBoth (d : Direction) : Bool :=
  d ∈ [.europeanNumber, .europeanSeparator, .commonSeparator, .europeanTerminator, .neutral,
    .boundary, .nonspacing]

/-- The directions behind the first character keep the direction from the left. -/
def keepsLeft (behind : List Direction) : Bool :=
  behind.getLast?.all (· ∈ [.leftToRight, .europeanNumber]) &&
    behind.dropLast.all fun d => d = .leftToRight || fitsBoth d

/-- The directions behind the first character keep the direction from the right. Numbers of only one
kind may occur. -/
def keepsRight (behind : List Direction) : Bool :=
  behind.getLast?.all (· ∈ [.rightToLeft, .arabicLetter, .europeanNumber, .arabicNumber]) &&
    behind.dropLast.all (fun d =>
      d = .rightToLeft || d = .arabicLetter || d = .arabicNumber || fitsBoth d) &&
    !(.europeanNumber ∈ behind && .arabicNumber ∈ behind)

/-- A label keeps the direction of its first character. Marks at its end do not matter. -/
def keepsDirection (label : List Char) : Bool :=
  match label.map direction with
  | [] => true
  | first :: behind =>
    let behind := (behind.reverse.dropWhile (· = .nonspacing)).reverse
    match first with
    | .leftToRight => keepsLeft behind
    | .rightToLeft | .arabicLetter => keepsRight behind
    | _ => false

end Rollout.Domain
