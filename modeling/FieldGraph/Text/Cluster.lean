import FieldGraph.Text.Runs

/-!
# Extended grapheme clusters

Columns of a scene source count what a reader sees as characters. Between two characters a
cluster ends unless one of the joining rules applies: line ends pair up, Hangul jamo compose
syllables, marks and joiners attach to what precedes them, joined pictographs form one emoji,
and regional indicators pair into flags. Syllables, emoji and flags may have a pictograph joined
to them, other characters not. The tables list change points of each property.
-/

namespace FieldGraph.Text

/-- Change points of the control characters other than carriage return and line feed. -/
def controlBounds : List Nat :=
  [0x0, 0xa, 0xb, 0xd, 0xe, 0x20, 0x7f, 0xa0, 0xad, 0xae, 0x61c, 0x61d, 0x180e, 0x180f, 0x200b,
   0x200c, 0x200e, 0x2010, 0x2028, 0x202f, 0x2060, 0x2070, 0xfeff, 0xff00, 0xfff0, 0xfffc,
   0x13430, 0x13440, 0x1bca0, 0x1bca4, 0x1d173, 0x1d17b, 0xe0000, 0xe0020, 0xe0080, 0xe0100,
   0xe01f0, 0xe1000]

/-- Change points of the characters that open a cluster and join what follows. -/
def prependBounds : List Nat :=
  [0x600, 0x606, 0x6dd, 0x6de, 0x70f, 0x710, 0x890, 0x892, 0x8e2, 0x8e3, 0xd4e, 0xd4f, 0x110bd,
   0x110be, 0x110cd, 0x110ce, 0x111c2, 0x111c4, 0x1193f, 0x11940, 0x11941, 0x11942, 0x11a3a,
   0x11a3b, 0x11a84, 0x11a8a, 0x11d46, 0x11d47, 0x11f02, 0x11f03]

/-- Change points of the spacing marks. -/
def spacingMarkBounds : List Nat :=
  [0x903, 0x904, 0x93b, 0x93c, 0x93e, 0x941, 0x949, 0x94d, 0x94e, 0x950, 0x982, 0x984, 0x9bf,
   0x9c1, 0x9c7, 0x9c9, 0x9cb, 0x9cd, 0xa03, 0xa04, 0xa3e, 0xa41, 0xa83, 0xa84, 0xabe, 0xac1,
   0xac9, 0xaca, 0xacb, 0xacd, 0xb02, 0xb04, 0xb40, 0xb41, 0xb47, 0xb49, 0xb4b, 0xb4d, 0xbbf,
   0xbc0, 0xbc1, 0xbc3, 0xbc6, 0xbc9, 0xbca, 0xbcd, 0xc01, 0xc04, 0xc41, 0xc45, 0xc82, 0xc84,
   0xcbe, 0xcbf, 0xcc0, 0xcc2, 0xcc3, 0xcc5, 0xcc7, 0xcc9, 0xcca, 0xccc, 0xcf3, 0xcf4, 0xd02,
   0xd04, 0xd3f, 0xd41, 0xd46, 0xd49, 0xd4a, 0xd4d, 0xd82, 0xd84, 0xdd0, 0xdd2, 0xdd8, 0xddf,
   0xdf2, 0xdf4, 0xe33, 0xe34, 0xeb3, 0xeb4, 0xf3e, 0xf40, 0xf7f, 0xf80, 0x1031, 0x1032, 0x103b,
   0x103d, 0x1056, 0x1058, 0x1084, 0x1085, 0x1715, 0x1716, 0x1734, 0x1735, 0x17b6, 0x17b7, 0x17be,
   0x17c6, 0x17c7, 0x17c9, 0x1923, 0x1927, 0x1929, 0x192c, 0x1930, 0x1932, 0x1933, 0x1939, 0x1a19,
   0x1a1b, 0x1a55, 0x1a56, 0x1a57, 0x1a58, 0x1a6d, 0x1a73, 0x1b04, 0x1b05, 0x1b3b, 0x1b3c, 0x1b3d,
   0x1b42, 0x1b43, 0x1b45, 0x1b82, 0x1b83, 0x1ba1, 0x1ba2, 0x1ba6, 0x1ba8, 0x1baa, 0x1bab, 0x1be7,
   0x1be8, 0x1bea, 0x1bed, 0x1bee, 0x1bef, 0x1bf2, 0x1bf4, 0x1c24, 0x1c2c, 0x1c34, 0x1c36, 0x1ce1,
   0x1ce2, 0x1cf7, 0x1cf8, 0xa823, 0xa825, 0xa827, 0xa828, 0xa880, 0xa882, 0xa8b4, 0xa8c4, 0xa952,
   0xa954, 0xa983, 0xa984, 0xa9b4, 0xa9b6, 0xa9ba, 0xa9bc, 0xa9be, 0xa9c1, 0xaa2f, 0xaa31, 0xaa33,
   0xaa35, 0xaa4d, 0xaa4e, 0xaaeb, 0xaaec, 0xaaee, 0xaaf0, 0xaaf5, 0xaaf6, 0xabe3, 0xabe5, 0xabe6,
   0xabe8, 0xabe9, 0xabeb, 0xabec, 0xabed, 0x11000, 0x11001, 0x11002, 0x11003, 0x11082, 0x11083,
   0x110b0, 0x110b3, 0x110b7, 0x110b9, 0x1112c, 0x1112d, 0x11145, 0x11147, 0x11182, 0x11183,
   0x111b3, 0x111b6, 0x111bf, 0x111c1, 0x111ce, 0x111cf, 0x1122c, 0x1122f, 0x11232, 0x11234,
   0x11235, 0x11236, 0x112e0, 0x112e3, 0x11302, 0x11304, 0x1133f, 0x11340, 0x11341, 0x11345,
   0x11347, 0x11349, 0x1134b, 0x1134e, 0x11362, 0x11364, 0x11435, 0x11438, 0x11440, 0x11442,
   0x11445, 0x11446, 0x114b1, 0x114b3, 0x114b9, 0x114ba, 0x114bb, 0x114bd, 0x114be, 0x114bf,
   0x114c1, 0x114c2, 0x115b0, 0x115b2, 0x115b8, 0x115bc, 0x115be, 0x115bf, 0x11630, 0x11633,
   0x1163b, 0x1163d, 0x1163e, 0x1163f, 0x116ac, 0x116ad, 0x116ae, 0x116b0, 0x116b6, 0x116b7,
   0x11726, 0x11727, 0x1182c, 0x1182f, 0x11838, 0x11839, 0x11931, 0x11936, 0x11937, 0x11939,
   0x1193d, 0x1193e, 0x11940, 0x11941, 0x11942, 0x11943, 0x119d1, 0x119d4, 0x119dc, 0x119e0,
   0x119e4, 0x119e5, 0x11a39, 0x11a3a, 0x11a57, 0x11a59, 0x11a97, 0x11a98, 0x11c2f, 0x11c30,
   0x11c3e, 0x11c3f, 0x11ca9, 0x11caa, 0x11cb1, 0x11cb2, 0x11cb4, 0x11cb5, 0x11d8a, 0x11d8f,
   0x11d93, 0x11d95, 0x11d96, 0x11d97, 0x11ef5, 0x11ef7, 0x11f03, 0x11f04, 0x11f34, 0x11f36,
   0x11f3e, 0x11f40, 0x11f41, 0x11f42, 0x16f51, 0x16f88, 0x16ff0, 0x16ff2, 0x1d166, 0x1d167,
   0x1d16d, 0x1d16e]

/-- Change points of the combining characters that extend a cluster. -/
def extendBounds : List Nat :=
  [0x300, 0x370, 0x483, 0x48a, 0x591, 0x5be, 0x5bf, 0x5c0, 0x5c1, 0x5c3, 0x5c4, 0x5c6, 0x5c7,
   0x5c8, 0x610, 0x61b, 0x64b, 0x660, 0x670, 0x671, 0x6d6, 0x6dd, 0x6df, 0x6e5, 0x6e7, 0x6e9,
   0x6ea, 0x6ee, 0x711, 0x712, 0x730, 0x74b, 0x7a6, 0x7b1, 0x7eb, 0x7f4, 0x7fd, 0x7fe, 0x816,
   0x81a, 0x81b, 0x824, 0x825, 0x828, 0x829, 0x82e, 0x859, 0x85c, 0x898, 0x8a0, 0x8ca, 0x8e2,
   0x8e3, 0x903, 0x93a, 0x93b, 0x93c, 0x93d, 0x941, 0x949, 0x94d, 0x94e, 0x951, 0x958, 0x962,
   0x964, 0x981, 0x982, 0x9bc, 0x9bd, 0x9be, 0x9bf, 0x9c1, 0x9c5, 0x9cd, 0x9ce, 0x9d7, 0x9d8,
   0x9e2, 0x9e4, 0x9fe, 0x9ff, 0xa01, 0xa03, 0xa3c, 0xa3d, 0xa41, 0xa43, 0xa47, 0xa49, 0xa4b,
   0xa4e, 0xa51, 0xa52, 0xa70, 0xa72, 0xa75, 0xa76, 0xa81, 0xa83, 0xabc, 0xabd, 0xac1, 0xac6,
   0xac7, 0xac9, 0xacd, 0xace, 0xae2, 0xae4, 0xafa, 0xb00, 0xb01, 0xb02, 0xb3c, 0xb3d, 0xb3e,
   0xb40, 0xb41, 0xb45, 0xb4d, 0xb4e, 0xb55, 0xb58, 0xb62, 0xb64, 0xb82, 0xb83, 0xbbe, 0xbbf,
   0xbc0, 0xbc1, 0xbcd, 0xbce, 0xbd7, 0xbd8, 0xc00, 0xc01, 0xc04, 0xc05, 0xc3c, 0xc3d, 0xc3e,
   0xc41, 0xc46, 0xc49, 0xc4a, 0xc4e, 0xc55, 0xc57, 0xc62, 0xc64, 0xc81, 0xc82, 0xcbc, 0xcbd,
   0xcbf, 0xcc0, 0xcc2, 0xcc3, 0xcc6, 0xcc7, 0xccc, 0xcce, 0xcd5, 0xcd7, 0xce2, 0xce4, 0xd00,
   0xd02, 0xd3b, 0xd3d, 0xd3e, 0xd3f, 0xd41, 0xd45, 0xd4d, 0xd4e, 0xd57, 0xd58, 0xd62, 0xd64,
   0xd81, 0xd82, 0xdca, 0xdcb, 0xdcf, 0xdd0, 0xdd2, 0xdd5, 0xdd6, 0xdd7, 0xddf, 0xde0, 0xe31,
   0xe32, 0xe34, 0xe3b, 0xe47, 0xe4f, 0xeb1, 0xeb2, 0xeb4, 0xebd, 0xec8, 0xecf, 0xf18, 0xf1a,
   0xf35, 0xf36, 0xf37, 0xf38, 0xf39, 0xf3a, 0xf71, 0xf7f, 0xf80, 0xf85, 0xf86, 0xf88, 0xf8d,
   0xf98, 0xf99, 0xfbd, 0xfc6, 0xfc7, 0x102d, 0x1031, 0x1032, 0x1038, 0x1039, 0x103b, 0x103d,
   0x103f, 0x1058, 0x105a, 0x105e, 0x1061, 0x1071, 0x1075, 0x1082, 0x1083, 0x1085, 0x1087, 0x108d,
   0x108e, 0x109d, 0x109e, 0x135d, 0x1360, 0x1712, 0x1715, 0x1732, 0x1734, 0x1752, 0x1754, 0x1772,
   0x1774, 0x17b4, 0x17b6, 0x17b7, 0x17be, 0x17c6, 0x17c7, 0x17c9, 0x17d4, 0x17dd, 0x17de, 0x180b,
   0x180e, 0x180f, 0x1810, 0x1885, 0x1887, 0x18a9, 0x18aa, 0x1920, 0x1923, 0x1927, 0x1929, 0x1932,
   0x1933, 0x1939, 0x193c, 0x1a17, 0x1a19, 0x1a1b, 0x1a1c, 0x1a56, 0x1a57, 0x1a58, 0x1a5f, 0x1a60,
   0x1a61, 0x1a62, 0x1a63, 0x1a65, 0x1a6d, 0x1a73, 0x1a7d, 0x1a7f, 0x1a80, 0x1ab0, 0x1acf, 0x1b00,
   0x1b04, 0x1b34, 0x1b3b, 0x1b3c, 0x1b3d, 0x1b42, 0x1b43, 0x1b6b, 0x1b74, 0x1b80, 0x1b82, 0x1ba2,
   0x1ba6, 0x1ba8, 0x1baa, 0x1bab, 0x1bae, 0x1be6, 0x1be7, 0x1be8, 0x1bea, 0x1bed, 0x1bee, 0x1bef,
   0x1bf2, 0x1c2c, 0x1c34, 0x1c36, 0x1c38, 0x1cd0, 0x1cd3, 0x1cd4, 0x1ce1, 0x1ce2, 0x1ce9, 0x1ced,
   0x1cee, 0x1cf4, 0x1cf5, 0x1cf8, 0x1cfa, 0x1dc0, 0x1e00, 0x200c, 0x200d, 0x20d0, 0x20f1, 0x2cef,
   0x2cf2, 0x2d7f, 0x2d80, 0x2de0, 0x2e00, 0x302a, 0x3030, 0x3099, 0x309b, 0xa66f, 0xa673, 0xa674,
   0xa67e, 0xa69e, 0xa6a0, 0xa6f0, 0xa6f2, 0xa802, 0xa803, 0xa806, 0xa807, 0xa80b, 0xa80c, 0xa825,
   0xa827, 0xa82c, 0xa82d, 0xa8c4, 0xa8c6, 0xa8e0, 0xa8f2, 0xa8ff, 0xa900, 0xa926, 0xa92e, 0xa947,
   0xa952, 0xa980, 0xa983, 0xa9b3, 0xa9b4, 0xa9b6, 0xa9ba, 0xa9bc, 0xa9be, 0xa9e5, 0xa9e6, 0xaa29,
   0xaa2f, 0xaa31, 0xaa33, 0xaa35, 0xaa37, 0xaa43, 0xaa44, 0xaa4c, 0xaa4d, 0xaa7c, 0xaa7d, 0xaab0,
   0xaab1, 0xaab2, 0xaab5, 0xaab7, 0xaab9, 0xaabe, 0xaac0, 0xaac1, 0xaac2, 0xaaec, 0xaaee, 0xaaf6,
   0xaaf7, 0xabe5, 0xabe6, 0xabe8, 0xabe9, 0xabed, 0xabee, 0xfb1e, 0xfb1f, 0xfe00, 0xfe10, 0xfe20,
   0xfe30, 0xff9e, 0xffa0, 0x101fd, 0x101fe, 0x102e0, 0x102e1, 0x10376, 0x1037b, 0x10a01, 0x10a04,
   0x10a05, 0x10a07, 0x10a0c, 0x10a10, 0x10a38, 0x10a3b, 0x10a3f, 0x10a40, 0x10ae5, 0x10ae7,
   0x10d24, 0x10d28, 0x10eab, 0x10ead, 0x10efd, 0x10f00, 0x10f46, 0x10f51, 0x10f82, 0x10f86,
   0x11001, 0x11002, 0x11038, 0x11047, 0x11070, 0x11071, 0x11073, 0x11075, 0x1107f, 0x11082,
   0x110b3, 0x110b7, 0x110b9, 0x110bb, 0x110c2, 0x110c3, 0x11100, 0x11103, 0x11127, 0x1112c,
   0x1112d, 0x11135, 0x11173, 0x11174, 0x11180, 0x11182, 0x111b6, 0x111bf, 0x111c9, 0x111cd,
   0x111cf, 0x111d0, 0x1122f, 0x11232, 0x11234, 0x11235, 0x11236, 0x11238, 0x1123e, 0x1123f,
   0x11241, 0x11242, 0x112df, 0x112e0, 0x112e3, 0x112eb, 0x11300, 0x11302, 0x1133b, 0x1133d,
   0x1133e, 0x1133f, 0x11340, 0x11341, 0x11357, 0x11358, 0x11366, 0x1136d, 0x11370, 0x11375,
   0x11438, 0x11440, 0x11442, 0x11445, 0x11446, 0x11447, 0x1145e, 0x1145f, 0x114b0, 0x114b1,
   0x114b3, 0x114b9, 0x114ba, 0x114bb, 0x114bd, 0x114be, 0x114bf, 0x114c1, 0x114c2, 0x114c4,
   0x115af, 0x115b0, 0x115b2, 0x115b6, 0x115bc, 0x115be, 0x115bf, 0x115c1, 0x115dc, 0x115de,
   0x11633, 0x1163b, 0x1163d, 0x1163e, 0x1163f, 0x11641, 0x116ab, 0x116ac, 0x116ad, 0x116ae,
   0x116b0, 0x116b6, 0x116b7, 0x116b8, 0x1171d, 0x11720, 0x11722, 0x11726, 0x11727, 0x1172c,
   0x1182f, 0x11838, 0x11839, 0x1183b, 0x11930, 0x11931, 0x1193b, 0x1193d, 0x1193e, 0x1193f,
   0x11943, 0x11944, 0x119d4, 0x119d8, 0x119da, 0x119dc, 0x119e0, 0x119e1, 0x11a01, 0x11a0b,
   0x11a33, 0x11a39, 0x11a3b, 0x11a3f, 0x11a47, 0x11a48, 0x11a51, 0x11a57, 0x11a59, 0x11a5c,
   0x11a8a, 0x11a97, 0x11a98, 0x11a9a, 0x11c30, 0x11c37, 0x11c38, 0x11c3e, 0x11c3f, 0x11c40,
   0x11c92, 0x11ca8, 0x11caa, 0x11cb1, 0x11cb2, 0x11cb4, 0x11cb5, 0x11cb7, 0x11d31, 0x11d37,
   0x11d3a, 0x11d3b, 0x11d3c, 0x11d3e, 0x11d3f, 0x11d46, 0x11d47, 0x11d48, 0x11d90, 0x11d92,
   0x11d95, 0x11d96, 0x11d97, 0x11d98, 0x11ef3, 0x11ef5, 0x11f00, 0x11f02, 0x11f36, 0x11f3b,
   0x11f40, 0x11f41, 0x11f42, 0x11f43, 0x13440, 0x13441, 0x13447, 0x13456, 0x16af0, 0x16af5,
   0x16b30, 0x16b37, 0x16f4f, 0x16f50, 0x16f8f, 0x16f93, 0x16fe4, 0x16fe5, 0x1bc9d, 0x1bc9f,
   0x1cf00, 0x1cf2e, 0x1cf30, 0x1cf47, 0x1d165, 0x1d166, 0x1d167, 0x1d16a, 0x1d16e, 0x1d173,
   0x1d17b, 0x1d183, 0x1d185, 0x1d18c, 0x1d1aa, 0x1d1ae, 0x1d242, 0x1d245, 0x1da00, 0x1da37,
   0x1da3b, 0x1da6d, 0x1da75, 0x1da76, 0x1da84, 0x1da85, 0x1da9b, 0x1daa0, 0x1daa1, 0x1dab0,
   0x1e000, 0x1e007, 0x1e008, 0x1e019, 0x1e01b, 0x1e022, 0x1e023, 0x1e025, 0x1e026, 0x1e02b,
   0x1e08f, 0x1e090, 0x1e130, 0x1e137, 0x1e2ae, 0x1e2af, 0x1e2ec, 0x1e2f0, 0x1e4ec, 0x1e4f0,
   0x1e8d0, 0x1e8d7, 0x1e944, 0x1e94b, 0x1f3fb, 0x1f400, 0xe0020, 0xe0080, 0xe0100, 0xe01f0]

/-- Change points of the pictographs that zero width joiners glue together. -/
def pictographBounds : List Nat :=
  [0xa9, 0xaa, 0xae, 0xaf, 0x203c, 0x203d, 0x2049, 0x204a, 0x2122, 0x2123, 0x2139, 0x213a, 0x2194,
   0x219a, 0x21a9, 0x21ab, 0x231a, 0x231c, 0x2328, 0x2329, 0x2388, 0x2389, 0x23cf, 0x23d0, 0x23e9,
   0x23f4, 0x23f8, 0x23fb, 0x24c2, 0x24c3, 0x25aa, 0x25ac, 0x25b6, 0x25b7, 0x25c0, 0x25c1, 0x25fb,
   0x25ff, 0x2600, 0x2606, 0x2607, 0x2613, 0x2614, 0x2686, 0x2690, 0x2706, 0x2708, 0x2713, 0x2714,
   0x2715, 0x2716, 0x2717, 0x271d, 0x271e, 0x2721, 0x2722, 0x2728, 0x2729, 0x2733, 0x2735, 0x2744,
   0x2745, 0x2747, 0x2748, 0x274c, 0x274d, 0x274e, 0x274f, 0x2753, 0x2756, 0x2757, 0x2758, 0x2763,
   0x2768, 0x2795, 0x2798, 0x27a1, 0x27a2, 0x27b0, 0x27b1, 0x27bf, 0x27c0, 0x2934, 0x2936, 0x2b05,
   0x2b08, 0x2b1b, 0x2b1d, 0x2b50, 0x2b51, 0x2b55, 0x2b56, 0x3030, 0x3031, 0x303d, 0x303e, 0x3297,
   0x3298, 0x3299, 0x329a, 0x1f000, 0x1f100, 0x1f10d, 0x1f110, 0x1f12f, 0x1f130, 0x1f16c, 0x1f172,
   0x1f17e, 0x1f180, 0x1f18e, 0x1f18f, 0x1f191, 0x1f19b, 0x1f1ad, 0x1f1e6, 0x1f201, 0x1f210,
   0x1f21a, 0x1f21b, 0x1f22f, 0x1f230, 0x1f232, 0x1f23b, 0x1f23c, 0x1f240, 0x1f249, 0x1f3fb,
   0x1f400, 0x1f53e, 0x1f546, 0x1f650, 0x1f680, 0x1f700, 0x1f774, 0x1f780, 0x1f7d5, 0x1f800,
   0x1f80c, 0x1f810, 0x1f848, 0x1f850, 0x1f85a, 0x1f860, 0x1f888, 0x1f890, 0x1f8ae, 0x1f900,
   0x1f90c, 0x1f93b, 0x1f93c, 0x1f946, 0x1f947, 0x1fb00, 0x1fc00, 0x1fffe]

/-- The role a character plays in cluster breaking. -/
inductive ClusterRole where
  | carriageReturn | lineFeed | control | extend | joiner | indicator | opener | spacing
  | leading | vowel | trailing | syllable | closedSyllable | pictograph | other
  deriving DecidableEq, Repr

/-- Whether a code point lies in a closed range. -/
private def within (code low high : Nat) : Bool := low ≤ code && code ≤ high

/-- The role of a character. Precomposed Hangul syllables are laid out in blocks of 28, of which
the first has no final consonant. The replacement character stands alone, like a control. -/
def ClusterRole.of (c : Char) : ClusterRole :=
  let code := c.toNat
  if code = 0x0d then .carriageReturn
  else if code = 0x0a then .lineFeed
  else if within code 0x20 0x7e then .other
  else if code = 0x200d then .joiner
  else if within code 0x1f1e6 0x1f1ff then .indicator
  else if within code 0x1100 0x115f || within code 0xa960 0xa97c then .leading
  else if within code 0x1160 0x11a7 || within code 0xd7b0 0xd7c6 then .vowel
  else if within code 0x11a8 0x11ff || within code 0xd7cb 0xd7fb then .trailing
  else if within code 0xac00 0xd7a3 then
    if (code - 0xac00) % 28 = 0 then .syllable else .closedSyllable
  else if code = 0xfffd || inRuns controlBounds code then .control
  else if inRuns extendBounds code then .extend
  else if inRuns spacingMarkBounds code then .spacing
  else if inRuns prependBounds code then .opener
  else if inRuns pictographBounds code then .pictograph
  else .other

/-- What of the current cluster decides what may follow. -/
inductive ClusterState where
  /-- Nothing. -/
  | closed
  /-- A line feed, after a carriage return. -/
  | returned
  /-- Any cluster but a control character, after characters that open one. -/
  | opening
  /-- More of a syllable, after leading consonants. -/
  | leads
  /-- Vowels, after leading consonants and an open syllable. -/
  | ledSyllable
  /-- Vowels and trailing consonants, after an open syllable. -/
  | openSyllable
  /-- Vowels and trailing consonants, after a vowel. -/
  | vowels
  /-- Trailing consonants. -/
  | tails
  /-- A second regional indicator. -/
  | flag
  /-- Marks and joiners and, right after a joiner, a pictograph. -/
  | glued (joiner : Bool)
  /-- Marks and joiners. -/
  | plain
  deriving DecidableEq, Repr

namespace ClusterState

/-- The state after the first character of a cluster. -/
def start : ClusterRole → ClusterState
  | .carriageReturn => returned
  | .lineFeed | .control => closed
  | .opener => opening
  | .leading => leads
  | .syllable => openSyllable
  | .vowel => vowels
  | .closedSyllable | .trailing => tails
  | .indicator => flag
  | .pictograph => glued false
  | .extend | .joiner | .spacing | .other => plain

/-- The state after a mark, a joiner or a joined pictograph. -/
def glue (joiner : Bool) : ClusterRole → Option ClusterState
  | .extend | .spacing => some (glued false)
  | .joiner => some (glued true)
  | .pictograph => if joiner then some (glued false) else none
  | _ => none

/-- The state after one more character, if it belongs to the same cluster. -/
def next? : ClusterState → ClusterRole → Option ClusterState
  | closed, _ => none
  | returned, .lineFeed => some closed
  | returned, _ => none
  | opening, .carriageReturn | opening, .lineFeed | opening, .control => none
  | opening, role => some (start role)
  | leads, .leading => some leads
  | leads, .syllable => some ledSyllable
  | leads, .closedSyllable => some tails
  | leads, .vowel | ledSyllable, .vowel | openSyllable, .vowel | vowels, .vowel => some vowels
  | openSyllable, .trailing | vowels, .trailing | tails, .trailing => some tails
  | flag, .indicator => some (glued false)
  | plain, .extend | plain, .spacing | plain, .joiner => some plain
  | plain, _ => none
  | glued joiner, role => glue joiner role
  | _, role => glue false role

end ClusterState

/-- Count the clusters that begin in the rest of a text, inside the cluster described. -/
def clustersAfter (s : ClusterState) : List Char → Nat
  | [] => 0
  | c :: rest =>
      let role := ClusterRole.of c
      match s.next? role with
      | some s => clustersAfter s rest
      | none => 1 + clustersAfter (.start role) rest

/-- The number of extended grapheme clusters of a text. -/
def clusterCount : List Char → Nat
  | [] => 0
  | c :: rest => 1 + clustersAfter (.start (.of c)) rest

/-- What follows the cluster described. -/
def afterCluster (s : ClusterState) : List Char → List Char
  | [] => []
  | c :: rest =>
      match s.next? (.of c) with
      | some s => afterCluster s rest
      | none => c :: rest

/-- A text without its first clusters. -/
def dropClusters : Nat → List Char → List Char
  | 0, text => text
  | _ + 1, [] => []
  | n + 1, c :: rest => dropClusters n (afterCluster (.start (.of c)) rest)

end FieldGraph.Text
