/-
Characters that differ in case only.
-/
namespace MailFilter.Text

/-- Rows `(first, last, shift)` of characters with one other case, which stands `shift` places
further on; a shift of zero marks a run of neighbours that are each other's other case. -/
def foldRuns : Array (Nat × Nat × Int) := #[
  (0x41, 0x4A, 32), (0x4C, 0x52, 32), (0x54, 0x5A, 32), (0x61, 0x6A, -32), (0x6C, 0x72, -32),
  (0x74, 0x7A, -32), (0xC0, 0xC4, 32), (0xC6, 0xD6, 32), (0xD8, 0xDE, 32), (0xDF, 0xDF, 7615),
  (0xE0, 0xE4, -32), (0xE6, 0xF6, -32), (0xF8, 0xFE, -32), (0xFF, 0xFF, 121), (0x100, 0x12F, 0),
  (0x132, 0x137, 0), (0x139, 0x148, 0), (0x14A, 0x177, 0), (0x178, 0x178, -121),
  (0x179, 0x17E, 0), (0x180, 0x180, 195), (0x181, 0x181, 210), (0x182, 0x185, 0),
  (0x186, 0x186, 206), (0x187, 0x188, 0), (0x189, 0x18A, 205), (0x18B, 0x18C, 0),
  (0x18E, 0x18E, 79), (0x18F, 0x18F, 202), (0x190, 0x190, 203), (0x191, 0x192, 0),
  (0x193, 0x193, 205), (0x194, 0x194, 207), (0x195, 0x195, 97), (0x196, 0x196, 211),
  (0x197, 0x197, 209), (0x198, 0x199, 0), (0x19A, 0x19A, 163), (0x19B, 0x19B, 42561),
  (0x19C, 0x19C, 211), (0x19D, 0x19D, 213), (0x19E, 0x19E, 130), (0x19F, 0x19F, 214),
  (0x1A0, 0x1A5, 0), (0x1A6, 0x1A6, 218), (0x1A7, 0x1A8, 0), (0x1A9, 0x1A9, 218),
  (0x1AC, 0x1AD, 0), (0x1AE, 0x1AE, 218), (0x1AF, 0x1B0, 0), (0x1B1, 0x1B2, 217),
  (0x1B3, 0x1B6, 0), (0x1B7, 0x1B7, 219), (0x1B8, 0x1B9, 0), (0x1BC, 0x1BD, 0),
  (0x1BF, 0x1BF, 56), (0x1CD, 0x1DC, 0), (0x1DD, 0x1DD, -79), (0x1DE, 0x1EF, 0),
  (0x1F4, 0x1F5, 0), (0x1F6, 0x1F6, -97), (0x1F7, 0x1F7, -56), (0x1F8, 0x21F, 0),
  (0x220, 0x220, -130), (0x222, 0x233, 0), (0x23A, 0x23A, 10795), (0x23B, 0x23C, 0),
  (0x23D, 0x23D, -163), (0x23E, 0x23E, 10792), (0x23F, 0x240, 10815), (0x241, 0x242, 0),
  (0x243, 0x243, -195), (0x244, 0x244, 69), (0x245, 0x245, 71), (0x246, 0x24F, 0),
  (0x250, 0x250, 10783), (0x251, 0x251, 10780), (0x252, 0x252, 10782), (0x253, 0x253, -210),
  (0x254, 0x254, -206), (0x256, 0x257, -205), (0x259, 0x259, -202), (0x25B, 0x25B, -203),
  (0x25C, 0x25C, 42319), (0x260, 0x260, -205), (0x261, 0x261, 42315), (0x263, 0x263, -207),
  (0x264, 0x264, 42343), (0x265, 0x265, 42280), (0x266, 0x266, 42308), (0x268, 0x268, -209),
  (0x269, 0x269, -211), (0x26A, 0x26A, 42308), (0x26B, 0x26B, 10743), (0x26C, 0x26C, 42305),
  (0x26F, 0x26F, -211), (0x271, 0x271, 10749), (0x272, 0x272, -213), (0x275, 0x275, -214),
  (0x27D, 0x27D, 10727), (0x280, 0x280, -218), (0x282, 0x282, 42307), (0x283, 0x283, -218),
  (0x287, 0x287, 42282), (0x288, 0x288, -218), (0x289, 0x289, -69), (0x28A, 0x28B, -217),
  (0x28C, 0x28C, -71), (0x292, 0x292, -219), (0x29D, 0x29D, 42261), (0x29E, 0x29E, 42258),
  (0x370, 0x373, 0), (0x376, 0x377, 0), (0x37B, 0x37D, 130), (0x37F, 0x37F, 116),
  (0x386, 0x386, 38), (0x388, 0x38A, 37), (0x38C, 0x38C, 64), (0x38E, 0x38F, 63),
  (0x390, 0x390, 7235), (0x391, 0x391, 32), (0x393, 0x394, 32), (0x396, 0x397, 32),
  (0x39B, 0x39B, 32), (0x39D, 0x39F, 32), (0x3A4, 0x3A5, 32), (0x3A7, 0x3A8, 32),
  (0x3AA, 0x3AB, 32), (0x3AC, 0x3AC, -38), (0x3AD, 0x3AF, -37), (0x3B0, 0x3B0, 7219),
  (0x3B1, 0x3B1, -32), (0x3B3, 0x3B4, -32), (0x3B6, 0x3B7, -32), (0x3BB, 0x3BB, -32),
  (0x3BD, 0x3BF, -32), (0x3C4, 0x3C5, -32), (0x3C7, 0x3C8, -32), (0x3CA, 0x3CB, -32),
  (0x3CC, 0x3CC, -64), (0x3CD, 0x3CE, -63), (0x3CF, 0x3CF, 8), (0x3D7, 0x3D7, -8),
  (0x3D8, 0x3EF, 0), (0x3F2, 0x3F2, 7), (0x3F3, 0x3F3, -116), (0x3F7, 0x3F8, 0),
  (0x3F9, 0x3F9, -7), (0x3FA, 0x3FB, 0), (0x3FD, 0x3FF, -130), (0x400, 0x40F, 80),
  (0x410, 0x411, 32), (0x413, 0x413, 32), (0x415, 0x41D, 32), (0x41F, 0x420, 32),
  (0x423, 0x429, 32), (0x42B, 0x42F, 32), (0x430, 0x431, -32), (0x433, 0x433, -32),
  (0x435, 0x43D, -32), (0x43F, 0x440, -32), (0x443, 0x449, -32), (0x44B, 0x44F, -32),
  (0x450, 0x45F, -80), (0x460, 0x461, 0), (0x464, 0x481, 0), (0x48A, 0x4BF, 0),
  (0x4C0, 0x4C0, 15), (0x4C1, 0x4CE, 0), (0x4CF, 0x4CF, -15), (0x4D0, 0x52F, 0),
  (0x531, 0x556, 48), (0x561, 0x586, -48), (0x10A0, 0x10C5, 7264), (0x10C7, 0x10C7, 7264),
  (0x10CD, 0x10CD, 7264), (0x10D0, 0x10FA, 3008), (0x10FD, 0x10FF, 3008), (0x13A0, 0x13EF, 38864),
  (0x13F0, 0x13F5, 8), (0x13F8, 0x13FD, -8), (0x1C89, 0x1C8A, 0), (0x1C90, 0x1CBA, -3008),
  (0x1CBD, 0x1CBF, -3008), (0x1D79, 0x1D79, 35332), (0x1D7D, 0x1D7D, 3814),
  (0x1D8E, 0x1D8E, 35384), (0x1E00, 0x1E5F, 0), (0x1E62, 0x1E95, 0), (0x1E9E, 0x1E9E, -7615),
  (0x1EA0, 0x1EFF, 0), (0x1F00, 0x1F07, 8), (0x1F08, 0x1F0F, -8), (0x1F10, 0x1F15, 8),
  (0x1F18, 0x1F1D, -8), (0x1F20, 0x1F27, 8), (0x1F28, 0x1F2F, -8), (0x1F30, 0x1F37, 8),
  (0x1F38, 0x1F3F, -8), (0x1F40, 0x1F45, 8), (0x1F48, 0x1F4D, -8), (0x1F51, 0x1F51, 8),
  (0x1F53, 0x1F53, 8), (0x1F55, 0x1F55, 8), (0x1F57, 0x1F57, 8), (0x1F59, 0x1F59, -8),
  (0x1F5B, 0x1F5B, -8), (0x1F5D, 0x1F5D, -8), (0x1F5F, 0x1F5F, -8), (0x1F60, 0x1F67, 8),
  (0x1F68, 0x1F6F, -8), (0x1F70, 0x1F71, 74), (0x1F72, 0x1F75, 86), (0x1F76, 0x1F77, 100),
  (0x1F78, 0x1F79, 128), (0x1F7A, 0x1F7B, 112), (0x1F7C, 0x1F7D, 126), (0x1F80, 0x1F87, 8),
  (0x1F88, 0x1F8F, -8), (0x1F90, 0x1F97, 8), (0x1F98, 0x1F9F, -8), (0x1FA0, 0x1FA7, 8),
  (0x1FA8, 0x1FAF, -8), (0x1FB0, 0x1FB1, 8), (0x1FB3, 0x1FB3, 9), (0x1FB8, 0x1FB9, -8),
  (0x1FBA, 0x1FBB, -74), (0x1FBC, 0x1FBC, -9), (0x1FC3, 0x1FC3, 9), (0x1FC8, 0x1FCB, -86),
  (0x1FCC, 0x1FCC, -9), (0x1FD0, 0x1FD1, 8), (0x1FD3, 0x1FD3, -7235), (0x1FD8, 0x1FD9, -8),
  (0x1FDA, 0x1FDB, -100), (0x1FE0, 0x1FE1, 8), (0x1FE3, 0x1FE3, -7219), (0x1FE5, 0x1FE5, 7),
  (0x1FE8, 0x1FE9, -8), (0x1FEA, 0x1FEB, -112), (0x1FEC, 0x1FEC, -7), (0x1FF3, 0x1FF3, 9),
  (0x1FF8, 0x1FF9, -128), (0x1FFA, 0x1FFB, -126), (0x1FFC, 0x1FFC, -9), (0x2132, 0x2132, 28),
  (0x214E, 0x214E, -28), (0x2160, 0x216F, 16), (0x2170, 0x217F, -16), (0x2183, 0x2184, 0),
  (0x24B6, 0x24CF, 26), (0x24D0, 0x24E9, -26), (0x2C00, 0x2C2F, 48), (0x2C30, 0x2C5F, -48),
  (0x2C60, 0x2C61, 0), (0x2C62, 0x2C62, -10743), (0x2C63, 0x2C63, -3814),
  (0x2C64, 0x2C64, -10727), (0x2C65, 0x2C65, -10795), (0x2C66, 0x2C66, -10792),
  (0x2C67, 0x2C6C, 0), (0x2C6D, 0x2C6D, -10780), (0x2C6E, 0x2C6E, -10749),
  (0x2C6F, 0x2C6F, -10783), (0x2C70, 0x2C70, -10782), (0x2C72, 0x2C73, 0), (0x2C75, 0x2C76, 0),
  (0x2C7E, 0x2C7F, -10815), (0x2C80, 0x2CE3, 0), (0x2CEB, 0x2CEE, 0), (0x2CF2, 0x2CF3, 0),
  (0x2D00, 0x2D25, -7264), (0x2D27, 0x2D27, -7264), (0x2D2D, 0x2D2D, -7264), (0xA640, 0xA649, 0),
  (0xA64C, 0xA66D, 0), (0xA680, 0xA69B, 0), (0xA722, 0xA72F, 0), (0xA732, 0xA76F, 0),
  (0xA779, 0xA77C, 0), (0xA77D, 0xA77D, -35332), (0xA77E, 0xA787, 0), (0xA78B, 0xA78C, 0),
  (0xA78D, 0xA78D, -42280), (0xA790, 0xA793, 0), (0xA794, 0xA794, 48), (0xA796, 0xA7A9, 0),
  (0xA7AA, 0xA7AA, -42308), (0xA7AB, 0xA7AB, -42319), (0xA7AC, 0xA7AC, -42315),
  (0xA7AD, 0xA7AD, -42305), (0xA7AE, 0xA7AE, -42308), (0xA7B0, 0xA7B0, -42258),
  (0xA7B1, 0xA7B1, -42282), (0xA7B2, 0xA7B2, -42261), (0xA7B3, 0xA7B3, 928), (0xA7B4, 0xA7C3, 0),
  (0xA7C4, 0xA7C4, -48), (0xA7C5, 0xA7C5, -42307), (0xA7C6, 0xA7C6, -35384), (0xA7C7, 0xA7CA, 0),
  (0xA7CB, 0xA7CB, -42343), (0xA7CC, 0xA7CD, 0), (0xA7D0, 0xA7D1, 0), (0xA7D6, 0xA7DB, 0),
  (0xA7DC, 0xA7DC, -42561), (0xA7F5, 0xA7F6, 0), (0xAB53, 0xAB53, -928), (0xAB70, 0xABBF, -38864),
  (0xFB05, 0xFB06, 0), (0xFF21, 0xFF3A, 32), (0xFF41, 0xFF5A, -32), (0x10400, 0x10427, 40),
  (0x10428, 0x1044F, -40), (0x104B0, 0x104D3, 40), (0x104D8, 0x104FB, -40),
  (0x10570, 0x1057A, 39), (0x1057C, 0x1058A, 39), (0x1058C, 0x10592, 39), (0x10594, 0x10595, 39),
  (0x10597, 0x105A1, -39), (0x105A3, 0x105B1, -39), (0x105B3, 0x105B9, -39),
  (0x105BB, 0x105BC, -39), (0x10C80, 0x10CB2, 64), (0x10CC0, 0x10CF2, -64),
  (0x10D50, 0x10D65, 32), (0x10D70, 0x10D85, -32), (0x118A0, 0x118BF, 32),
  (0x118C0, 0x118DF, -32), (0x16E40, 0x16E5F, 32), (0x16E60, 0x16E7F, -32),
  (0x1E900, 0x1E921, 34), (0x1E922, 0x1E943, -34)]

/-- The families of three or more characters that differ in case only. -/
def foldFamilies : List (List Nat) := [
  [0x4B, 0x6B, 0x212A], [0x53, 0x73, 0x17F], [0xB5, 0x39C, 0x3BC], [0xC5, 0xE5, 0x212B],
  [0x1C4, 0x1C5, 0x1C6], [0x1C7, 0x1C8, 0x1C9], [0x1CA, 0x1CB, 0x1CC], [0x1F1, 0x1F2, 0x1F3],
  [0x345, 0x399, 0x3B9, 0x1FBE], [0x392, 0x3B2, 0x3D0], [0x395, 0x3B5, 0x3F5],
  [0x398, 0x3B8, 0x3D1, 0x3F4], [0x39A, 0x3BA, 0x3F0], [0x3A0, 0x3C0, 0x3D6],
  [0x3A1, 0x3C1, 0x3F1], [0x3A3, 0x3C2, 0x3C3], [0x3A6, 0x3C6, 0x3D5], [0x3A9, 0x3C9, 0x2126],
  [0x412, 0x432, 0x1C80], [0x414, 0x434, 0x1C81], [0x41E, 0x43E, 0x1C82], [0x421, 0x441, 0x1C83],
  [0x422, 0x442, 0x1C84, 0x1C85], [0x42A, 0x44A, 0x1C86], [0x462, 0x463, 0x1C87],
  [0x1C88, 0xA64A, 0xA64B], [0x1E60, 0x1E61, 0x1E9B]]

end MailFilter.Text
