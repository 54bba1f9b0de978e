/-!
# Canonical compositions and combining classes

The pairs of characters that compose into one, and the combining classes that
decide the order of marks after a base character.  Hangul syllables are left
out: they are put together by arithmetic.
-/

namespace Prospectus.Text.Canonical

/-- A pair of code points as one number, the first counting most. -/
def pairKey (first second : Nat) : Nat := first * 0x200000 + second

/-- Composing pairs by their `pairKey`, in increasing order, with the character
they make. -/
def compositionTable : Array (Nat × Nat) := #[
  (0x7800338, 0x226E), (0x7A00338, 0x2260), (0x7C00338, 0x226F),
  (0x8200300, 0xC0), (0x8200301, 0xC1), (0x8200302, 0xC2), (0x8200303, 0xC3),
  (0x8200304, 0x100), (0x8200306, 0x102), (0x8200307, 0x226), (0x8200308, 0xC4),
  (0x8200309, 0x1EA2), (0x820030A, 0xC5), (0x820030C, 0x1CD),
  (0x820030F, 0x200), (0x8200311, 0x202), (0x8200323, 0x1EA0),
  (0x8200325, 0x1E00), (0x8200328, 0x104), (0x8400307, 0x1E02),
  (0x8400323, 0x1E04), (0x8400331, 0x1E06), (0x8600301, 0x106),
  (0x8600302, 0x108), (0x8600307, 0x10A), (0x860030C, 0x10C), (0x8600327, 0xC7),
  (0x8800307, 0x1E0A), (0x880030C, 0x10E), (0x8800323, 0x1E0C),
  (0x8800327, 0x1E10), (0x880032D, 0x1E12), (0x8800331, 0x1E0E),
  (0x8A00300, 0xC8), (0x8A00301, 0xC9), (0x8A00302, 0xCA), (0x8A00303, 0x1EBC),
  (0x8A00304, 0x112), (0x8A00306, 0x114), (0x8A00307, 0x116), (0x8A00308, 0xCB),
  (0x8A00309, 0x1EBA), (0x8A0030C, 0x11A), (0x8A0030F, 0x204),
  (0x8A00311, 0x206), (0x8A00323, 0x1EB8), (0x8A00327, 0x228),
  (0x8A00328, 0x118), (0x8A0032D, 0x1E18), (0x8A00330, 0x1E1A),
  (0x8C00307, 0x1E1E), (0x8E00301, 0x1F4), (0x8E00302, 0x11C),
  (0x8E00304, 0x1E20), (0x8E00306, 0x11E), (0x8E00307, 0x120),
  (0x8E0030C, 0x1E6), (0x8E00327, 0x122), (0x9000302, 0x124),
  (0x9000307, 0x1E22), (0x9000308, 0x1E26), (0x900030C, 0x21E),
  (0x9000323, 0x1E24), (0x9000327, 0x1E28), (0x900032E, 0x1E2A),
  (0x9200300, 0xCC), (0x9200301, 0xCD), (0x9200302, 0xCE), (0x9200303, 0x128),
  (0x9200304, 0x12A), (0x9200306, 0x12C), (0x9200307, 0x130), (0x9200308, 0xCF),
  (0x9200309, 0x1EC8), (0x920030C, 0x1CF), (0x920030F, 0x208),
  (0x9200311, 0x20A), (0x9200323, 0x1ECA), (0x9200328, 0x12E),
  (0x9200330, 0x1E2C), (0x9400302, 0x134), (0x9600301, 0x1E30),
  (0x960030C, 0x1E8), (0x9600323, 0x1E32), (0x9600327, 0x136),
  (0x9600331, 0x1E34), (0x9800301, 0x139), (0x980030C, 0x13D),
  (0x9800323, 0x1E36), (0x9800327, 0x13B), (0x980032D, 0x1E3C),
  (0x9800331, 0x1E3A), (0x9A00301, 0x1E3E), (0x9A00307, 0x1E40),
  (0x9A00323, 0x1E42), (0x9C00300, 0x1F8), (0x9C00301, 0x143),
  (0x9C00303, 0xD1), (0x9C00307, 0x1E44), (0x9C0030C, 0x147),
  (0x9C00323, 0x1E46), (0x9C00327, 0x145), (0x9C0032D, 0x1E4A),
  (0x9C00331, 0x1E48), (0x9E00300, 0xD2), (0x9E00301, 0xD3), (0x9E00302, 0xD4),
  (0x9E00303, 0xD5), (0x9E00304, 0x14C), (0x9E00306, 0x14E), (0x9E00307, 0x22E),
  (0x9E00308, 0xD6), (0x9E00309, 0x1ECE), (0x9E0030B, 0x150),
  (0x9E0030C, 0x1D1), (0x9E0030F, 0x20C), (0x9E00311, 0x20E),
  (0x9E0031B, 0x1A0), (0x9E00323, 0x1ECC), (0x9E00328, 0x1EA),
  (0xA000301, 0x1E54), (0xA000307, 0x1E56), (0xA400301, 0x154),
  (0xA400307, 0x1E58), (0xA40030C, 0x158), (0xA40030F, 0x210),
  (0xA400311, 0x212), (0xA400323, 0x1E5A), (0xA400327, 0x156),
  (0xA400331, 0x1E5E), (0xA600301, 0x15A), (0xA600302, 0x15C),
  (0xA600307, 0x1E60), (0xA60030C, 0x160), (0xA600323, 0x1E62),
  (0xA600326, 0x218), (0xA600327, 0x15E), (0xA800307, 0x1E6A),
  (0xA80030C, 0x164), (0xA800323, 0x1E6C), (0xA800326, 0x21A),
  (0xA800327, 0x162), (0xA80032D, 0x1E70), (0xA800331, 0x1E6E),
  (0xAA00300, 0xD9), (0xAA00301, 0xDA), (0xAA00302, 0xDB), (0xAA00303, 0x168),
  (0xAA00304, 0x16A), (0xAA00306, 0x16C), (0xAA00308, 0xDC),
  (0xAA00309, 0x1EE6), (0xAA0030A, 0x16E), (0xAA0030B, 0x170),
  (0xAA0030C, 0x1D3), (0xAA0030F, 0x214), (0xAA00311, 0x216),
  (0xAA0031B, 0x1AF), (0xAA00323, 0x1EE4), (0xAA00324, 0x1E72),
  (0xAA00328, 0x172), (0xAA0032D, 0x1E76), (0xAA00330, 0x1E74),
  (0xAC00303, 0x1E7C), (0xAC00323, 0x1E7E), (0xAE00300, 0x1E80),
  (0xAE00301, 0x1E82), (0xAE00302, 0x174), (0xAE00307, 0x1E86),
  (0xAE00308, 0x1E84), (0xAE00323, 0x1E88), (0xB000307, 0x1E8A),
  (0xB000308, 0x1E8C), (0xB200300, 0x1EF2), (0xB200301, 0xDD),
  (0xB200302, 0x176), (0xB200303, 0x1EF8), (0xB200304, 0x232),
  (0xB200307, 0x1E8E), (0xB200308, 0x178), (0xB200309, 0x1EF6),
  (0xB200323, 0x1EF4), (0xB400301, 0x179), (0xB400302, 0x1E90),
  (0xB400307, 0x17B), (0xB40030C, 0x17D), (0xB400323, 0x1E92),
  (0xB400331, 0x1E94), (0xC200300, 0xE0), (0xC200301, 0xE1), (0xC200302, 0xE2),
  (0xC200303, 0xE3), (0xC200304, 0x101), (0xC200306, 0x103), (0xC200307, 0x227),
  (0xC200308, 0xE4), (0xC200309, 0x1EA3), (0xC20030A, 0xE5), (0xC20030C, 0x1CE),
  (0xC20030F, 0x201), (0xC200311, 0x203), (0xC200323, 0x1EA1),
  (0xC200325, 0x1E01), (0xC200328, 0x105), (0xC400307, 0x1E03),
  (0xC400323, 0x1E05), (0xC400331, 0x1E07), (0xC600301, 0x107),
  (0xC600302, 0x109), (0xC600307, 0x10B), (0xC60030C, 0x10D), (0xC600327, 0xE7),
  (0xC800307, 0x1E0B), (0xC80030C, 0x10F), (0xC800323, 0x1E0D),
  (0xC800327, 0x1E11), (0xC80032D, 0x1E13), (0xC800331, 0x1E0F),
  (0xCA00300, 0xE8), (0xCA00301, 0xE9), (0xCA00302, 0xEA), (0xCA00303, 0x1EBD),
  (0xCA00304, 0x113), (0xCA00306, 0x115), (0xCA00307, 0x117), (0xCA00308, 0xEB),
  (0xCA00309, 0x1EBB), (0xCA0030C, 0x11B), (0xCA0030F, 0x205),
  (0xCA00311, 0x207), (0xCA00323, 0x1EB9), (0xCA00327, 0x229),
  (0xCA00328, 0x119), (0xCA0032D, 0x1E19), (0xCA00330, 0x1E1B),
  (0xCC00307, 0x1E1F), (0xCE00301, 0x1F5), (0xCE00302, 0x11D),
  (0xCE00304, 0x1E21), (0xCE00306, 0x11F), (0xCE00307, 0x121),
  (0xCE0030C, 0x1E7), (0xCE00327, 0x123), (0xD000302, 0x125),
  (0xD000307, 0x1E23), (0xD000308, 0x1E27), (0xD00030C, 0x21F),
  (0xD000323, 0x1E25), (0xD000327, 0x1E29), (0xD00032E, 0x1E2B),
  (0xD000331, 0x1E96), (0xD200300, 0xEC), (0xD200301, 0xED), (0xD200302, 0xEE),
  (0xD200303, 0x129), (0xD200304, 0x12B), (0xD200306, 0x12D), (0xD200308, 0xEF),
  (0xD200309, 0x1EC9), (0xD20030C, 0x1D0), (0xD20030F, 0x209),
  (0xD200311, 0x20B), (0xD200323, 0x1ECB), (0xD200328, 0x12F),
  (0xD200330, 0x1E2D), (0xD400302, 0x135), (0xD40030C, 0x1F0),
  (0xD600301, 0x1E31), (0xD60030C, 0x1E9), (0xD600323, 0x1E33),
  (0xD600327, 0x137), (0xD600331, 0x1E35), (0xD800301, 0x13A),
  (0xD80030C, 0x13E), (0xD800323, 0x1E37), (0xD800327, 0x13C),
  (0xD80032D, 0x1E3D), (0xD800331, 0x1E3B), (0xDA00301, 0x1E3F),
  (0xDA00307, 0x1E41), (0xDA00323, 0x1E43), (0xDC00300, 0x1F9),
  (0xDC00301, 0x144), (0xDC00303, 0xF1), (0xDC00307, 0x1E45),
  (0xDC0030C, 0x148), (0xDC00323, 0x1E47), (0xDC00327, 0x146),
  (0xDC0032D, 0x1E4B), (0xDC00331, 0x1E49), (0xDE00300, 0xF2),
  (0xDE00301, 0xF3), (0xDE00302, 0xF4), (0xDE00303, 0xF5), (0xDE00304, 0x14D),
  (0xDE00306, 0x14F), (0xDE00307, 0x22F), (0xDE00308, 0xF6),
  (0xDE00309, 0x1ECF), (0xDE0030B, 0x151), (0xDE0030C, 0x1D2),
  (0xDE0030F, 0x20D), (0xDE00311, 0x20F), (0xDE0031B, 0x1A1),
  (0xDE00323, 0x1ECD), (0xDE00328, 0x1EB), (0xE000301, 0x1E55),
  (0xE000307, 0x1E57), (0xE400301, 0x155), (0xE400307, 0x1E59),
  (0xE40030C, 0x159), (0xE40030F, 0x211), (0xE400311, 0x213),
  (0xE400323, 0x1E5B), (0xE400327, 0x157), (0xE400331, 0x1E5F),
  (0xE600301, 0x15B), (0xE600302, 0x15D), (0xE600307, 0x1E61),
  (0xE60030C, 0x161), (0xE600323, 0x1E63), (0xE600326, 0x219),
  (0xE600327, 0x15F), (0xE800307, 0x1E6B), (0xE800308, 0x1E97),
  (0xE80030C, 0x165), (0xE800323, 0x1E6D), (0xE800326, 0x21B),
  (0xE800327, 0x163), (0xE80032D, 0x1E71), (0xE800331, 0x1E6F),
  (0xEA00300, 0xF9), (0xEA00301, 0xFA), (0xEA00302, 0xFB), (0xEA00303, 0x169),
  (0xEA00304, 0x16B), (0xEA00306, 0x16D), (0xEA00308, 0xFC),
  (0xEA00309, 0x1EE7), (0xEA0030A, 0x16F), (0xEA0030B, 0x171),
  (0xEA0030C, 0x1D4), (0xEA0030F, 0x215), (0xEA00311, 0x217),
  (0xEA0031B, 0x1B0), (0xEA00323, 0x1EE5), (0xEA00324, 0x1E73),
  (0xEA00328, 0x173), (0xEA0032D, 0x1E77), (0xEA00330, 0x1E75),
  (0xEC00303, 0x1E7D), (0xEC00323, 0x1E7F), (0xEE00300, 0x1E81),
  (0xEE00301, 0x1E83), (0xEE00302, 0x175), (0xEE00307, 0x1E87),
  (0xEE00308, 0x1E85), (0xEE0030A, 0x1E98), (0xEE00323, 0x1E89),
  (0xF000307, 0x1E8B), (0xF000308, 0x1E8D), (0xF200300, 0x1EF3),
  (0xF200301, 0xFD), (0xF200302, 0x177), (0xF200303, 0x1EF9),
  (0xF200304, 0x233), (0xF200307, 0x1E8F), (0xF200308, 0xFF),
  (0xF200309, 0x1EF7), (0xF20030A, 0x1E99), (0xF200323, 0x1EF5),
  (0xF400301, 0x17A), (0xF400302, 0x1E91), (0xF400307, 0x17C),
  (0xF40030C, 0x17E), (0xF400323, 0x1E93), (0xF400331, 0x1E95),
  (0x15000300, 0x1FED), (0x15000301, 0x385), (0x15000342, 0x1FC1),
  (0x18400300, 0x1EA6), (0x18400301, 0x1EA4), (0x18400303, 0x1EAA),
  (0x18400309, 0x1EA8), (0x18800304, 0x1DE), (0x18A00301, 0x1FA),
  (0x18C00301, 0x1FC), (0x18C00304, 0x1E2), (0x18E00301, 0x1E08),
  (0x19400300, 0x1EC0), (0x19400301, 0x1EBE), (0x19400303, 0x1EC4),
  (0x19400309, 0x1EC2), (0x19E00301, 0x1E2E), (0x1A800300, 0x1ED2),
  (0x1A800301, 0x1ED0), (0x1A800303, 0x1ED6), (0x1A800309, 0x1ED4),
  (0x1AA00301, 0x1E4C), (0x1AA00304, 0x22C), (0x1AA00308, 0x1E4E),
  (0x1AC00304, 0x22A), (0x1B000301, 0x1FE), (0x1B800300, 0x1DB),
  (0x1B800301, 0x1D7), (0x1B800304, 0x1D5), (0x1B80030C, 0x1D9),
  (0x1C400300, 0x1EA7), (0x1C400301, 0x1EA5), (0x1C400303, 0x1EAB),
  (0x1C400309, 0x1EA9), (0x1C800304, 0x1DF), (0x1CA00301, 0x1FB),
  (0x1CC00301, 0x1FD), (0x1CC00304, 0x1E3), (0x1CE00301, 0x1E09),
  (0x1D400300, 0x1EC1), (0x1D400301, 0x1EBF), (0x1D400303, 0x1EC5),
  (0x1D400309, 0x1EC3), (0x1DE00301, 0x1E2F), (0x1E800300, 0x1ED3),
  (0x1E800301, 0x1ED1), (0x1E800303, 0x1ED7), (0x1E800309, 0x1ED5),
  (0x1EA00301, 0x1E4D), (0x1EA00304, 0x22D), (0x1EA00308, 0x1E4F),
  (0x1EC00304, 0x22B), (0x1F000301, 0x1FF), (0x1F800300, 0x1DC),
  (0x1F800301, 0x1D8), (0x1F800304, 0x1D6), (0x1F80030C, 0x1DA),
  (0x20400300, 0x1EB0), (0x20400301, 0x1EAE), (0x20400303, 0x1EB4),
  (0x20400309, 0x1EB2), (0x20600300, 0x1EB1), (0x20600301, 0x1EAF),
  (0x20600303, 0x1EB5), (0x20600309, 0x1EB3), (0x22400300, 0x1E14),
  (0x22400301, 0x1E16), (0x22600300, 0x1E15), (0x22600301, 0x1E17),
  (0x29800300, 0x1E50), (0x29800301, 0x1E52), (0x29A00300, 0x1E51),
  (0x29A00301, 0x1E53), (0x2B400307, 0x1E64), (0x2B600307, 0x1E65),
  (0x2C000307, 0x1E66), (0x2C200307, 0x1E67), (0x2D000301, 0x1E78),
  (0x2D200301, 0x1E79), (0x2D400308, 0x1E7A), (0x2D600308, 0x1E7B),
  (0x2FE00307, 0x1E9B), (0x34000300, 0x1EDC), (0x34000301, 0x1EDA),
  (0x34000303, 0x1EE0), (0x34000309, 0x1EDE), (0x34000323, 0x1EE2),
  (0x34200300, 0x1EDD), (0x34200301, 0x1EDB), (0x34200303, 0x1EE1),
  (0x34200309, 0x1EDF), (0x34200323, 0x1EE3), (0x35E00300, 0x1EEA),
  (0x35E00301, 0x1EE8), (0x35E00303, 0x1EEE), (0x35E00309, 0x1EEC),
  (0x35E00323, 0x1EF0), (0x36000300, 0x1EEB), (0x36000301, 0x1EE9),
  (0x36000303, 0x1EEF), (0x36000309, 0x1EED), (0x36000323, 0x1EF1),
  (0x36E0030C, 0x1EE), (0x3D400304, 0x1EC), (0x3D600304, 0x1ED),
  (0x44C00304, 0x1E0), (0x44E00304, 0x1E1), (0x45000306, 0x1E1C),
  (0x45200306, 0x1E1D), (0x45C00304, 0x230), (0x45E00304, 0x231),
  (0x5240030C, 0x1EF), (0x72200300, 0x1FBA), (0x72200301, 0x386),
  (0x72200304, 0x1FB9), (0x72200306, 0x1FB8), (0x72200313, 0x1F08),
  (0x72200314, 0x1F09), (0x72200345, 0x1FBC), (0x72A00300, 0x1FC8),
  (0x72A00301, 0x388), (0x72A00313, 0x1F18), (0x72A00314, 0x1F19),
  (0x72E00300, 0x1FCA), (0x72E00301, 0x389), (0x72E00313, 0x1F28),
  (0x72E00314, 0x1F29), (0x72E00345, 0x1FCC), (0x73200300, 0x1FDA),
  (0x73200301, 0x38A), (0x73200304, 0x1FD9), (0x73200306, 0x1FD8),
  (0x73200308, 0x3AA), (0x73200313, 0x1F38), (0x73200314, 0x1F39),
  (0x73E00300, 0x1FF8), (0x73E00301, 0x38C), (0x73E00313, 0x1F48),
  (0x73E00314, 0x1F49), (0x74200314, 0x1FEC), (0x74A00300, 0x1FEA),
  (0x74A00301, 0x38E), (0x74A00304, 0x1FE9), (0x74A00306, 0x1FE8),
  (0x74A00308, 0x3AB), (0x74A00314, 0x1F59), (0x75200300, 0x1FFA),
  (0x75200301, 0x38F), (0x75200313, 0x1F68), (0x75200314, 0x1F69),
  (0x75200345, 0x1FFC), (0x75800345, 0x1FB4), (0x75C00345, 0x1FC4),
  (0x76200300, 0x1F70), (0x76200301, 0x3AC), (0x76200304, 0x1FB1),
  (0x76200306, 0x1FB0), (0x76200313, 0x1F00), (0x76200314, 0x1F01),
  (0x76200342, 0x1FB6), (0x76200345, 0x1FB3), (0x76A00300, 0x1F72),
  (0x76A00301, 0x3AD), (0x76A00313, 0x1F10), (0x76A00314, 0x1F11),
  (0x76E00300, 0x1F74), (0x76E00301, 0x3AE), (0x76E00313, 0x1F20),
  (0x76E00314, 0x1F21), (0x76E00342, 0x1FC6), (0x76E00345, 0x1FC3),
  (0x77200300, 0x1F76), (0x77200301, 0x3AF), (0x77200304, 0x1FD1),
  (0x77200306, 0x1FD0), (0x77200308, 0x3CA), (0x77200313, 0x1F30),
  (0x77200314, 0x1F31), (0x77200342, 0x1FD6), (0x77E00300, 0x1F78),
  (0x77E00301, 0x3CC), (0x77E00313, 0x1F40), (0x77E00314, 0x1F41),
  (0x78200313, 0x1FE4), (0x78200314, 0x1FE5), (0x78A00300, 0x1F7A),
  (0x78A00301, 0x3CD), (0x78A00304, 0x1FE1), (0x78A00306, 0x1FE0),
  (0x78A00308, 0x3CB), (0x78A00313, 0x1F50), (0x78A00314, 0x1F51),
  (0x78A00342, 0x1FE6), (0x79200300, 0x1F7C), (0x79200301, 0x3CE),
  (0x79200313, 0x1F60), (0x79200314, 0x1F61), (0x79200342, 0x1FF6),
  (0x79200345, 0x1FF3), (0x79400300, 0x1FD2), (0x79400301, 0x390),
  (0x79400342, 0x1FD7), (0x79600300, 0x1FE2), (0x79600301, 0x3B0),
  (0x79600342, 0x1FE7), (0x79C00345, 0x1FF4), (0x7A400301, 0x3D3),
  (0x7A400308, 0x3D4), (0x80C00308, 0x407), (0x82000306, 0x4D0),
  (0x82000308, 0x4D2), (0x82600301, 0x403), (0x82A00300, 0x400),
  (0x82A00306, 0x4D6), (0x82A00308, 0x401), (0x82C00306, 0x4C1),
  (0x82C00308, 0x4DC), (0x82E00308, 0x4DE), (0x83000300, 0x40D),
  (0x83000304, 0x4E2), (0x83000306, 0x419), (0x83000308, 0x4E4),
  (0x83400301, 0x40C), (0x83C00308, 0x4E6), (0x84600304, 0x4EE),
  (0x84600306, 0x40E), (0x84600308, 0x4F0), (0x8460030B, 0x4F2),
  (0x84E00308, 0x4F4), (0x85600308, 0x4F8), (0x85A00308, 0x4EC),
  (0x86000306, 0x4D1), (0x86000308, 0x4D3), (0x86600301, 0x453),
  (0x86A00300, 0x450), (0x86A00306, 0x4D7), (0x86A00308, 0x451),
  (0x86C00306, 0x4C2), (0x86C00308, 0x4DD), (0x86E00308, 0x4DF),
  (0x87000300, 0x45D), (0x87000304, 0x4E3), (0x87000306, 0x439),
  (0x87000308, 0x4E5), (0x87400301, 0x45C), (0x87C00308, 0x4E7),
  (0x88600304, 0x4EF), (0x88600306, 0x45E), (0x88600308, 0x4F1),
  (0x8860030B, 0x4F3), (0x88E00308, 0x4F5), (0x89600308, 0x4F9),
  (0x89A00308, 0x4ED), (0x8AC00308, 0x457), (0x8E80030F, 0x476),
  (0x8EA0030F, 0x477), (0x9B000308, 0x4DA), (0x9B200308, 0x4DB),
  (0x9D000308, 0x4EA), (0x9D200308, 0x4EB), (0xC4E00653, 0x622),
  (0xC4E00654, 0x623), (0xC4E00655, 0x625), (0xC9000654, 0x624),
  (0xC9400654, 0x626), (0xD8200654, 0x6C2), (0xDA400654, 0x6D3),
  (0xDAA00654, 0x6C0), (0x12500093C, 0x929), (0x12600093C, 0x931),
  (0x12660093C, 0x934), (0x138E009BE, 0x9CB), (0x138E009D7, 0x9CC),
  (0x168E00B3E, 0xB4B), (0x168E00B56, 0xB48), (0x168E00B57, 0xB4C),
  (0x172400BD7, 0xB94), (0x178C00BBE, 0xBCA), (0x178C00BD7, 0xBCC),
  (0x178E00BBE, 0xBCB), (0x188C00C56, 0xC48), (0x197E00CD5, 0xCC0),
  (0x198C00CC2, 0xCCA), (0x198C00CD5, 0xCC7), (0x198C00CD6, 0xCC8),
  (0x199400CD5, 0xCCB), (0x1A8C00D3E, 0xD4A), (0x1A8C00D57, 0xD4C),
  (0x1A8E00D3E, 0xD4B), (0x1BB200DCA, 0xDDA), (0x1BB200DCF, 0xDDC),
  (0x1BB200DDF, 0xDDE), (0x1BB800DCA, 0xDDD), (0x204A0102E, 0x1026),
  (0x360A01B35, 0x1B06), (0x360E01B35, 0x1B08), (0x361201B35, 0x1B0A),
  (0x361601B35, 0x1B0C), (0x361A01B35, 0x1B0E), (0x362201B35, 0x1B12),
  (0x367401B35, 0x1B3B), (0x367801B35, 0x1B3D), (0x367C01B35, 0x1B40),
  (0x367E01B35, 0x1B41), (0x368401B35, 0x1B43), (0x3C6C00304, 0x1E38),
  (0x3C6E00304, 0x1E39), (0x3CB400304, 0x1E5C), (0x3CB600304, 0x1E5D),
  (0x3CC400307, 0x1E68), (0x3CC600307, 0x1E69), (0x3D4000302, 0x1EAC),
  (0x3D4000306, 0x1EB6), (0x3D4200302, 0x1EAD), (0x3D4200306, 0x1EB7),
  (0x3D7000302, 0x1EC6), (0x3D7200302, 0x1EC7), (0x3D9800302, 0x1ED8),
  (0x3D9A00302, 0x1ED9), (0x3E0000300, 0x1F02), (0x3E0000301, 0x1F04),
  (0x3E0000342, 0x1F06), (0x3E0000345, 0x1F80), (0x3E0200300, 0x1F03),
  (0x3E0200301, 0x1F05), (0x3E0200342, 0x1F07), (0x3E0200345, 0x1F81),
  (0x3E0400345, 0x1F82), (0x3E0600345, 0x1F83), (0x3E0800345, 0x1F84),
  (0x3E0A00345, 0x1F85), (0x3E0C00345, 0x1F86), (0x3E0E00345, 0x1F87),
  (0x3E1000300, 0x1F0A), (0x3E1000301, 0x1F0C), (0x3E1000342, 0x1F0E),
  (0x3E1000345, 0x1F88), (0x3E1200300, 0x1F0B), (0x3E1200301, 0x1F0D),
  (0x3E1200342, 0x1F0F), (0x3E1200345, 0x1F89), (0x3E1400345, 0x1F8A),
  (0x3E1600345, 0x1F8B), (0x3E1800345, 0x1F8C), (0x3E1A00345, 0x1F8D),
  (0x3E1C00345, 0x1F8E), (0x3E1E00345, 0x1F8F), (0x3E2000300, 0x1F12),
  (0x3E2000301, 0x1F14), (0x3E2200300, 0x1F13), (0x3E2200301, 0x1F15),
  (0x3E3000300, 0x1F1A), (0x3E3000301, 0x1F1C), (0x3E3200300, 0x1F1B),
  (0x3E3200301, 0x1F1D), (0x3E4000300, 0x1F22), (0x3E4000301, 0x1F24),
  (0x3E4000342, 0x1F26), (0x3E4000345, 0x1F90), (0x3E4200300, 0x1F23),
  (0x3E4200301, 0x1F25), (0x3E4200342, 0x1F27), (0x3E4200345, 0x1F91),
  (0x3E4400345, 0x1F92), (0x3E4600345, 0x1F93), (0x3E4800345, 0x1F94),
  (0x3E4A00345, 0x1F95), (0x3E4C00345, 0x1F96), (0x3E4E00345, 0x1F97),
  (0x3E5000300, 0x1F2A), (0x3E5000301, 0x1F2C), (0x3E5000342, 0x1F2E),
  (0x3E5000345, 0x1F98), (0x3E5200300, 0x1F2B), (0x3E5200301, 0x1F2D),
  (0x3E5200342, 0x1F2F), (0x3E5200345, 0x1F99), (0x3E5400345, 0x1F9A),
  (0x3E5600345, 0x1F9B), (0x3E5800345, 0x1F9C), (0x3E5A00345, 0x1F9D),
  (0x3E5C00345, 0x1F9E), (0x3E5E00345, 0x1F9F), (0x3E6000300, 0x1F32),
  (0x3E6000301, 0x1F34), (0x3E6000342, 0x1F36), (0x3E6200300, 0x1F33),
  (0x3E6200301, 0x1F35), (0x3E6200342, 0x1F37), (0x3E7000300, 0x1F3A),
  (0x3E7000301, 0x1F3C), (0x3E7000342, 0x1F3E), (0x3E7200300, 0x1F3B),
  (0x3E7200301, 0x1F3D), (0x3E7200342, 0x1F3F), (0x3E8000300, 0x1F42),
  (0x3E8000301, 0x1F44), (0x3E8200300, 0x1F43), (0x3E8200301, 0x1F45),
  (0x3E9000300, 0x1F4A), (0x3E9000301, 0x1F4C), (0x3E9200300, 0x1F4B),
  (0x3E9200301, 0x1F4D), (0x3EA000300, 0x1F52), (0x3EA000301, 0x1F54),
  (0x3EA000342, 0x1F56), (0x3EA200300, 0x1F53), (0x3EA200301, 0x1F55),
  (0x3EA200342, 0x1F57), (0x3EB200300, 0x1F5B), (0x3EB200301, 0x1F5D),
  (0x3EB200342, 0x1F5F), (0x3EC000300, 0x1F62), (0x3EC000301, 0x1F64),
  (0x3EC000342, 0x1F66), (0x3EC000345, 0x1FA0), (0x3EC200300, 0x1F63),
  (0x3EC200301, 0x1F65), (0x3EC200342, 0x1F67), (0x3EC200345, 0x1FA1),
  (0x3EC400345, 0x1FA2), (0x3EC600345, 0x1FA3), (0x3EC800345, 0x1FA4),
  (0x3ECA00345, 0x1FA5), (0x3ECC00345, 0x1FA6), (0x3ECE00345, 0x1FA7),
  (0x3ED000300, 0x1F6A), (0x3ED000301, 0x1F6C), (0x3ED000342, 0x1F6E),
  (0x3ED000345, 0x1FA8), (0x3ED200300, 0x1F6B), (0x3ED200301, 0x1F6D),
  (0x3ED200342, 0x1F6F), (0x3ED200345, 0x1FA9), (0x3ED400345, 0x1FAA),
  (0x3ED600345, 0x1FAB), (0x3ED800345, 0x1FAC), (0x3EDA00345, 0x1FAD),
  (0x3EDC00345, 0x1FAE), (0x3EDE00345, 0x1FAF), (0x3EE000345, 0x1FB2),
  (0x3EE800345, 0x1FC2), (0x3EF800345, 0x1FF2), (0x3F6C00345, 0x1FB7),
  (0x3F7E00300, 0x1FCD), (0x3F7E00301, 0x1FCE), (0x3F7E00342, 0x1FCF),
  (0x3F8C00345, 0x1FC7), (0x3FEC00345, 0x1FF7), (0x3FFC00300, 0x1FDD),
  (0x3FFC00301, 0x1FDE), (0x3FFC00342, 0x1FDF), (0x432000338, 0x219A),
  (0x432400338, 0x219B), (0x432800338, 0x21AE), (0x43A000338, 0x21CD),
  (0x43A400338, 0x21CF), (0x43A800338, 0x21CE), (0x440600338, 0x2204),
  (0x441000338, 0x2209), (0x441600338, 0x220C), (0x444600338, 0x2224),
  (0x444A00338, 0x2226), (0x447800338, 0x2241), (0x448600338, 0x2244),
  (0x448A00338, 0x2247), (0x449000338, 0x2249), (0x449A00338, 0x226D),
  (0x44C200338, 0x2262), (0x44C800338, 0x2270), (0x44CA00338, 0x2271),
  (0x44E400338, 0x2274), (0x44E600338, 0x2275), (0x44EC00338, 0x2278),
  (0x44EE00338, 0x2279), (0x44F400338, 0x2280), (0x44F600338, 0x2281),
  (0x44F800338, 0x22E0), (0x44FA00338, 0x22E1), (0x450400338, 0x2284),
  (0x450600338, 0x2285), (0x450C00338, 0x2288), (0x450E00338, 0x2289),
  (0x452200338, 0x22E2), (0x452400338, 0x22E3), (0x454400338, 0x22AC),
  (0x455000338, 0x22AD), (0x455200338, 0x22AE), (0x455600338, 0x22AF),
  (0x456400338, 0x22EA), (0x456600338, 0x22EB), (0x456800338, 0x22EC),
  (0x456A00338, 0x22ED), (0x608C03099, 0x3094), (0x609603099, 0x304C),
  (0x609A03099, 0x304E), (0x609E03099, 0x3050), (0x60A203099, 0x3052),
  (0x60A603099, 0x3054), (0x60AA03099, 0x3056), (0x60AE03099, 0x3058),
  (0x60B203099, 0x305A), (0x60B603099, 0x305C), (0x60BA03099, 0x305E),
  (0x60BE03099, 0x3060), (0x60C203099, 0x3062), (0x60C803099, 0x3065),
  (0x60CC03099, 0x3067), (0x60D003099, 0x3069), (0x60DE03099, 0x3070),
  (0x60DE0309A, 0x3071), (0x60E403099, 0x3073), (0x60E40309A, 0x3074),
  (0x60EA03099, 0x3076), (0x60EA0309A, 0x3077), (0x60F003099, 0x3079),
  (0x60F00309A, 0x307A), (0x60F603099, 0x307C), (0x60F60309A, 0x307D),
  (0x613A03099, 0x309E), (0x614C03099, 0x30F4), (0x615603099, 0x30AC),
  (0x615A03099, 0x30AE), (0x615E03099, 0x30B0), (0x616203099, 0x30B2),
  (0x616603099, 0x30B4), (0x616A03099, 0x30B6), (0x616E03099, 0x30B8),
  (0x617203099, 0x30BA), (0x617603099, 0x30BC), (0x617A03099, 0x30BE),
  (0x617E03099, 0x30C0), (0x618203099, 0x30C2), (0x618803099, 0x30C5),
  (0x618C03099, 0x30C7), (0x619003099, 0x30C9), (0x619E03099, 0x30D0),
  (0x619E0309A, 0x30D1), (0x61A403099, 0x30D3), (0x61A40309A, 0x30D4),
  (0x61AA03099, 0x30D6), (0x61AA0309A, 0x30D7), (0x61B003099, 0x30D9),
  (0x61B00309A, 0x30DA), (0x61B603099, 0x30DC), (0x61B60309A, 0x30DD),
  (0x61DE03099, 0x30F7), (0x61E003099, 0x30F8), (0x61E203099, 0x30F9),
  (0x61E403099, 0x30FA), (0x61FA03099, 0x30FE), (0x20BA400307, 0x105C9),
  (0x20BB400307, 0x105E4), (0x22132110BA, 0x1109A), (0x22136110BA, 0x1109C),
  (0x2214A110BA, 0x110AB), (0x2226211127, 0x1112E), (0x2226411127, 0x1112F),
  (0x2268E1133E, 0x1134B), (0x2268E11357, 0x1134C), (0x22704113C9, 0x11383),
  (0x22708113BB, 0x11385), (0x22716113C2, 0x1138E), (0x22720113C9, 0x11391),
  (0x22784113B8, 0x113C7), (0x22784113C2, 0x113C5), (0x22784113C9, 0x113C8),
  (0x22972114B0, 0x114BC), (0x22972114BA, 0x114BB), (0x22972114BD, 0x114BE),
  (0x22B70115AF, 0x115BA), (0x22B72115AF, 0x115BB), (0x2326A11930, 0x11938),
  (0x2C23C1611E, 0x16121), (0x2C23C1611F, 0x16123), (0x2C23C16120, 0x16125),
  (0x2C23C16129, 0x16122), (0x2C2421611F, 0x16126), (0x2C24216120, 0x16128),
  (0x2C2441611F, 0x16127), (0x2C2521611F, 0x16124), (0x2DAC616D67, 0x16D69),
  (0x2DACE16D67, 0x16D68), (0x2DAD216D67, 0x16D6A)]

/-- Ranges of characters with a combining class other than zero, in increasing
order: first code point, last code point, class. -/
def combiningRanges : Array (Nat × Nat × Nat) := #[
  (0x300, 0x314, 230), (0x315, 0x315, 232), (0x316, 0x319, 220),
  (0x31A, 0x31A, 232), (0x31B, 0x31B, 216), (0x31C, 0x320, 220),
  (0x321, 0x322, 202), (0x323, 0x326, 220), (0x327, 0x328, 202),
  (0x329, 0x333, 220), (0x334, 0x338, 1), (0x339, 0x33C, 220),
  (0x33D, 0x344, 230), (0x345, 0x345, 240), (0x346, 0x346, 230),
  (0x347, 0x349, 220), (0x34A, 0x34C, 230), (0x34D, 0x34E, 220),
  (0x350, 0x352, 230), (0x353, 0x356, 220), (0x357, 0x357, 230),
  (0x358, 0x358, 232), (0x359, 0x35A, 220), (0x35B, 0x35B, 230),
  (0x35C, 0x35C, 233), (0x35D, 0x35E, 234), (0x35F, 0x35F, 233),
  (0x360, 0x361, 234), (0x362, 0x362, 233), (0x363, 0x36F, 230),
  (0x483, 0x487, 230), (0x591, 0x591, 220), (0x592, 0x595, 230),
  (0x596, 0x596, 220), (0x597, 0x599, 230), (0x59A, 0x59A, 222),
  (0x59B, 0x59B, 220), (0x59C, 0x5A1, 230), (0x5A2, 0x5A7, 220),
  (0x5A8, 0x5A9, 230), (0x5AA, 0x5AA, 220), (0x5AB, 0x5AC, 230),
  (0x5AD, 0x5AD, 222), (0x5AE, 0x5AE, 228), (0x5AF, 0x5AF, 230),
  (0x5B0, 0x5B0, 10), (0x5B1, 0x5B1, 11), (0x5B2, 0x5B2, 12),
  (0x5B3, 0x5B3, 13), (0x5B4, 0x5B4, 14), (0x5B5, 0x5B5, 15),
  (0x5B6, 0x5B6, 16), (0x5B7, 0x5B7, 17), (0x5B8, 0x5B8, 18),
  (0x5B9, 0x5BA, 19), (0x5BB, 0x5BB, 20), (0x5BC, 0x5BC, 21),
  (0x5BD, 0x5BD, 22), (0x5BF, 0x5BF, 23), (0x5C1, 0x5C1, 24),
  (0x5C2, 0x5C2, 25), (0x5C4, 0x5C4, 230), (0x5C5, 0x5C5, 220),
  (0x5C7, 0x5C7, 18), (0x610, 0x617, 230), (0x618, 0x618, 30),
  (0x619, 0x619, 31), (0x61A, 0x61A, 32), (0x64B, 0x64B, 27),
  (0x64C, 0x64C, 28), (0x64D, 0x64D, 29), (0x64E, 0x64E, 30),
  (0x64F, 0x64F, 31), (0x650, 0x650, 32), (0x651, 0x651, 33),
  (0x652, 0x652, 34), (0x653, 0x654, 230), (0x655, 0x656, 220),
  (0x657, 0x65B, 230), (0x65C, 0x65C, 220), (0x65D, 0x65E, 230),
  (0x65F, 0x65F, 220), (0x670, 0x670, 35), (0x6D6, 0x6DC, 230),
  (0x6DF, 0x6E2, 230), (0x6E3, 0x6E3, 220), (0x6E4, 0x6E4, 230),
  (0x6E7, 0x6E8, 230), (0x6EA, 0x6EA, 220), (0x6EB, 0x6EC, 230),
  (0x6ED, 0x6ED, 220), (0x711, 0x711, 36), (0x730, 0x730, 230),
  (0x731, 0x731, 220), (0x732, 0x733, 230), (0x734, 0x734, 220),
  (0x735, 0x736, 230), (0x737, 0x739, 220), (0x73A, 0x73A, 230),
  (0x73B, 0x73C, 220), (0x73D, 0x73D, 230), (0x73E, 0x73E, 220),
  (0x73F, 0x741, 230), (0x742, 0x742, 220), (0x743, 0x743, 230),
  (0x744, 0x744, 220), (0x745, 0x745, 230), (0x746, 0x746, 220),
  (0x747, 0x747, 230), (0x748, 0x748, 220), (0x749, 0x74A, 230),
  (0x7EB, 0x7F1, 230), (0x7F2, 0x7F2, 220), (0x7F3, 0x7F3, 230),
  (0x7FD, 0x7FD, 220), (0x816, 0x819, 230), (0x81B, 0x823, 230),
  (0x825, 0x827, 230), (0x829, 0x82D, 230), (0x859, 0x85B, 220),
  (0x897, 0x898, 230), (0x899, 0x89B, 220), (0x89C, 0x89F, 230),
  (0x8CA, 0x8CE, 230), (0x8CF, 0x8D3, 220), (0x8D4, 0x8E1, 230),
  (0x8E3, 0x8E3, 220), (0x8E4, 0x8E5, 230), (0x8E6, 0x8E6, 220),
  (0x8E7, 0x8E8, 230), (0x8E9, 0x8E9, 220), (0x8EA, 0x8EC, 230),
  (0x8ED, 0x8EF, 220), (0x8F0, 0x8F0, 27), (0x8F1, 0x8F1, 28),
  (0x8F2, 0x8F2, 29), (0x8F3, 0x8F5, 230), (0x8F6, 0x8F6, 220),
  (0x8F7, 0x8F8, 230), (0x8F9, 0x8FA, 220), (0x8FB, 0x8FF, 230),
  (0x93C, 0x93C, 7), (0x94D, 0x94D, 9), (0x951, 0x951, 230),
  (0x952, 0x952, 220), (0x953, 0x954, 230), (0x9BC, 0x9BC, 7),
  (0x9CD, 0x9CD, 9), (0x9FE, 0x9FE, 230), (0xA3C, 0xA3C, 7), (0xA4D, 0xA4D, 9),
  (0xABC, 0xABC, 7), (0xACD, 0xACD, 9), (0xB3C, 0xB3C, 7), (0xB4D, 0xB4D, 9),
  (0xBCD, 0xBCD, 9), (0xC3C, 0xC3C, 7), (0xC4D, 0xC4D, 9), (0xC55, 0xC55, 84),
  (0xC56, 0xC56, 91), (0xCBC, 0xCBC, 7), (0xCCD, 0xCCD, 9), (0xD3B, 0xD3C, 9),
  (0xD4D, 0xD4D, 9), (0xDCA, 0xDCA, 9), (0xE38, 0xE39, 103), (0xE3A, 0xE3A, 9),
  (0xE48, 0xE4B, 107), (0xEB8, 0xEB9, 118), (0xEBA, 0xEBA, 9),
  (0xEC8, 0xECB, 122), (0xF18, 0xF19, 220), (0xF35, 0xF35, 220),
  (0xF37, 0xF37, 220), (0xF39, 0xF39, 216), (0xF71, 0xF71, 129),
  (0xF72, 0xF72, 130), (0xF74, 0xF74, 132), (0xF7A, 0xF7D, 130),
  (0xF80, 0xF80, 130), (0xF82, 0xF83, 230), (0xF84, 0xF84, 9),
  (0xF86, 0xF87, 230), (0xFC6, 0xFC6, 220), (0x1037, 0x1037, 7),
  (0x1039, 0x103A, 9), (0x108D, 0x108D, 220), (0x135D, 0x135F, 230),
  (0x1714, 0x1715, 9), (0x1734, 0x1734, 9), (0x17D2, 0x17D2, 9),
  (0x17DD, 0x17DD, 230), (0x18A9, 0x18A9, 228), (0x1939, 0x1939, 222),
  (0x193A, 0x193A, 230), (0x193B, 0x193B, 220), (0x1A17, 0x1A17, 230),
  (0x1A18, 0x1A18, 220), (0x1A60, 0x1A60, 9), (0x1A75, 0x1A7C, 230),
  (0x1A7F, 0x1A7F, 220), (0x1AB0, 0x1AB4, 230), (0x1AB5, 0x1ABA, 220),
  (0x1ABB, 0x1ABC, 230), (0x1ABD, 0x1ABD, 220), (0x1ABF, 0x1AC0, 220),
  (0x1AC1, 0x1AC2, 230), (0x1AC3, 0x1AC4, 220), (0x1AC5, 0x1AC9, 230),
  (0x1ACA, 0x1ACA, 220), (0x1ACB, 0x1ADC, 230), (0x1ADD, 0x1ADD, 220),
  (0x1AE0, 0x1AE5, 230), (0x1AE6, 0x1AE6, 220), (0x1AE7, 0x1AEA, 230),
  (0x1AEB, 0x1AEB, 234), (0x1B34, 0x1B34, 7), (0x1B44, 0x1B44, 9),
  (0x1B6B, 0x1B6B, 230), (0x1B6C, 0x1B6C, 220), (0x1B6D, 0x1B73, 230),
  (0x1BAA, 0x1BAB, 9), (0x1BE6, 0x1BE6, 7), (0x1BF2, 0x1BF3, 9),
  (0x1C37, 0x1C37, 7), (0x1CD0, 0x1CD2, 230), (0x1CD4, 0x1CD4, 1),
  (0x1CD5, 0x1CD9, 220), (0x1CDA, 0x1CDB, 230), (0x1CDC, 0x1CDF, 220),
  (0x1CE0, 0x1CE0, 230), (0x1CE2, 0x1CE8, 1), (0x1CED, 0x1CED, 220),
  (0x1CF4, 0x1CF4, 230), (0x1CF8, 0x1CF9, 230), (0x1DC0, 0x1DC1, 230),
  (0x1DC2, 0x1DC2, 220), (0x1DC3, 0x1DC9, 230), (0x1DCA, 0x1DCA, 220),
  (0x1DCB, 0x1DCC, 230), (0x1DCD, 0x1DCD, 234), (0x1DCE, 0x1DCE, 214),
  (0x1DCF, 0x1DCF, 220), (0x1DD0, 0x1DD0, 202), (0x1DD1, 0x1DF5, 230),
  (0x1DF6, 0x1DF6, 232), (0x1DF7, 0x1DF8, 228), (0x1DF9, 0x1DF9, 220),
  (0x1DFA, 0x1DFA, 218), (0x1DFB, 0x1DFB, 230), (0x1DFC, 0x1DFC, 233),
  (0x1DFD, 0x1DFD, 220), (0x1DFE, 0x1DFE, 230), (0x1DFF, 0x1DFF, 220),
  (0x20D0, 0x20D1, 230), (0x20D2, 0x20D3, 1), (0x20D4, 0x20D7, 230),
  (0x20D8, 0x20DA, 1), (0x20DB, 0x20DC, 230), (0x20E1, 0x20E1, 230),
  (0x20E5, 0x20E6, 1), (0x20E7, 0x20E7, 230), (0x20E8, 0x20E8, 220),
  (0x20E9, 0x20E9, 230), (0x20EA, 0x20EB, 1), (0x20EC, 0x20EF, 220),
  (0x20F0, 0x20F0, 230), (0x2CEF, 0x2CF1, 230), (0x2D7F, 0x2D7F, 9),
  (0x2DE0, 0x2DFF, 230), (0x302A, 0x302A, 218), (0x302B, 0x302B, 228),
  (0x302C, 0x302C, 232), (0x302D, 0x302D, 222), (0x302E, 0x302F, 224),
  (0x3099, 0x309A, 8), (0xA66F, 0xA66F, 230), (0xA674, 0xA67D, 230),
  (0xA69E, 0xA69F, 230), (0xA6F0, 0xA6F1, 230), (0xA806, 0xA806, 9),
  (0xA82C, 0xA82C, 9), (0xA8C4, 0xA8C4, 9), (0xA8E0, 0xA8F1, 230),
  (0xA92B, 0xA92D, 220), (0xA953, 0xA953, 9), (0xA9B3, 0xA9B3, 7),
  (0xA9C0, 0xA9C0, 9), (0xAAB0, 0xAAB0, 230), (0xAAB2, 0xAAB3, 230),
  (0xAAB4, 0xAAB4, 220), (0xAAB7, 0xAAB8, 230), (0xAABE, 0xAABF, 230),
  (0xAAC1, 0xAAC1, 230), (0xAAF6, 0xAAF6, 9), (0xABED, 0xABED, 9),
  (0xFB1E, 0xFB1E, 26), (0xFE20, 0xFE26, 230), (0xFE27, 0xFE2D, 220),
  (0xFE2E, 0xFE2F, 230), (0x101FD, 0x101FD, 220), (0x102E0, 0x102E0, 220),
  (0x10376, 0x1037A, 230), (0x10A0D, 0x10A0D, 220), (0x10A0F, 0x10A0F, 230),
  (0x10A38, 0x10A38, 230), (0x10A39, 0x10A39, 1), (0x10A3A, 0x10A3A, 220),
  (0x10A3F, 0x10A3F, 9), (0x10AE5, 0x10AE5, 230), (0x10AE6, 0x10AE6, 220),
  (0x10D24, 0x10D27, 230), (0x10D69, 0x10D6D, 230), (0x10EAB, 0x10EAC, 230),
  (0x10ECB, 0x10ECB, 230), (0x10EF0, 0x10EFB, 220), (0x10EFD, 0x10EFF, 220),
  (0x10F46, 0x10F47, 220), (0x10F48, 0x10F4A, 230), (0x10F4B, 0x10F4B, 220),
  (0x10F4C, 0x10F4C, 230), (0x10F4D, 0x10F50, 220), (0x10F82, 0x10F82, 230),
  (0x10F83, 0x10F83, 220), (0x10F84, 0x10F84, 230), (0x10F85, 0x10F85, 220),
  (0x11046, 0x11046, 9), (0x11070, 0x11070, 9), (0x1107F, 0x1107F, 9),
  (0x110B9, 0x110B9, 9), (0x110BA, 0x110BA, 7), (0x11100, 0x11102, 230),
  (0x11133, 0x11134, 9), (0x11173, 0x11173, 7), (0x111C0, 0x111C0, 9),
  (0x111CA, 0x111CA, 7), (0x11235, 0x11235, 9), (0x11236, 0x11236, 7),
  (0x112E9, 0x112E9, 7), (0x112EA, 0x112EA, 9), (0x1133B, 0x1133C, 7),
  (0x1134D, 0x1134D, 9), (0x11366, 0x1136C, 230), (0x11370, 0x11374, 230),
  (0x113CE, 0x113D0, 9), (0x11442, 0x11442, 9), (0x11446, 0x11446, 7),
  (0x1145E, 0x1145E, 230), (0x114C2, 0x114C2, 9), (0x114C3, 0x114C3, 7),
  (0x115BF, 0x115BF, 9), (0x115C0, 0x115C0, 7), (0x1163F, 0x1163F, 9),
  (0x116B6, 0x116B6, 9), (0x116B7, 0x116B7, 7), (0x1172B, 0x1172B, 9),
  (0x11839, 0x11839, 9), (0x1183A, 0x1183A, 7), (0x1193D, 0x1193E, 9),
  (0x11943, 0x11943, 7), (0x119E0, 0x119E0, 9), (0x11A34, 0x11A34, 9),
  (0x11A47, 0x11A47, 9), (0x11A99, 0x11A99, 9), (0x11C3F, 0x11C3F, 9),
  (0x11D42, 0x11D42, 7), (0x11D44, 0x11D45, 9), (0x11D97, 0x11D97, 9),
  (0x11F41, 0x11F42, 9), (0x1612F, 0x1612F, 9), (0x16AF0, 0x16AF4, 1),
  (0x16B30, 0x16B36, 230), (0x16FF0, 0x16FF1, 6), (0x1BC9E, 0x1BC9E, 1),
  (0x1D165, 0x1D166, 216), (0x1D167, 0x1D169, 1), (0x1D16D, 0x1D16D, 226),
  (0x1D16E, 0x1D172, 216), (0x1D17B, 0x1D182, 220), (0x1D185, 0x1D189, 230),
  (0x1D18A, 0x1D18B, 220), (0x1D1AA, 0x1D1AD, 230), (0x1D242, 0x1D244, 230),
  (0x1D250, 0x1D25B, 230), (0x1E000, 0x1E006, 230), (0x1E008, 0x1E018, 230),
  (0x1E01B, 0x1E021, 230), (0x1E023, 0x1E024, 230), (0x1E026, 0x1E02A, 230),
  (0x1E08F, 0x1E08F, 230), (0x1E130, 0x1E136, 230), (0x1E2AE, 0x1E2AE, 230),
  (0x1E2EC, 0x1E2EF, 230), (0x1E4EC, 0x1E4ED, 232), (0x1E4EE, 0x1E4EE, 220),
  (0x1E4EF, 0x1E4EF, 230), (0x1E5EE, 0x1E5EE, 230), (0x1E5EF, 0x1E5EF, 220),
  (0x1E6E3, 0x1E6E3, 230), (0x1E6E6, 0x1E6E6, 230), (0x1E6EE, 0x1E6EF, 230),
  (0x1E6F5, 0x1E6F5, 230), (0x1E8D0, 0x1E8D6, 220), (0x1E944, 0x1E949, 230),
  (0x1E94A, 0x1E94A, 7)]

end Prospectus.Text.Canonical
