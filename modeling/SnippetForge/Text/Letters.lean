import SnippetForge.Text.Escapes

/-!
# Letters

Which characters are letters, digits of any script among them, and which letters differ only by
their case. The plain letters are those of the first hundred and twenty-eight characters; all others
are in a table of ranges.
-/

namespace SnippetForge.Text

/-- Ranges of letters beyond the plain ones. -/
def letterRanges : List (Nat × Nat) :=
  [(0xAA, 0xAA), (0xB5, 0xB5), (0xBA, 0xBA), (0xC0, 0xD6), (0xD8, 0xF6), (0xF8, 0x2C1),
    (0x2C6, 0x2D1), (0x2E0, 0x2E4), (0x2EC, 0x2EC), (0x2EE, 0x2EE), (0x370, 0x374), (0x376, 0x37D),
    (0x37F, 0x37F), (0x386, 0x386), (0x388, 0x3F5), (0x3F7, 0x481), (0x48A, 0x559), (0x560, 0x588),
    (0x5D0, 0x5F2), (0x620, 0x64A), (0x660, 0x669), (0x66E, 0x66F), (0x671, 0x6D3), (0x6D5, 0x6D5),
    (0x6E5, 0x6E6), (0x6EE, 0x6FC), (0x6FF, 0x6FF), (0x710, 0x710), (0x712, 0x72F), (0x74D, 0x7A5),
    (0x7B1, 0x7EA), (0x7F4, 0x7F5), (0x7FA, 0x7FA), (0x800, 0x815), (0x81A, 0x81A), (0x824, 0x824),
    (0x828, 0x828), (0x840, 0x858), (0x860, 0x887), (0x889, 0x88E), (0x8A0, 0x8C9), (0x904, 0x939),
    (0x93D, 0x93D), (0x950, 0x950), (0x958, 0x961), (0x966, 0x96F), (0x971, 0x980), (0x985, 0x9B9),
    (0x9BD, 0x9BD), (0x9CE, 0x9CE), (0x9DC, 0x9E1), (0x9E6, 0x9F1), (0x9FC, 0x9FC), (0xA05, 0xA39),
    (0xA59, 0xA6F), (0xA72, 0xA74), (0xA85, 0xAB9), (0xABD, 0xABD), (0xAD0, 0xAE1), (0xAE6, 0xAEF),
    (0xAF9, 0xAF9), (0xB05, 0xB39), (0xB3D, 0xB3D), (0xB5C, 0xB61), (0xB66, 0xB6F), (0xB71, 0xB71),
    (0xB83, 0xBB9), (0xBD0, 0xBD0), (0xBE6, 0xBEF), (0xC05, 0xC39), (0xC3D, 0xC3D), (0xC58, 0xC61),
    (0xC66, 0xC6F), (0xC80, 0xC80), (0xC85, 0xCB9), (0xCBD, 0xCBD), (0xCDD, 0xCE1), (0xCE6, 0xCF2),
    (0xD04, 0xD3A), (0xD3D, 0xD3D), (0xD4E, 0xD4E), (0xD54, 0xD56), (0xD5F, 0xD61), (0xD66, 0xD6F),
    (0xD7A, 0xD7F), (0xD85, 0xDC6), (0xDE6, 0xDEF), (0xE01, 0xE30), (0xE32, 0xE33), (0xE40, 0xE46),
    (0xE50, 0xE59), (0xE81, 0xEB0), (0xEB2, 0xEB3), (0xEBD, 0xEC6), (0xED0, 0xF00), (0xF20, 0xF29),
    (0xF40, 0xF6C), (0xF88, 0xF8C), (0x1000, 0x102A), (0x103F, 0x1049), (0x1050, 0x1055),
    (0x105A, 0x105D), (0x1061, 0x1061), (0x1065, 0x1066), (0x106E, 0x1070), (0x1075, 0x1081),
    (0x108E, 0x108E), (0x1090, 0x1099), (0x10A0, 0x10FA), (0x10FC, 0x135A), (0x1380, 0x138F),
    (0x13A0, 0x13FD), (0x1401, 0x166C), (0x166F, 0x167F), (0x1681, 0x169A), (0x16A0, 0x16EA),
    (0x16EE, 0x1711), (0x171F, 0x1731), (0x1740, 0x1751), (0x1760, 0x1770), (0x1780, 0x17B3),
    (0x17D7, 0x17D7), (0x17DC, 0x17DC), (0x17E0, 0x17E9), (0x1810, 0x1884), (0x1887, 0x18A8),
    (0x18AA, 0x191E), (0x1946, 0x19D9), (0x1A00, 0x1A16), (0x1A20, 0x1A54), (0x1A80, 0x1A99),
    (0x1AA7, 0x1AA7), (0x1B05, 0x1B33), (0x1B45, 0x1B59), (0x1B83, 0x1BA0), (0x1BAE, 0x1BE5),
    (0x1C00, 0x1C23), (0x1C40, 0x1C7D), (0x1C80, 0x1CBF), (0x1CE9, 0x1CEC), (0x1CEE, 0x1CF3),
    (0x1CF5, 0x1CF6), (0x1CFA, 0x1DBF), (0x1E00, 0x1FBC), (0x1FBE, 0x1FBE), (0x1FC2, 0x1FCC),
    (0x1FD0, 0x1FDB), (0x1FE0, 0x1FEC), (0x1FF2, 0x1FFC), (0x2071, 0x2071), (0x207F, 0x207F),
    (0x2090, 0x209C), (0x2102, 0x2102), (0x2107, 0x2107), (0x210A, 0x2113), (0x2115, 0x2115),
    (0x2119, 0x211D), (0x2124, 0x2124), (0x2126, 0x2126), (0x2128, 0x2128), (0x212A, 0x212D),
    (0x212F, 0x2139), (0x213C, 0x213F), (0x2145, 0x2149), (0x214E, 0x214E), (0x2160, 0x2188),
    (0x2C00, 0x2CE4), (0x2CEB, 0x2CEE), (0x2CF2, 0x2CF3), (0x2D00, 0x2D6F), (0x2D80, 0x2DDE),
    (0x2E2F, 0x2E2F), (0x3005, 0x3007), (0x3021, 0x3029), (0x3031, 0x3035), (0x3038, 0x303C),
    (0x3041, 0x3096), (0x309D, 0x309F), (0x30A1, 0x30FA), (0x30FC, 0x318E), (0x31A0, 0x31BF),
    (0x31F0, 0x31FF), (0x3400, 0x4DBF), (0x4E00, 0xA48C), (0xA4D0, 0xA4FD), (0xA500, 0xA60C),
    (0xA610, 0xA66E), (0xA67F, 0xA69D), (0xA6A0, 0xA6EF), (0xA717, 0xA71F), (0xA722, 0xA788),
    (0xA78B, 0xA801), (0xA803, 0xA805), (0xA807, 0xA80A), (0xA80C, 0xA822), (0xA840, 0xA873),
    (0xA882, 0xA8B3), (0xA8D0, 0xA8D9), (0xA8F2, 0xA8F7), (0xA8FB, 0xA8FB), (0xA8FD, 0xA8FE),
    (0xA900, 0xA925), (0xA930, 0xA946), (0xA960, 0xA97C), (0xA984, 0xA9B2), (0xA9CF, 0xA9D9),
    (0xA9E0, 0xA9E4), (0xA9E6, 0xAA28), (0xAA40, 0xAA42), (0xAA44, 0xAA4B), (0xAA50, 0xAA59),
    (0xAA60, 0xAA76), (0xAA7A, 0xAA7A), (0xAA7E, 0xAAAF), (0xAAB1, 0xAAB1), (0xAAB5, 0xAAB6),
    (0xAAB9, 0xAABD), (0xAAC0, 0xAAC0), (0xAAC2, 0xAADD), (0xAAE0, 0xAAEA), (0xAAF2, 0xAAF4),
    (0xAB01, 0xAB5A), (0xAB5C, 0xAB69), (0xAB70, 0xABE2), (0xABF0, 0xFB1D), (0xFB1F, 0xFB28),
    (0xFB2A, 0xFBB1), (0xFBD3, 0xFD3D), (0xFD50, 0xFDC7), (0xFDF0, 0xFDFB), (0xFE70, 0xFEFC),
    (0xFF10, 0xFF19), (0xFF21, 0xFF3A), (0xFF41, 0xFF5A), (0xFF66, 0xFFDC), (0x10000, 0x100FA),
    (0x10140, 0x10174), (0x10280, 0x102D0), (0x10300, 0x1031F), (0x1032D, 0x10375),
    (0x10380, 0x1039D), (0x103A0, 0x103CF), (0x103D1, 0x10563), (0x10570, 0x10855),
    (0x10860, 0x10876), (0x10880, 0x1089E), (0x108E0, 0x108F5), (0x10900, 0x10915),
    (0x10920, 0x10939), (0x10980, 0x109B7), (0x109BE, 0x109BF), (0x10A00, 0x10A00),
    (0x10A10, 0x10A35), (0x10A60, 0x10A7C), (0x10A80, 0x10A9C), (0x10AC0, 0x10AC7),
    (0x10AC9, 0x10AE4), (0x10B00, 0x10B35), (0x10B40, 0x10B55), (0x10B60, 0x10B72),
    (0x10B80, 0x10B91), (0x10C00, 0x10CF2), (0x10D00, 0x10D23), (0x10D30, 0x10D39),
    (0x10E80, 0x10EA9), (0x10EB0, 0x10F1C), (0x10F27, 0x10F45), (0x10F70, 0x10F81),
    (0x10FB0, 0x10FC4), (0x10FE0, 0x10FF6), (0x11003, 0x11037), (0x11066, 0x1106F),
    (0x11071, 0x11072), (0x11075, 0x11075), (0x11083, 0x110AF), (0x110D0, 0x110F9),
    (0x11103, 0x11126), (0x11136, 0x1113F), (0x11144, 0x11144), (0x11147, 0x11172),
    (0x11176, 0x11176), (0x11183, 0x111B2), (0x111C1, 0x111C4), (0x111D0, 0x111DA),
    (0x111DC, 0x111DC), (0x11200, 0x1122B), (0x11280, 0x112A8), (0x112B0, 0x112DE),
    (0x112F0, 0x112F9), (0x11305, 0x11339), (0x1133D, 0x1133D), (0x11350, 0x11350),
    (0x1135D, 0x11361), (0x11400, 0x11434), (0x11447, 0x1144A), (0x11450, 0x11459),
    (0x1145F, 0x114AF), (0x114C4, 0x114C5), (0x114C7, 0x115AE), (0x115D8, 0x115DB),
    (0x11600, 0x1162F), (0x11644, 0x11659), (0x11680, 0x116AA), (0x116B8, 0x116B8),
    (0x116C0, 0x1171A), (0x11730, 0x11739), (0x11740, 0x1182B), (0x118A0, 0x118E9),
    (0x118FF, 0x1192F), (0x1193F, 0x1193F), (0x11941, 0x11941), (0x11950, 0x119D0),
    (0x119E1, 0x119E1), (0x119E3, 0x119E3), (0x11A00, 0x11A00), (0x11A0B, 0x11A32),
    (0x11A3A, 0x11A3A), (0x11A50, 0x11A50), (0x11A5C, 0x11A89), (0x11A9D, 0x11A9D),
    (0x11AB0, 0x11C2E), (0x11C40, 0x11C40), (0x11C50, 0x11C59), (0x11C72, 0x11C8F),
    (0x11D00, 0x11D30), (0x11D46, 0x11D46), (0x11D50, 0x11D89), (0x11D98, 0x11EF2),
    (0x11FB0, 0x11FB0), (0x12000, 0x1246E), (0x12480, 0x12FF0), (0x13000, 0x1342E),
    (0x14400, 0x16A69), (0x16A70, 0x16AED), (0x16B00, 0x16B2F), (0x16B40, 0x16B43),
    (0x16B50, 0x16B59), (0x16B63, 0x16E7F), (0x16F00, 0x16F4A), (0x16F50, 0x16F50),
    (0x16F93, 0x16FE1), (0x16FE3, 0x16FE3), (0x17000, 0x1BC99), (0x1D400, 0x1D6C0),
    (0x1D6C2, 0x1D6DA), (0x1D6DC, 0x1D6FA), (0x1D6FC, 0x1D714), (0x1D716, 0x1D734),
    (0x1D736, 0x1D74E), (0x1D750, 0x1D76E), (0x1D770, 0x1D788), (0x1D78A, 0x1D7A8),
    (0x1D7AA, 0x1D7C2), (0x1D7C4, 0x1D7FF), (0x1DF00, 0x1DF1E), (0x1E100, 0x1E12C),
    (0x1E137, 0x1E14E), (0x1E290, 0x1E2AD), (0x1E2C0, 0x1E2EB), (0x1E2F0, 0x1E2F9),
    (0x1E7E0, 0x1E8C4), (0x1E900, 0x1E943), (0x1E94B, 0x1E959), (0x1EE00, 0x1EEBB),
    (0x1FBF0, 0x3134A)]

/-- Whether a character is a letter, or a digit that is no plain one. -/
def isLetter (c : Char) : Bool :=
  c.isAlpha || (127 < c.toNat && inRanges c.toNat letterRanges)

/-! ### Case -/

/-- Small letters that follow each other at some distance, and how far below them the capital
letters are. -/
structure CaseRange where
  first : Nat
  last : Nat
  step : Nat
  below : Nat

/-- Small letters beyond the plain ones that have capital letters. -/
def caseRanges : List CaseRange :=
  [⟨0xE0, 0xF6, 1, 32⟩, ⟨0xF8, 0xFE, 1, 32⟩, ⟨0x101, 0x12F, 2, 1⟩, ⟨0x133, 0x137, 2, 1⟩,
    ⟨0x13A, 0x148, 2, 1⟩, ⟨0x14B, 0x177, 2, 1⟩, ⟨0x17A, 0x17E, 2, 1⟩, ⟨0x183, 0x185, 2, 1⟩,
    ⟨0x188, 0x188, 1, 1⟩, ⟨0x18C, 0x18C, 1, 1⟩, ⟨0x192, 0x192, 1, 1⟩, ⟨0x199, 0x199, 1, 1⟩,
    ⟨0x1A1, 0x1A5, 2, 1⟩, ⟨0x1A8, 0x1A8, 1, 1⟩, ⟨0x1AD, 0x1AD, 1, 1⟩, ⟨0x1B0, 0x1B0, 1, 1⟩,
    ⟨0x1B4, 0x1B6, 2, 1⟩, ⟨0x1B9, 0x1B9, 1, 1⟩, ⟨0x1BD, 0x1BD, 1, 1⟩, ⟨0x1C6, 0x1C6, 1, 2⟩,
    ⟨0x1C9, 0x1C9, 1, 2⟩, ⟨0x1CC, 0x1CC, 1, 2⟩, ⟨0x1CE, 0x1DC, 2, 1⟩, ⟨0x1DD, 0x1DD, 1, 79⟩,
    ⟨0x1DF, 0x1EF, 2, 1⟩, ⟨0x1F3, 0x1F3, 1, 2⟩, ⟨0x1F5, 0x1F5, 1, 1⟩, ⟨0x1F9, 0x21F, 2, 1⟩,
    ⟨0x223, 0x233, 2, 1⟩, ⟨0x23C, 0x23C, 1, 1⟩, ⟨0x242, 0x242, 1, 1⟩, ⟨0x247, 0x24F, 2, 1⟩,
    ⟨0x253, 0x253, 1, 210⟩, ⟨0x254, 0x254, 1, 206⟩, ⟨0x256, 0x257, 1, 205⟩, ⟨0x259, 0x259, 1, 202⟩,
    ⟨0x25B, 0x25B, 1, 203⟩, ⟨0x260, 0x260, 1, 205⟩, ⟨0x263, 0x263, 1, 207⟩, ⟨0x268, 0x268, 1, 209⟩,
    ⟨0x269, 0x269, 1, 211⟩, ⟨0x26F, 0x26F, 1, 211⟩, ⟨0x272, 0x272, 1, 213⟩, ⟨0x275, 0x275, 1, 214⟩,
    ⟨0x280, 0x280, 1, 218⟩, ⟨0x283, 0x283, 1, 218⟩, ⟨0x288, 0x288, 1, 218⟩, ⟨0x289, 0x289, 1, 69⟩,
    ⟨0x28A, 0x28B, 1, 217⟩, ⟨0x28C, 0x28C, 1, 71⟩, ⟨0x292, 0x292, 1, 219⟩, ⟨0x371, 0x373, 2, 1⟩,
    ⟨0x377, 0x377, 1, 1⟩, ⟨0x3AC, 0x3AC, 1, 38⟩, ⟨0x3AD, 0x3AF, 1, 37⟩, ⟨0x3B1, 0x3C1, 1, 32⟩,
    ⟨0x3C3, 0x3CB, 1, 32⟩, ⟨0x3CC, 0x3CC, 1, 64⟩, ⟨0x3CD, 0x3CE, 1, 63⟩, ⟨0x3D7, 0x3D7, 1, 8⟩,
    ⟨0x3D9, 0x3EF, 2, 1⟩, ⟨0x3F3, 0x3F3, 1, 116⟩, ⟨0x3F8, 0x3F8, 1, 1⟩, ⟨0x3FB, 0x3FB, 1, 1⟩,
    ⟨0x430, 0x44F, 1, 32⟩, ⟨0x450, 0x45F, 1, 80⟩, ⟨0x461, 0x481, 2, 1⟩, ⟨0x48B, 0x4BF, 2, 1⟩,
    ⟨0x4C2, 0x4CE, 2, 1⟩, ⟨0x4CF, 0x4CF, 1, 15⟩, ⟨0x4D1, 0x52F, 2, 1⟩, ⟨0x561, 0x586, 1, 48⟩,
    ⟨0x13F8, 0x13FD, 1, 8⟩, ⟨0x1E01, 0x1E95, 2, 1⟩, ⟨0x1EA1, 0x1EFF, 2, 1⟩,
    ⟨0x2170, 0x217F, 1, 16⟩, ⟨0x24D0, 0x24E9, 1, 26⟩, ⟨0x2C30, 0x2C5F, 1, 48⟩,
    ⟨0x2C68, 0x2C6C, 2, 1⟩, ⟨0x2C81, 0x2CE3, 2, 1⟩, ⟨0x2D00, 0x2D25, 1, 7264⟩,
    ⟨0xA641, 0xA66D, 2, 1⟩, ⟨0xA681, 0xA69B, 2, 1⟩, ⟨0xA723, 0xA72F, 2, 1⟩, ⟨0xA733, 0xA76F, 2, 1⟩,
    ⟨0xA77F, 0xA787, 2, 1⟩, ⟨0xA797, 0xA7A9, 2, 1⟩, ⟨0xA7B5, 0xA7C3, 2, 1⟩,
    ⟨0xAB70, 0xABBF, 1, 38864⟩, ⟨0xFF41, 0xFF5A, 1, 32⟩, ⟨0x10428, 0x1044F, 1, 40⟩,
    ⟨0x104D8, 0x104FB, 1, 40⟩, ⟨0x10597, 0x105A1, 1, 39⟩, ⟨0x105A3, 0x105B1, 1, 39⟩,
    ⟨0x105B3, 0x105B9, 1, 39⟩, ⟨0x10CC0, 0x10CF2, 1, 64⟩, ⟨0x118C0, 0x118DF, 1, 32⟩,
    ⟨0x16E60, 0x16E7F, 1, 32⟩, ⟨0x1E922, 0x1E943, 1, 34⟩]

/-- The capital letter of a small letter. -/
def toCapital (c : Char) : Char :=
  let n := c.toNat
  if n < 128 then c.toUpper
  else if n = 0xFF then Char.ofNat 0x178
  else
    match caseRanges.find? fun r => r.first ≤ n && n ≤ r.last && (n - r.first) % r.step == 0 with
    | some r => Char.ofNat (n - r.below)
    | none => c

/-- The small letter of a capital letter. -/
def toSmall (c : Char) : Char :=
  let n := c.toNat
  if n < 128 then c.toLower
  else if n = 0x178 then Char.ofNat 0xFF
  else
    let holds (r : CaseRange) : Bool :=
      r.first ≤ n + r.below && n + r.below ≤ r.last && (n + r.below - r.first) % r.step == 0
    match caseRanges.find? holds with
    | some r => Char.ofNat (n + r.below)
    | none => c

/-- Whether a character is a small letter. -/
def isSmall (c : Char) : Bool :=
  c.isLower || toCapital c != c

/-- Whether a character is a capital letter. -/
def isCapital (c : Char) : Bool :=
  c.isUpper || toSmall c != c

/-- A letter in the other case. -/
def otherCase (c : Char) : Char :=
  if toCapital c != c then toCapital c else toSmall c

end SnippetForge.Text
