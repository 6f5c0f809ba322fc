import Lag.Text.Ranges

/-!
# Compatibility forms

Two spellings of a name are the same host variable when their compatibility forms (Unicode
normal form KC, Unicode 14) agree: a ligature is the letters it joins, a letter of another width or
style is the plain letter. The tables hold every character that a host name may have and that is not
its own form. The forms of the characters of a name are put one after the other. Then what belongs
together is joined: a voicing mark with the kana before it, and the letters of a Hangul syllable.
-/
namespace Lag.Text

/-- Runs of characters whose compatibility form is one character: the first and the last of the
run, and the form of the first. -/
def foldingRuns : List (Nat × Nat × Nat) := [
  (0xAA, 0xAA, 0x61), (0xB5, 0xB5, 0x3BC), (0xBA, 0xBA, 0x6F), (0x17F, 0x17F, 0x73),
  (0x2B0, 0x2B0, 0x68), (0x2B1, 0x2B1, 0x266), (0x2B2, 0x2B2, 0x6A), (0x2B3, 0x2B3, 0x72),
  (0x2B4, 0x2B4, 0x279), (0x2B5, 0x2B5, 0x27B), (0x2B6, 0x2B6, 0x281), (0x2B7, 0x2B7, 0x77),
  (0x2B8, 0x2B8, 0x79), (0x2E0, 0x2E0, 0x263), (0x2E1, 0x2E1, 0x6C), (0x2E2, 0x2E2, 0x73),
  (0x2E3, 0x2E3, 0x78), (0x2E4, 0x2E4, 0x295), (0x374, 0x374, 0x2B9), (0x3D0, 0x3D0, 0x3B2),
  (0x3D1, 0x3D1, 0x3B8), (0x3D2, 0x3D2, 0x3A5), (0x3D3, 0x3D3, 0x38E), (0x3D4, 0x3D4, 0x3AB),
  (0x3D5, 0x3D5, 0x3C6), (0x3D6, 0x3D6, 0x3C0), (0x3F0, 0x3F0, 0x3BA), (0x3F1, 0x3F2, 0x3C1),
  (0x3F4, 0x3F4, 0x398), (0x3F5, 0x3F5, 0x3B5), (0x3F9, 0x3F9, 0x3A3), (0x10FC, 0x10FC, 0x10DC),
  (0x1D2C, 0x1D2C, 0x41), (0x1D2D, 0x1D2D, 0xC6), (0x1D2E, 0x1D2E, 0x42), (0x1D30, 0x1D31, 0x44),
  (0x1D32, 0x1D32, 0x18E), (0x1D33, 0x1D3A, 0x47), (0x1D3C, 0x1D3C, 0x4F),
  (0x1D3D, 0x1D3D, 0x222), (0x1D3E, 0x1D3E, 0x50), (0x1D3F, 0x1D3F, 0x52), (0x1D40, 0x1D41, 0x54),
  (0x1D42, 0x1D42, 0x57), (0x1D43, 0x1D43, 0x61), (0x1D44, 0x1D45, 0x250),
  (0x1D46, 0x1D46, 0x1D02), (0x1D47, 0x1D47, 0x62), (0x1D48, 0x1D49, 0x64),
  (0x1D4A, 0x1D4A, 0x259), (0x1D4B, 0x1D4C, 0x25B), (0x1D4D, 0x1D4D, 0x67),
  (0x1D4F, 0x1D4F, 0x6B), (0x1D50, 0x1D50, 0x6D), (0x1D51, 0x1D51, 0x14B), (0x1D52, 0x1D52, 0x6F),
  (0x1D53, 0x1D53, 0x254), (0x1D54, 0x1D55, 0x1D16), (0x1D56, 0x1D56, 0x70),
  (0x1D57, 0x1D58, 0x74), (0x1D59, 0x1D59, 0x1D1D), (0x1D5A, 0x1D5A, 0x26F),
  (0x1D5B, 0x1D5B, 0x76), (0x1D5C, 0x1D5C, 0x1D25), (0x1D5D, 0x1D5F, 0x3B2),
  (0x1D60, 0x1D61, 0x3C6), (0x1D62, 0x1D62, 0x69), (0x1D63, 0x1D63, 0x72), (0x1D64, 0x1D65, 0x75),
  (0x1D66, 0x1D67, 0x3B2), (0x1D68, 0x1D68, 0x3C1), (0x1D69, 0x1D6A, 0x3C6),
  (0x1D78, 0x1D78, 0x43D), (0x1D9B, 0x1D9B, 0x252), (0x1D9C, 0x1D9C, 0x63),
  (0x1D9D, 0x1D9D, 0x255), (0x1D9E, 0x1D9E, 0xF0), (0x1D9F, 0x1D9F, 0x25C),
  (0x1DA0, 0x1DA0, 0x66), (0x1DA1, 0x1DA1, 0x25F), (0x1DA2, 0x1DA2, 0x261),
  (0x1DA3, 0x1DA3, 0x265), (0x1DA4, 0x1DA6, 0x268), (0x1DA7, 0x1DA7, 0x1D7B),
  (0x1DA8, 0x1DA8, 0x29D), (0x1DA9, 0x1DA9, 0x26D), (0x1DAA, 0x1DAA, 0x1D85),
  (0x1DAB, 0x1DAB, 0x29F), (0x1DAC, 0x1DAC, 0x271), (0x1DAD, 0x1DAD, 0x270),
  (0x1DAE, 0x1DB1, 0x272), (0x1DB2, 0x1DB2, 0x278), (0x1DB3, 0x1DB4, 0x282),
  (0x1DB5, 0x1DB5, 0x1AB), (0x1DB6, 0x1DB7, 0x289), (0x1DB8, 0x1DB8, 0x1D1C),
  (0x1DB9, 0x1DBA, 0x28B), (0x1DBB, 0x1DBB, 0x7A), (0x1DBC, 0x1DBE, 0x290),
  (0x1DBF, 0x1DBF, 0x3B8), (0x1E9B, 0x1E9B, 0x1E61), (0x1F71, 0x1F71, 0x3AC),
  (0x1F73, 0x1F73, 0x3AD), (0x1F75, 0x1F75, 0x3AE), (0x1F77, 0x1F77, 0x3AF),
  (0x1F79, 0x1F79, 0x3CC), (0x1F7B, 0x1F7B, 0x3CD), (0x1F7D, 0x1F7D, 0x3CE),
  (0x1FBB, 0x1FBB, 0x386), (0x1FBE, 0x1FBE, 0x3B9), (0x1FC9, 0x1FC9, 0x388),
  (0x1FCB, 0x1FCB, 0x389), (0x1FD3, 0x1FD3, 0x390), (0x1FDB, 0x1FDB, 0x38A),
  (0x1FE3, 0x1FE3, 0x3B0), (0x1FEB, 0x1FEB, 0x38E), (0x1FF9, 0x1FF9, 0x38C),
  (0x1FFB, 0x1FFB, 0x38F), (0x2071, 0x2071, 0x69), (0x207F, 0x207F, 0x6E), (0x2090, 0x2090, 0x61),
  (0x2091, 0x2091, 0x65), (0x2092, 0x2092, 0x6F), (0x2093, 0x2093, 0x78), (0x2094, 0x2094, 0x259),
  (0x2095, 0x2095, 0x68), (0x2096, 0x2099, 0x6B), (0x209A, 0x209A, 0x70), (0x209B, 0x209C, 0x73),
  (0x2102, 0x2102, 0x43), (0x2107, 0x2107, 0x190), (0x210A, 0x210A, 0x67), (0x210B, 0x210B, 0x48),
  (0x210C, 0x210C, 0x48), (0x210D, 0x210D, 0x48), (0x210E, 0x210E, 0x68), (0x210F, 0x210F, 0x127),
  (0x2110, 0x2110, 0x49), (0x2111, 0x2111, 0x49), (0x2112, 0x2112, 0x4C), (0x2113, 0x2113, 0x6C),
  (0x2115, 0x2115, 0x4E), (0x2119, 0x211B, 0x50), (0x211C, 0x211C, 0x52), (0x211D, 0x211D, 0x52),
  (0x2124, 0x2124, 0x5A), (0x2126, 0x2126, 0x3A9), (0x2128, 0x2128, 0x5A), (0x212A, 0x212A, 0x4B),
  (0x212B, 0x212B, 0xC5), (0x212C, 0x212D, 0x42), (0x212F, 0x212F, 0x65), (0x2130, 0x2131, 0x45),
  (0x2133, 0x2133, 0x4D), (0x2134, 0x2134, 0x6F), (0x2135, 0x2138, 0x5D0), (0x2139, 0x2139, 0x69),
  (0x213C, 0x213C, 0x3C0), (0x213D, 0x213D, 0x3B3), (0x213E, 0x213E, 0x393),
  (0x213F, 0x213F, 0x3A0), (0x2145, 0x2145, 0x44), (0x2146, 0x2147, 0x64), (0x2148, 0x2149, 0x69),
  (0x2160, 0x2160, 0x49), (0x2164, 0x2164, 0x56), (0x2169, 0x2169, 0x58), (0x216C, 0x216C, 0x4C),
  (0x216D, 0x216E, 0x43), (0x216F, 0x216F, 0x4D), (0x2170, 0x2170, 0x69), (0x2174, 0x2174, 0x76),
  (0x2179, 0x2179, 0x78), (0x217C, 0x217C, 0x6C), (0x217D, 0x217E, 0x63), (0x217F, 0x217F, 0x6D),
  (0x2C7C, 0x2C7C, 0x6A), (0x2C7D, 0x2C7D, 0x56), (0x2D6F, 0x2D6F, 0x2D61),
  (0x3038, 0x3038, 0x5341), (0x3039, 0x303A, 0x5344), (0xA69C, 0xA69C, 0x44A),
  (0xA69D, 0xA69D, 0x44C), (0xA770, 0xA770, 0xA76F), (0xA7F2, 0xA7F2, 0x43),
  (0xA7F3, 0xA7F3, 0x46), (0xA7F4, 0xA7F4, 0x51), (0xA7F8, 0xA7F8, 0x126),
  (0xA7F9, 0xA7F9, 0x153), (0xAB5C, 0xAB5C, 0xA727), (0xAB5D, 0xAB5D, 0xAB37),
  (0xAB5E, 0xAB5E, 0x26B), (0xAB5F, 0xAB5F, 0xAB52), (0xAB69, 0xAB69, 0x28D),
  (0xFF10, 0xFF19, 0x30), (0xFF21, 0xFF3A, 0x41), (0xFF41, 0xFF5A, 0x61),
  (0x10781, 0x10782, 0x2D0), (0x10783, 0x10783, 0xE6), (0x10784, 0x10784, 0x299),
  (0x10785, 0x10785, 0x253), (0x10787, 0x10787, 0x2A3), (0x10788, 0x10788, 0xAB66),
  (0x10789, 0x10789, 0x2A5), (0x1078A, 0x1078A, 0x2A4), (0x1078B, 0x1078C, 0x256),
  (0x1078D, 0x1078D, 0x1D91), (0x1078E, 0x1078E, 0x258), (0x1078F, 0x1078F, 0x25E),
  (0x10790, 0x10790, 0x2A9), (0x10791, 0x10791, 0x264), (0x10792, 0x10792, 0x262),
  (0x10793, 0x10793, 0x260), (0x10794, 0x10794, 0x29B), (0x10795, 0x10795, 0x127),
  (0x10796, 0x10796, 0x29C), (0x10797, 0x10797, 0x267), (0x10798, 0x10798, 0x284),
  (0x10799, 0x1079A, 0x2AA), (0x1079B, 0x1079B, 0x26C), (0x1079C, 0x1079C, 0x1DF04),
  (0x1079D, 0x1079D, 0xA78E), (0x1079E, 0x1079E, 0x26E), (0x1079F, 0x1079F, 0x1DF05),
  (0x107A0, 0x107A0, 0x28E), (0x107A1, 0x107A1, 0x1DF06), (0x107A2, 0x107A2, 0xF8),
  (0x107A3, 0x107A4, 0x276), (0x107A5, 0x107A5, 0x71), (0x107A6, 0x107A6, 0x27A),
  (0x107A7, 0x107A7, 0x1DF08), (0x107A8, 0x107A9, 0x27D), (0x107AA, 0x107AA, 0x280),
  (0x107AB, 0x107AB, 0x2A8), (0x107AC, 0x107AC, 0x2A6), (0x107AD, 0x107AD, 0xAB67),
  (0x107AE, 0x107AE, 0x2A7), (0x107AF, 0x107AF, 0x288), (0x107B0, 0x107B0, 0x2C71),
  (0x107B2, 0x107B2, 0x28F), (0x107B3, 0x107B4, 0x2A1), (0x107B5, 0x107B5, 0x298),
  (0x107B6, 0x107B8, 0x1C0), (0x107B9, 0x107B9, 0x1DF0A), (0x107BA, 0x107BA, 0x1DF1E),
  (0x1D400, 0x1D419, 0x41), (0x1D41A, 0x1D433, 0x61), (0x1D434, 0x1D44D, 0x41),
  (0x1D44E, 0x1D454, 0x61), (0x1D456, 0x1D467, 0x69), (0x1D468, 0x1D481, 0x41),
  (0x1D482, 0x1D49B, 0x61), (0x1D49C, 0x1D49C, 0x41), (0x1D49E, 0x1D49F, 0x43),
  (0x1D4A2, 0x1D4A2, 0x47), (0x1D4A5, 0x1D4A6, 0x4A), (0x1D4A9, 0x1D4AC, 0x4E),
  (0x1D4AE, 0x1D4B5, 0x53), (0x1D4B6, 0x1D4B9, 0x61), (0x1D4BB, 0x1D4BB, 0x66),
  (0x1D4BD, 0x1D4C3, 0x68), (0x1D4C5, 0x1D4CF, 0x70), (0x1D4D0, 0x1D4E9, 0x41),
  (0x1D4EA, 0x1D503, 0x61), (0x1D504, 0x1D505, 0x41), (0x1D507, 0x1D50A, 0x44),
  (0x1D50D, 0x1D514, 0x4A), (0x1D516, 0x1D51C, 0x53), (0x1D51E, 0x1D537, 0x61),
  (0x1D538, 0x1D539, 0x41), (0x1D53B, 0x1D53E, 0x44), (0x1D540, 0x1D544, 0x49),
  (0x1D546, 0x1D546, 0x4F), (0x1D54A, 0x1D550, 0x53), (0x1D552, 0x1D56B, 0x61),
  (0x1D56C, 0x1D585, 0x41), (0x1D586, 0x1D59F, 0x61), (0x1D5A0, 0x1D5B9, 0x41),
  (0x1D5BA, 0x1D5D3, 0x61), (0x1D5D4, 0x1D5ED, 0x41), (0x1D5EE, 0x1D607, 0x61),
  (0x1D608, 0x1D621, 0x41), (0x1D622, 0x1D63B, 0x61), (0x1D63C, 0x1D655, 0x41),
  (0x1D656, 0x1D66F, 0x61), (0x1D670, 0x1D689, 0x41), (0x1D68A, 0x1D6A3, 0x61),
  (0x1D6A4, 0x1D6A4, 0x131), (0x1D6A5, 0x1D6A5, 0x237), (0x1D6A8, 0x1D6B8, 0x391),
  (0x1D6B9, 0x1D6B9, 0x398), (0x1D6BA, 0x1D6C0, 0x3A3), (0x1D6C2, 0x1D6DA, 0x3B1),
  (0x1D6DC, 0x1D6DC, 0x3B5), (0x1D6DD, 0x1D6DD, 0x3B8), (0x1D6DE, 0x1D6DE, 0x3BA),
  (0x1D6DF, 0x1D6DF, 0x3C6), (0x1D6E0, 0x1D6E0, 0x3C1), (0x1D6E1, 0x1D6E1, 0x3C0),
  (0x1D6E2, 0x1D6F2, 0x391), (0x1D6F3, 0x1D6F3, 0x398), (0x1D6F4, 0x1D6FA, 0x3A3),
  (0x1D6FC, 0x1D714, 0x3B1), (0x1D716, 0x1D716, 0x3B5), (0x1D717, 0x1D717, 0x3B8),
  (0x1D718, 0x1D718, 0x3BA), (0x1D719, 0x1D719, 0x3C6), (0x1D71A, 0x1D71A, 0x3C1),
  (0x1D71B, 0x1D71B, 0x3C0), (0x1D71C, 0x1D72C, 0x391), (0x1D72D, 0x1D72D, 0x398),
  (0x1D72E, 0x1D734, 0x3A3), (0x1D736, 0x1D74E, 0x3B1), (0x1D750, 0x1D750, 0x3B5),
  (0x1D751, 0x1D751, 0x3B8), (0x1D752, 0x1D752, 0x3BA), (0x1D753, 0x1D753, 0x3C6),
  (0x1D754, 0x1D754, 0x3C1), (0x1D755, 0x1D755, 0x3C0), (0x1D756, 0x1D766, 0x391),
  (0x1D767, 0x1D767, 0x398), (0x1D768, 0x1D76E, 0x3A3), (0x1D770, 0x1D788, 0x3B1),
  (0x1D78A, 0x1D78A, 0x3B5), (0x1D78B, 0x1D78B, 0x3B8), (0x1D78C, 0x1D78C, 0x3BA),
  (0x1D78D, 0x1D78D, 0x3C6), (0x1D78E, 0x1D78E, 0x3C1), (0x1D78F, 0x1D78F, 0x3C0),
  (0x1D790, 0x1D7A0, 0x391), (0x1D7A1, 0x1D7A1, 0x398), (0x1D7A2, 0x1D7A8, 0x3A3),
  (0x1D7AA, 0x1D7C2, 0x3B1), (0x1D7C4, 0x1D7C4, 0x3B5), (0x1D7C5, 0x1D7C5, 0x3B8),
  (0x1D7C6, 0x1D7C6, 0x3BA), (0x1D7C7, 0x1D7C7, 0x3C6), (0x1D7C8, 0x1D7C8, 0x3C1),
  (0x1D7C9, 0x1D7C9, 0x3C0), (0x1D7CA, 0x1D7CB, 0x3DC), (0x1D7CE, 0x1D7D7, 0x30),
  (0x1D7D8, 0x1D7E1, 0x30), (0x1D7E2, 0x1D7EB, 0x30), (0x1D7EC, 0x1D7F5, 0x30),
  (0x1D7F6, 0x1D7FF, 0x30), (0x1FBF0, 0x1FBF9, 0x30)]

/-- Characters whose compatibility form is several characters. -/
def expansions : List (Nat × List Nat) := [
  (0x132, [0x49, 0x4A]), (0x133, [0x69, 0x6A]), (0x13F, [0x4C, 0xB7]), (0x140, [0x6C, 0xB7]),
  (0x149, [0x2BC, 0x6E]), (0x1C4, [0x44, 0x17D]), (0x1C5, [0x44, 0x17E]), (0x1C6, [0x64, 0x17E]),
  (0x1C7, [0x4C, 0x4A]), (0x1C8, [0x4C, 0x6A]), (0x1C9, [0x6C, 0x6A]), (0x1CA, [0x4E, 0x4A]),
  (0x1CB, [0x4E, 0x6A]), (0x1CC, [0x6E, 0x6A]), (0x1F1, [0x44, 0x5A]), (0x1F2, [0x44, 0x7A]),
  (0x1F3, [0x64, 0x7A]), (0x587, [0x565, 0x582]), (0x675, [0x627, 0x674]),
  (0x676, [0x648, 0x674]), (0x677, [0x6C7, 0x674]), (0x678, [0x64A, 0x674]),
  (0x958, [0x915, 0x93C]), (0x959, [0x916, 0x93C]), (0x95A, [0x917, 0x93C]),
  (0x95B, [0x91C, 0x93C]), (0x95C, [0x921, 0x93C]), (0x95D, [0x922, 0x93C]),
  (0x95E, [0x92B, 0x93C]), (0x95F, [0x92F, 0x93C]), (0x9DC, [0x9A1, 0x9BC]),
  (0x9DD, [0x9A2, 0x9BC]), (0x9DF, [0x9AF, 0x9BC]), (0xA33, [0xA32, 0xA3C]),
  (0xA36, [0xA38, 0xA3C]), (0xA59, [0xA16, 0xA3C]), (0xA5A, [0xA17, 0xA3C]),
  (0xA5B, [0xA1C, 0xA3C]), (0xA5E, [0xA2B, 0xA3C]), (0xB5C, [0xB21, 0xB3C]),
  (0xB5D, [0xB22, 0xB3C]), (0xE33, [0xE4D, 0xE32]), (0xEB3, [0xECD, 0xEB2]),
  (0xEDC, [0xEAB, 0xE99]), (0xEDD, [0xEAB, 0xEA1]), (0xF43, [0xF42, 0xFB7]),
  (0xF4D, [0xF4C, 0xFB7]), (0xF52, [0xF51, 0xFB7]), (0xF57, [0xF56, 0xFB7]),
  (0xF5C, [0xF5B, 0xFB7]), (0xF69, [0xF40, 0xFB5]), (0x1E9A, [0x61, 0x2BE]),
  (0x2161, [0x49, 0x49]), (0x2162, [0x49, 0x49, 0x49]), (0x2163, [0x49, 0x56]),
  (0x2165, [0x56, 0x49]), (0x2166, [0x56, 0x49, 0x49]), (0x2167, [0x56, 0x49, 0x49, 0x49]),
  (0x2168, [0x49, 0x58]), (0x216A, [0x58, 0x49]), (0x216B, [0x58, 0x49, 0x49]),
  (0x2171, [0x69, 0x69]), (0x2172, [0x69, 0x69, 0x69]), (0x2173, [0x69, 0x76]),
  (0x2175, [0x76, 0x69]), (0x2176, [0x76, 0x69, 0x69]), (0x2177, [0x76, 0x69, 0x69, 0x69]),
  (0x2178, [0x69, 0x78]), (0x217A, [0x78, 0x69]), (0x217B, [0x78, 0x69, 0x69]),
  (0x309F, [0x3088, 0x308A]), (0x30FF, [0x30B3, 0x30C8]), (0xFB00, [0x66, 0x66]),
  (0xFB01, [0x66, 0x69]), (0xFB02, [0x66, 0x6C]), (0xFB03, [0x66, 0x66, 0x69]),
  (0xFB04, [0x66, 0x66, 0x6C]), (0xFB05, [0x73, 0x74]), (0xFB06, [0x73, 0x74])]

/-- The compatibility forms of characters one after the other, between blanks; a hyphen stands for a
character that is its own form. -/
def formRows : List (Nat × String) := [
  (0x3131, "\u1100 \u1101 \u11AA \u1102 \u11AC \u11AD \u1103 \u1104 \u1105 \u11B0 \u11B1"),
  (0x313C, "\u11B2 \u11B3 \u11B4 \u11B5 \u111A \u1106 \u1107 \u1108 \u1121 \u1109 \u110A"),
  (0x3147, "\u110B \u110C \u110D \u110E \u110F \u1110 \u1111 \u1112 \u1161 \u1162 \u1163"),
  (0x3152, "\u1164 \u1165 \u1166 \u1167 \u1168 \u1169 \u116A \u116B \u116C \u116D \u116E"),
  (0x315D, "\u116F \u1170 \u1171 \u1172 \u1173 \u1174 \u1175 \u1160 \u1114 \u1115 \u11C7"),
  (0x3168, "\u11C8 \u11CC \u11CE \u11D3 \u11D7 \u11D9 \u111C \u11DD \u11DF \u111D \u111E"),
  (0x3173, "\u1120 \u1122 \u1123 \u1127 \u1129 \u112B \u112C \u112D \u112E \u112F \u1132"),
  (0x317E, "\u1136 \u1140 \u1147 \u114C \u11F1 \u11F2 \u1157 \u1158 \u1159 \u1184 \u1185"),
  (0x3189, "\u1188 \u1191 \u1192 \u1194 \u119E \u11A1"),
  (0xF900, "豈 更 車 賈 滑 串 句 龜 龜 契 金 喇 奈 懶 癩 羅 蘿 螺 裸 邏 樂 洛 烙 珞 落 酪 駱 亂 卵 欄 爛 蘭 鸞 嵐 濫 藍 襤 拉 臘 蠟 廊"),
  (0xF929, "朗 浪 狼 郎 來 冷 勞 擄 櫓 爐 盧 老 蘆 虜 路 露 魯 鷺 碌 祿 綠 菉 錄 鹿 論 壟 弄 籠 聾 牢 磊 賂 雷 壘 屢 樓 淚 漏 累 縷 陋"),
  (0xF952, "勒 肋 凜 凌 稜 綾 菱 陵 讀 拏 樂 諾 丹 寧 怒 率 異 北 磻 便 復 不 泌 數 索 參 塞 省 葉 說 殺 辰 沈 拾 若 掠 略 亮 兩 凉 梁"),
  (0xF97B, "糧 良 諒 量 勵 呂 女 廬 旅 濾 礪 閭 驪 麗 黎 力 曆 歷 轢 年 憐 戀 撚 漣 煉 璉 秊 練 聯 輦 蓮 連 鍊 列 劣 咽 烈 裂 說 廉 念"),
  (0xF9A4, "捻 殮 簾 獵 令 囹 寧 嶺 怜 玲 瑩 羚 聆 鈴 零 靈 領 例 禮 醴 隸 惡 了 僚 寮 尿 料 樂 燎 療 蓼 遼 龍 暈 阮 劉 杻 柳 流 溜 琉"),
  (0xF9CD, "留 硫 紐 類 六 戮 陸 倫 崙 淪 輪 律 慄 栗 率 隆 利 吏 履 易 李 梨 泥 理 痢 罹 裏 裡 里 離 匿 溺 吝 燐 璘 藺 隣 鱗 麟 林 淋"),
  (0xF9F6, "臨 立 笠 粒 狀 炙 識 什 茶 刺"),
  (0xFA00, "切 度 拓 糖 宅 洞 暴 輻 行 降 見 廓 兀 嗀 - - 塚 - 晴 - - 凞 猪 益 礼 神 祥 福 靖 精 羽 - 蘒 - 諸 - - 逸 都"),
  (0xFA2A, "飯 飼 館 鶴 郞 隷 侮 僧 免 勉 勤 卑 喝 嘆 器 塀 墨 層 屮 悔 慨 憎 懲 敏 既 暑 梅 海 渚 漢 煮 爫 琢 碑 社 祉 祈 祐 祖 祝"),
  (0xFA52, "禍 禎 穀 突 節 練 縉 繁 署 者 臭 艹 艹 著 褐 視 謁 謹 賓 贈 辶 逸 難 響 頻 恵 𤋮 舘 - - 並 况 全 侀 充 冀 勇 勺 喝 啕 喙"),
  (0xFA7B, "嗢 塚 墳 奄 奔 婢 嬨 廒 廙 彩 徭 惘 慎 愈 憎 慠 懲 戴 揄 搜 摒 敖 晴 朗 望 杖 歹 殺 流 滛 滋 漢 瀞 煮 瞧 爵 犯 猪 瑱 甆 画"),
  (0xFAA4, "瘝 瘟 益 盛 直 睊 着 磌 窱 節 类 絛 練 缾 者 荒 華 蝹 襁 覆 視 調 諸 請 謁 諾 諭 謹 變 贈 輸 遲 醙 鉶 陼 難 靖 韛 響 頋 頻"),
  (0xFACD, "鬒 龜 𢡊 𢡄 𣏕 㮝 䀘 䀹 𥉉 𥳐 𧻓 齃 龎"),
  (0xFB13, "\u0574\u0576 \u0574\u0565 \u0574\u056B \u057E\u0576 \u0574\u056D"),
  (0xFB1D, "\u05D9\u05B4 - \u05F2\u05B7 \u05E2 \u05D0 \u05D3 \u05D4 \u05DB \u05DC \u05DD"),
  (0xFB27, "\u05E8 \u05EA - \u05E9\u05C1 \u05E9\u05C2 \u05E9\u05BC\u05C1 \u05E9\u05BC\u05C2"),
  (0xFB2E, "\u05D0\u05B7 \u05D0\u05B8 \u05D0\u05BC \u05D1\u05BC \u05D2\u05BC \u05D3\u05BC"),
  (0xFB34, "\u05D4\u05BC \u05D5\u05BC \u05D6\u05BC - \u05D8\u05BC \u05D9\u05BC \u05DA\u05BC"),
  (0xFB3B, "\u05DB\u05BC \u05DC\u05BC - \u05DE\u05BC - \u05E0\u05BC \u05E1\u05BC"),
  (0xFB43, "\u05E3\u05BC \u05E4\u05BC - \u05E6\u05BC \u05E7\u05BC \u05E8\u05BC \u05E9\u05BC"),
  (0xFB4A, "\u05EA\u05BC \u05D5\u05B9 \u05D1\u05BF \u05DB\u05BF \u05E4\u05BF \u05D0\u05DC"),
  (0xFB50, "\u0671 \u0671 \u067B \u067B \u067B \u067B \u067E \u067E \u067E \u067E \u0680"),
  (0xFB5B, "\u0680 \u0680 \u0680 \u067A \u067A \u067A \u067A \u067F \u067F \u067F \u067F"),
  (0xFB66, "\u0679 \u0679 \u0679 \u0679 \u06A4 \u06A4 \u06A4 \u06A4 \u06A6 \u06A6 \u06A6"),
  (0xFB71, "\u06A6 \u0684 \u0684 \u0684 \u0684 \u0683 \u0683 \u0683 \u0683 \u0686 \u0686"),
  (0xFB7C, "\u0686 \u0686 \u0687 \u0687 \u0687 \u0687 \u068D \u068D \u068C \u068C \u068E"),
  (0xFB87, "\u068E \u0688 \u0688 \u0698 \u0698 \u0691 \u0691 \u06A9 \u06A9 \u06A9 \u06A9"),
  (0xFB92, "\u06AF \u06AF \u06AF \u06AF \u06B3 \u06B3 \u06B3 \u06B3 \u06B1 \u06B1 \u06B1"),
  (0xFB9D, "\u06B1 \u06BA \u06BA \u06BB \u06BB \u06BB \u06BB \u06C0 \u06C0 \u06C1 \u06C1"),
  (0xFBA8, "\u06C1 \u06C1 \u06BE \u06BE \u06BE \u06BE \u06D2 \u06D2 \u06D3 \u06D3"),
  (0xFBD3, "\u06AD \u06AD \u06AD \u06AD \u06C7 \u06C7 \u06C6 \u06C6 \u06C8 \u06C8 \u06C7\u0674"),
  (0xFBDE, "\u06CB \u06CB \u06C5 \u06C5 \u06C9 \u06C9 \u06D0 \u06D0 \u06D0 \u06D0 \u0649"),
  (0xFBE9, "\u0649 \u0626\u0627 \u0626\u0627 \u0626\u06D5 \u0626\u06D5 \u0626\u0648"),
  (0xFBEF, "\u0626\u0648 \u0626\u06C7 \u0626\u06C7 \u0626\u06C6 \u0626\u06C6 \u0626\u06C8"),
  (0xFBF5, "\u0626\u06C8 \u0626\u06D0 \u0626\u06D0 \u0626\u06D0 \u0626\u0649 \u0626\u0649"),
  (0xFBFB, "\u0626\u0649 \u06CC \u06CC \u06CC \u06CC \u0626\u062C \u0626\u062D \u0626\u0645"),
  (0xFC03, "\u0626\u0649 \u0626\u064A \u0628\u062C \u0628\u062D \u0628\u062E \u0628\u0645"),
  (0xFC09, "\u0628\u0649 \u0628\u064A \u062A\u062C \u062A\u062D \u062A\u062E \u062A\u0645"),
  (0xFC0F, "\u062A\u0649 \u062A\u064A \u062B\u062C \u062B\u0645 \u062B\u0649 \u062B\u064A"),
  (0xFC15, "\u062C\u062D \u062C\u0645 \u062D\u062C \u062D\u0645 \u062E\u062C \u062E\u062D"),
  (0xFC1B, "\u062E\u0645 \u0633\u062C \u0633\u062D \u0633\u062E \u0633\u0645 \u0635\u062D"),
  (0xFC21, "\u0635\u0645 \u0636\u062C \u0636\u062D \u0636\u062E \u0636\u0645 \u0637\u062D"),
  (0xFC27, "\u0637\u0645 \u0638\u0645 \u0639\u062C \u0639\u0645 \u063A\u062C \u063A\u0645"),
  (0xFC2D, "\u0641\u062C \u0641\u062D \u0641\u062E \u0641\u0645 \u0641\u0649 \u0641\u064A"),
  (0xFC33, "\u0642\u062D \u0642\u0645 \u0642\u0649 \u0642\u064A \u0643\u0627 \u0643\u062C"),
  (0xFC39, "\u0643\u062D \u0643\u062E \u0643\u0644 \u0643\u0645 \u0643\u0649 \u0643\u064A"),
  (0xFC3F, "\u0644\u062C \u0644\u062D \u0644\u062E \u0644\u0645 \u0644\u0649 \u0644\u064A"),
  (0xFC45, "\u0645\u062C \u0645\u062D \u0645\u062E \u0645\u0645 \u0645\u0649 \u0645\u064A"),
  (0xFC4B, "\u0646\u062C \u0646\u062D \u0646\u062E \u0646\u0645 \u0646\u0649 \u0646\u064A"),
  (0xFC51, "\u0647\u062C \u0647\u0645 \u0647\u0649 \u0647\u064A \u064A\u062C \u064A\u062D"),
  (0xFC57, "\u064A\u062E \u064A\u0645 \u064A\u0649 \u064A\u064A \u0630\u0670 \u0631\u0670"),
  (0xFC5D, "\u0649\u0670"),
  (0xFC64, "\u0626\u0631 \u0626\u0632 \u0626\u0645 \u0626\u0646 \u0626\u0649 \u0626\u064A"),
  (0xFC6A, "\u0628\u0631 \u0628\u0632 \u0628\u0645 \u0628\u0646 \u0628\u0649 \u0628\u064A"),
  (0xFC70, "\u062A\u0631 \u062A\u0632 \u062A\u0645 \u062A\u0646 \u062A\u0649 \u062A\u064A"),
  (0xFC76, "\u062B\u0631 \u062B\u0632 \u062B\u0645 \u062B\u0646 \u062B\u0649 \u062B\u064A"),
  (0xFC7C, "\u0641\u0649 \u0641\u064A \u0642\u0649 \u0642\u064A \u0643\u0627 \u0643\u0644"),
  (0xFC82, "\u0643\u0645 \u0643\u0649 \u0643\u064A \u0644\u0645 \u0644\u0649 \u0644\u064A"),
  (0xFC88, "\u0645\u0627 \u0645\u0645 \u0646\u0631 \u0646\u0632 \u0646\u0645 \u0646\u0646"),
  (0xFC8E, "\u0646\u0649 \u0646\u064A \u0649\u0670 \u064A\u0631 \u064A\u0632 \u064A\u0645"),
  (0xFC94, "\u064A\u0646 \u064A\u0649 \u064A\u064A \u0626\u062C \u0626\u062D \u0626\u062E"),
  (0xFC9A, "\u0626\u0645 \u0626\u0647 \u0628\u062C \u0628\u062D \u0628\u062E \u0628\u0645"),
  (0xFCA0, "\u0628\u0647 \u062A\u062C \u062A\u062D \u062A\u062E \u062A\u0645 \u062A\u0647"),
  (0xFCA6, "\u062B\u0645 \u062C\u062D \u062C\u0645 \u062D\u062C \u062D\u0645 \u062E\u062C"),
  (0xFCAC, "\u062E\u0645 \u0633\u062C \u0633\u062D \u0633\u062E \u0633\u0645 \u0635\u062D"),
  (0xFCB2, "\u0635\u062E \u0635\u0645 \u0636\u062C \u0636\u062D \u0636\u062E \u0636\u0645"),
  (0xFCB8, "\u0637\u062D \u0638\u0645 \u0639\u062C \u0639\u0645 \u063A\u062C \u063A\u0645"),
  (0xFCBE, "\u0641\u062C \u0641\u062D \u0641\u062E \u0641\u0645 \u0642\u062D \u0642\u0645"),
  (0xFCC4, "\u0643\u062C \u0643\u062D \u0643\u062E \u0643\u0644 \u0643\u0645 \u0644\u062C"),
  (0xFCCA, "\u0644\u062D \u0644\u062E \u0644\u0645 \u0644\u0647 \u0645\u062C \u0645\u062D"),
  (0xFCD0, "\u0645\u062E \u0645\u0645 \u0646\u062C \u0646\u062D \u0646\u062E \u0646\u0645"),
  (0xFCD6, "\u0646\u0647 \u0647\u062C \u0647\u0645 \u0647\u0670 \u064A\u062C \u064A\u062D"),
  (0xFCDC, "\u064A\u062E \u064A\u0645 \u064A\u0647 \u0626\u0645 \u0626\u0647 \u0628\u0645"),
  (0xFCE2, "\u0628\u0647 \u062A\u0645 \u062A\u0647 \u062B\u0645 \u062B\u0647 \u0633\u0645"),
  (0xFCE8, "\u0633\u0647 \u0634\u0645 \u0634\u0647 \u0643\u0644 \u0643\u0645 \u0644\u0645"),
  (0xFCEE, "\u0646\u0645 \u0646\u0647 \u064A\u0645 \u064A\u0647 \u0640\u064E\u0651"),
  (0xFCF3, "\u0640\u064F\u0651 \u0640\u0650\u0651 \u0637\u0649 \u0637\u064A \u0639\u0649"),
  (0xFCF8, "\u0639\u064A \u063A\u0649 \u063A\u064A \u0633\u0649 \u0633\u064A \u0634\u0649"),
  (0xFCFE, "\u0634\u064A \u062D\u0649 \u062D\u064A \u062C\u0649 \u062C\u064A \u062E\u0649"),
  (0xFD04, "\u062E\u064A \u0635\u0649 \u0635\u064A \u0636\u0649 \u0636\u064A \u0634\u062C"),
  (0xFD0A, "\u0634\u062D \u0634\u062E \u0634\u0645 \u0634\u0631 \u0633\u0631 \u0635\u0631"),
  (0xFD10, "\u0636\u0631 \u0637\u0649 \u0637\u064A \u0639\u0649 \u0639\u064A \u063A\u0649"),
  (0xFD16, "\u063A\u064A \u0633\u0649 \u0633\u064A \u0634\u0649 \u0634\u064A \u062D\u0649"),
  (0xFD1C, "\u062D\u064A \u062C\u0649 \u062C\u064A \u062E\u0649 \u062E\u064A \u0635\u0649"),
  (0xFD22, "\u0635\u064A \u0636\u0649 \u0636\u064A \u0634\u062C \u0634\u062D \u0634\u062E"),
  (0xFD28, "\u0634\u0645 \u0634\u0631 \u0633\u0631 \u0635\u0631 \u0636\u0631 \u0634\u062C"),
  (0xFD2E, "\u0634\u062D \u0634\u062E \u0634\u0645 \u0633\u0647 \u0634\u0647 \u0637\u0645"),
  (0xFD34, "\u0633\u062C \u0633\u062D \u0633\u062E \u0634\u062C \u0634\u062D \u0634\u062E"),
  (0xFD3A, "\u0637\u0645 \u0638\u0645 \u0627\u064B \u0627\u064B"),
  (0xFD50, "\u062A\u062C\u0645 \u062A\u062D\u062C \u062A\u062D\u062C \u062A\u062D\u0645"),
  (0xFD54, "\u062A\u062E\u0645 \u062A\u0645\u062C \u062A\u0645\u062D \u062A\u0645\u062E"),
  (0xFD58, "\u062C\u0645\u062D \u062C\u0645\u062D \u062D\u0645\u064A \u062D\u0645\u0649"),
  (0xFD5C, "\u0633\u062D\u062C \u0633\u062C\u062D \u0633\u062C\u0649 \u0633\u0645\u062D"),
  (0xFD60, "\u0633\u0645\u062D \u0633\u0645\u062C \u0633\u0645\u0645 \u0633\u0645\u0645"),
  (0xFD64, "\u0635\u062D\u062D \u0635\u062D\u062D \u0635\u0645\u0645 \u0634\u062D\u0645"),
  (0xFD68, "\u0634\u062D\u0645 \u0634\u062C\u064A \u0634\u0645\u062E \u0634\u0645\u062E"),
  (0xFD6C, "\u0634\u0645\u0645 \u0634\u0645\u0645 \u0636\u062D\u0649 \u0636\u062E\u0645"),
  (0xFD70, "\u0636\u062E\u0645 \u0637\u0645\u062D \u0637\u0645\u062D \u0637\u0645\u0645"),
  (0xFD74, "\u0637\u0645\u064A \u0639\u062C\u0645 \u0639\u0645\u0645 \u0639\u0645\u0645"),
  (0xFD78, "\u0639\u0645\u0649 \u063A\u0645\u0645 \u063A\u0645\u064A \u063A\u0645\u0649"),
  (0xFD7C, "\u0641\u062E\u0645 \u0641\u062E\u0645 \u0642\u0645\u062D \u0642\u0645\u0645"),
  (0xFD80, "\u0644\u062D\u0645 \u0644\u062D\u064A \u0644\u062D\u0649 \u0644\u062C\u062C"),
  (0xFD84, "\u0644\u062C\u062C \u0644\u062E\u0645 \u0644\u062E\u0645 \u0644\u0645\u062D"),
  (0xFD88, "\u0644\u0645\u062D \u0645\u062D\u062C \u0645\u062D\u0645 \u0645\u062D\u064A"),
  (0xFD8C, "\u0645\u062C\u062D \u0645\u062C\u0645 \u0645\u062E\u062C \u0645\u062E\u0645"),
  (0xFD92, "\u0645\u062C\u062E \u0647\u0645\u062C \u0647\u0645\u0645 \u0646\u062D\u0645"),
  (0xFD96, "\u0646\u062D\u0649 \u0646\u062C\u0645 \u0646\u062C\u0645 \u0646\u062C\u0649"),
  (0xFD9A, "\u0646\u0645\u064A \u0646\u0645\u0649 \u064A\u0645\u0645 \u064A\u0645\u0645"),
  (0xFD9E, "\u0628\u062E\u064A \u062A\u062C\u064A \u062A\u062C\u0649 \u062A\u062E\u064A"),
  (0xFDA2, "\u062A\u062E\u0649 \u062A\u0645\u064A \u062A\u0645\u0649 \u062C\u0645\u064A"),
  (0xFDA6, "\u062C\u062D\u0649 \u062C\u0645\u0649 \u0633\u062E\u0649 \u0635\u062D\u064A"),
  (0xFDAA, "\u0634\u062D\u064A \u0636\u062D\u064A \u0644\u062C\u064A \u0644\u0645\u064A"),
  (0xFDAE, "\u064A\u062D\u064A \u064A\u062C\u064A \u064A\u0645\u064A \u0645\u0645\u064A"),
  (0xFDB2, "\u0642\u0645\u064A \u0646\u062D\u064A \u0642\u0645\u062D \u0644\u062D\u0645"),
  (0xFDB6, "\u0639\u0645\u064A \u0643\u0645\u064A \u0646\u062C\u062D \u0645\u062E\u064A"),
  (0xFDBA, "\u0644\u062C\u0645 \u0643\u0645\u0645 \u0644\u062C\u0645 \u0646\u062C\u062D"),
  (0xFDBE, "\u062C\u062D\u064A \u062D\u062C\u064A \u0645\u062C\u064A \u0641\u0645\u064A"),
  (0xFDC2, "\u0628\u062D\u064A \u0643\u0645\u0645 \u0639\u062C\u0645 \u0635\u0645\u0645"),
  (0xFDC6, "\u0633\u062E\u064A \u0646\u062C\u064A"),
  (0xFDF0, "\u0635\u0644\u06D2 \u0642\u0644\u06D2"),
  (0xFDF2, "\u0627\u0644\u0644\u0647 \u0627\u0643\u0628\u0631 \u0645\u062D\u0645\u062F"),
  (0xFDF5, "\u0635\u0644\u0639\u0645 \u0631\u0633\u0648\u0644 \u0639\u0644\u064A\u0647"),
  (0xFDF8, "\u0648\u0633\u0644\u0645 \u0635\u0644\u0649"),
  (0xFE71, "\u0640\u064B - - - - - \u0640\u064E - \u0640\u064F - \u0640\u0650 - \u0640\u0651"),
  (0xFE7F, "\u0640\u0652"),
  (0xFE80, "\u0621 \u0622 \u0622 \u0623 \u0623 \u0624 \u0624 \u0625 \u0625 \u0626 \u0626"),
  (0xFE8B, "\u0626 \u0626 \u0627 \u0627 \u0628 \u0628 \u0628 \u0628 \u0629 \u0629 \u062A"),
  (0xFE96, "\u062A \u062A \u062A \u062B \u062B \u062B \u062B \u062C \u062C \u062C \u062C"),
  (0xFEA1, "\u062D \u062D \u062D \u062D \u062E \u062E \u062E \u062E \u062F \u062F \u0630"),
  (0xFEAC, "\u0630 \u0631 \u0631 \u0632 \u0632 \u0633 \u0633 \u0633 \u0633 \u0634 \u0634"),
  (0xFEB7, "\u0634 \u0634 \u0635 \u0635 \u0635 \u0635 \u0636 \u0636 \u0636 \u0636 \u0637"),
  (0xFEC2, "\u0637 \u0637 \u0637 \u0638 \u0638 \u0638 \u0638 \u0639 \u0639 \u0639 \u0639"),
  (0xFECD, "\u063A \u063A \u063A \u063A \u0641 \u0641 \u0641 \u0641 \u0642 \u0642 \u0642"),
  (0xFED8, "\u0642 \u0643 \u0643 \u0643 \u0643 \u0644 \u0644 \u0644 \u0644 \u0645 \u0645"),
  (0xFEE3, "\u0645 \u0645 \u0646 \u0646 \u0646 \u0646 \u0647 \u0647 \u0647 \u0647 \u0648"),
  (0xFEEE, "\u0648 \u0649 \u0649 \u064A \u064A \u064A \u064A \u0644\u0622 \u0644\u0622"),
  (0xFEF7, "\u0644\u0623 \u0644\u0623 \u0644\u0625 \u0644\u0625 \u0644\u0627 \u0644\u0627"),
  (0xFF66, "\u30F2 \u30A1 \u30A3 \u30A5 \u30A7 \u30A9 \u30E3 \u30E5 \u30E7 \u30C3 \u30FC"),
  (0xFF71, "\u30A2 \u30A4 \u30A6 \u30A8 \u30AA \u30AB \u30AD \u30AF \u30B1 \u30B3 \u30B5"),
  (0xFF7C, "\u30B7 \u30B9 \u30BB \u30BD \u30BF \u30C1 \u30C4 \u30C6 \u30C8 \u30CA \u30CB"),
  (0xFF87, "\u30CC \u30CD \u30CE \u30CF \u30D2 \u30D5 \u30D8 \u30DB \u30DE \u30DF \u30E0"),
  (0xFF92, "\u30E1 \u30E2 \u30E4 \u30E6 \u30E8 \u30E9 \u30EA \u30EB \u30EC \u30ED \u30EF"),
  (0xFF9D, "\u30F3 \u3099 \u309A \u1160 \u1100 \u1101 \u11AA \u1102 \u11AC \u11AD \u1103"),
  (0xFFA8, "\u1104 \u1105 \u11B0 \u11B1 \u11B2 \u11B3 \u11B4 \u11B5 \u111A \u1106 \u1107"),
  (0xFFB3, "\u1108 \u1121 \u1109 \u110A \u110B \u110C \u110D \u110E \u110F \u1110 \u1111"),
  (0xFFBE, "\u1112 - - - \u1161 \u1162 \u1163 \u1164 \u1165 \u1166 - - \u1167 \u1168 \u1169"),
  (0xFFCD, "\u116A \u116B \u116C - - \u116D \u116E \u116F \u1170 \u1171 \u1172 - - \u1173"),
  (0xFFDB, "\u1174 \u1175"),
  (0x1EE00, "\u0627 \u0628 \u062C \u062F - \u0648 \u0632 \u062D \u0637 \u064A \u0643 \u0644"),
  (0x1EE0C, "\u0645 \u0646 \u0633 \u0639 \u0641 \u0635 \u0642 \u0631 \u0634 \u062A \u062B"),
  (0x1EE17, "\u062E \u0630 \u0636 \u0638 \u063A \u066E \u06BA \u06A1 \u066F - \u0628 \u062C"),
  (0x1EE24, "\u0647 - - \u062D - \u064A \u0643 \u0644 \u0645 \u0646 \u0633 \u0639 \u0641"),
  (0x1EE31, "\u0635 \u0642 - \u0634 \u062A \u062B \u062E - \u0636 - \u063A - - - - - - \u062C"),
  (0x1EE47, "\u062D - \u064A - \u0644 - \u0646 \u0633 \u0639 - \u0635 \u0642 - \u0634"),
  (0x1EE57, "\u062E - \u0636 - \u063A - \u06BA - \u066F - \u0628 \u062C - \u0647"),
  (0x1EE67, "\u062D \u0637 \u064A \u0643 - \u0645 \u0646 \u0633 \u0639 \u0641 \u0635 \u0642"),
  (0x1EE74, "\u0634 \u062A \u062B \u062E - \u0636 \u0638 \u063A \u066E - \u06A1 - \u0627"),
  (0x1EE81, "\u0628 \u062C \u062F \u0647 \u0648 \u0632 \u062D \u0637 \u064A - \u0644 \u0645"),
  (0x1EE8D, "\u0646 \u0633 \u0639 \u0641 \u0635 \u0642 \u0631 \u0634 \u062A \u062B \u062E"),
  (0x1EE98, "\u0630 \u0636 \u0638 \u063A - - - - - \u0628 \u062C \u062F - \u0648 \u0632 \u062D"),
  (0x1EEA8, "\u0637 \u064A - \u0644 \u0645 \u0646 \u0633 \u0639 \u0641 \u0635 \u0642 \u0631"),
  (0x1EEB4, "\u0634 \u062A \u062B \u062E \u0630 \u0636 \u0638 \u063A"),
  (0x2F800, "丽 丸 乁 𠄢 你 侮 侻 倂 偺 備 僧 像 㒞 𠘺 免 兔 兤 具 𠔜 㒹 內 再 𠕋 冗 冤 仌 冬 况 𩇟 凵 刃 㓟 刻 剆 割 剷 㔕 勇 勉 勤 勺"),
  (0x2F829, "包 匆 北 卉 卑 博 即 卽 卿 卿 卿 𠨬 灰 及 叟 𠭣 叫 叱 吆 咞 吸 呈 周 咢 哶 唐 啓 啣 善 善 喙 喫 喳 嗂 圖 嘆 圗 噑 噴 切 壮"),
  (0x2F852, "城 埴 堍 型 堲 報 墬 𡓤 売 壷 夆 多 夢 奢 𡚨 𡛪 姬 娛 娧 姘 婦 㛮 㛼 嬈 嬾 嬾 𡧈 寃 寘 寧 寳 𡬘 寿 将 当 尢 㞁 屠 屮 峀 岍"),
  (0x2F87B, "𡷤 嵃 𡷦 嵮 嵫 嵼 巡 巢 㠯 巽 帨 帽 幩 㡢 𢆃 㡼 庰 庳 庶 廊 𪎒 廾 𢌱 𢌱 舁 弢 弢 㣇 𣊸 𦇚 形 彫 㣣 徚 忍 志 忹 悁 㤺 㤜 悔"),
  (0x2F8A4, "𢛔 惇 慈 慌 慎 慌 慺 憎 憲 憤 憯 懞 懲 懶 成 戛 扝 抱 拔 捐 𢬌 挽 拼 捨 掃 揤 𢯱 搢 揅 掩 㨮 摩 摾 撝 摷 㩬 敏 敬 𣀊 旣 書"),
  (0x2F8CD, "晉 㬙 暑 㬈 㫤 冒 冕 最 暜 肭 䏙 朗 望 朡 杞 杓 𣏃 㭉 柺 枅 桒 梅 𣑭 梎 栟 椔 㮝 楂 榣 槪 檨 𣚣 櫛 㰘 次 𣢧 歔 㱎 歲 殟 殺"),
  (0x2F8F6, "殻 𣪍 𡴋 𣫺 汎 𣲼 沿 泍 汧 洖"),
  (0x2F900, "派 海 流 浩 浸 涅 𣴞 洴 港 湮 㴳 滋 滇 𣻑 淹 潮 𣽞 𣾎 濆 瀹 瀞 瀛 㶖 灊 災 灷 炭 𠔥 煅 𤉣 熜 𤎫 爨 爵 牐 𤘈 犀 犕 𤜵 𤠔 獺"),
  (0x2F929, "王 㺬 玥 㺸 㺸 瑇 瑜 瑱 璅 瓊 㼛 甤 𤰶 甾 𤲒 異 𢆟 瘐 𤾡 𤾸 𥁄 㿼 䀈 直 𥃳 𥃲 𥄙 𥄳 眞 真 真 睊 䀹 瞋 䁆 䂖 𥐝 硎 碌 磌 䃣"),
  (0x2F952, "𥘦 祖 𥚚 𥛅 福 秫 䄯 穀 穊 穏 𥥼 𥪧 𥪧 竮 䈂 𥮫 篆 築 䈧 𥲀 糒 䊠 糨 糣 紀 𥾆 絣 䌁 緇 縂 繅 䌴 𦈨 𦉇 䍙 𦋙 罺 𦌾 羕 翺 者"),
  (0x2F97B, "𦓚 𦔣 聠 𦖨 聰 𣍟 䏕 育 脃 䐋 脾 媵 𦞧 𦞵 𣎓 𣎜 舁 舄 辞 䑫 芑 芋 芝 劳 花 芳 芽 苦 𦬼 若 茝 荣 莭 茣 莽 菧 著 荓 菊 菌 菜"),
  (0x2F9A4, "𦰶 𦵫 𦳕 䔫 蓱 蓳 蔖 𧏊 蕤 𦼬 䕝 䕡 𦾱 𧃒 䕫 虐 虜 虧 虩 蚩 蚈 蜎 蛢 蝹 蜨 蝫 螆 䗗 蟡 蠁 䗹 衠 衣 𧙧 裗 裞 䘵 裺 㒻 𧢮 𧥦"),
  (0x2F9CD, "䚾 䛇 誠 諭 變 豕 𧲨 貫 賁 贛 起 𧼯 𠠄 跋 趼 跰 𠣞 軔 輸 𨗒 𨗭 邔 郱 鄑 𨜮 鄛 鈸 鋗 鋘 鉼 鏹 鐕 𨯺 開 䦕 閷 𨵷 䧦 雃 嶲 霣"),
  (0x2F9F6, "𩅅 𩈚 䩮 䩶 韠 𩐊 䪲 𩒖 頋 頋"),
  (0x2FA00, "頩 𩖶 飢 䬳 餩 馧 駂 駾 䯎 𩬰 鬒 鱀 鳽 䳎 䳭 鵧 𪃎 䳸 𪄅 𪈎 𪊑 麻 䵖 黹 黾 鼅 鼏 鼖 鼻 𪘀")]

/-- The form of a code point by the runs, which are ascending. -/
def foldBy : List (Nat × Nat × Nat) → Nat → Option Nat
  | [], _ => none
  | (first, last, form) :: rest, code =>
    if code < first then none
    else if code ≤ last then some (form + (code - first))
    else foldBy rest code

/-- The form of a code point by the rows, which are ascending. -/
def formBy : List (Nat × String) → Nat → Option (List Char)
  | [], _ => none
  | (first, forms) :: rest, code =>
    if code < first then none
    else match (forms.splitOn " ")[code - first]? with
      | some form => if form == "-" then none else some form.toList
      | none => formBy rest code

/-- The compatibility form of a character. -/
def compatibilityForm (c : Char) : List Char :=
  if c.toNat < 0x80 then [c]
  else match foldBy foldingRuns c.toNat with
    | some form => [Char.ofNat form]
    | none => match expansions.lookup c.toNat with
      | some form => form.map Char.ofNat
      | none => (formBy formRows c.toNat).getD [c]

/-- The kana that a voicing mark and a half voicing mark change to the next kana. -/
def voicedKana : List Nat := [
  0x304B, 0x304D, 0x304F, 0x3051, 0x3053, 0x3055, 0x3057, 0x3059, 0x305B, 0x305D, 0x305F, 0x3061,
  0x3064, 0x3066, 0x3068, 0x306F, 0x3072, 0x3075, 0x3078, 0x307B, 0x309D, 0x30AB, 0x30AD, 0x30AF,
  0x30B1, 0x30B3, 0x30B5, 0x30B7, 0x30B9, 0x30BB, 0x30BD, 0x30BF, 0x30C1, 0x30C4, 0x30C6, 0x30C8,
  0x30CF, 0x30D2, 0x30D5, 0x30D8, 0x30DB, 0x30FD]

/-- The kana that a half voicing mark changes to the kana after the next. -/
def halfVoicedKana : List Nat := [
  0x306F, 0x3072, 0x3075, 0x3078, 0x307B, 0x30CF, 0x30D2, 0x30D5, 0x30D8, 0x30DB]

/-- The voicing mark. -/
def voicing : Nat := 0x3099

/-- The half voicing mark. -/
def halfVoicing : Nat := 0x309A

/-- The kana that a mark changes a kana to. -/
def voiced? (kana mark : Nat) : Option Nat :=
  if mark = voicing then
    if voicedKana.contains kana then some (kana + 1)
    else if kana = 0x3046 ∨ kana = 0x30A6 then some (kana + 0x4E)
    else if 0x30EF ≤ kana ∧ kana ≤ 0x30F2 then some (kana + 8)
    else none
  else if mark = halfVoicing ∧ halfVoicedKana.contains kana then some (kana + 2)
  else none

/-- The Hangul syllable of a leading letter and a vowel, or of a syllable without a final letter and
a final letter. -/
def syllable? (first second : Nat) : Option Nat :=
  if 0x1100 ≤ first ∧ first ≤ 0x1112 ∧ 0x1161 ≤ second ∧ second ≤ 0x1175 then
    some (0xAC00 + ((first - 0x1100) * 21 + (second - 0x1161)) * 28)
  else if 0xAC00 ≤ first ∧ first ≤ 0xD7A3 ∧ (first - 0xAC00) % 28 = 0 ∧
      0x11A8 ≤ second ∧ second ≤ 0x11C2 then
    some (first + (second - 0x11A7))
  else none

/-- The character that two characters are joined to. ASCII characters are joined to nothing. -/
def joined? (first second : Char) : Option Char :=
  if second.toNat < 0x80 then none
  else ((voiced? first.toNat second.toNat).or (syllable? first.toNat second.toNat)).map Char.ofNat

/-- Whether a character is a mark that a voicing mark stands before. -/
def isLateMark (c : Char) : Bool :=
  let code := c.toNat
  decide (0x5B4 ≤ code ∧ code ≤ 0x5C2 ∨ 0x64B ≤ code ∧ code ≤ 0x652 ∨ code = 0x670)

/-- The marks at the end of a text, which is turned round, that a character is put before. -/
def lateMarks (before : List Char) (c : Char) : List Char :=
  if c.toNat = voicing ∨ c.toNat = halfVoicing then before.takeWhile isLateMark else []

/-- Put a character at the end of a text, which is turned round. -/
def settle (before : List Char) (c : Char) : List Char :=
  match lateMarks before c, before with
  | [], last :: rest =>
    match joined? last c with
    | some whole => whole :: rest
    | none => c :: last :: rest
  | late, before => late ++ c :: before.drop late.length

/-- The compatibility form of a text. -/
def foldText (text : String) : String :=
  String.ofList ((text.toList.flatMap compatibilityForm).foldl settle []).reverse

/-- ASCII characters are their own compatibility forms. -/
theorem compatibilityForm_ascii {c : Char} (ascii : c.toNat < 0x80) :
    compatibilityForm c = [c] := by
  simp [compatibilityForm, ascii]

/-- An ASCII character is put at the end of any text. -/
theorem settle_ascii {c : Char} (ascii : c.toNat < 0x80) (before : List Char) :
    settle before c = c :: before := by
  have noMark : ¬(c.toNat = voicing ∨ c.toNat = halfVoicing) := by
    unfold voicing halfVoicing
    omega
  have alone : lateMarks before c = [] := by rw [lateMarks, if_neg noMark]
  unfold settle
  rw [alone]
  cases before with
  | nil => rfl
  | cons last rest =>
    have apart : joined? last c = none := by rw [joined?, if_pos ascii]
    dsimp only
    rw [apart]

/-- ASCII characters are put at the end of any text one after the other. -/
theorem foldl_settle_ascii {text : List Char} (ascii : ∀ c ∈ text, c.toNat < 0x80)
    (before : List Char) : text.foldl settle before = text.reverse ++ before := by
  induction text generalizing before with
  | nil => rfl
  | cons c rest ih =>
    obtain ⟨here, later⟩ := List.forall_mem_cons.1 ascii
    rw [List.foldl_cons, settle_ascii here, ih later, List.reverse_cons, List.append_assoc]
    rfl

/-- The forms of ASCII characters, one after the other, are these characters. -/
theorem flatMap_compatibilityForm_ascii {text : List Char} (ascii : ∀ c ∈ text, c.toNat < 0x80) :
    text.flatMap compatibilityForm = text := by
  rw [List.flatMap_def, List.map_congr_left fun c member => compatibilityForm_ascii (ascii c member),
    ← List.flatMap_def, List.flatMap_singleton']

/-- The form of a text with ASCII characters at its end is the form of the text with them at its
end. -/
theorem foldText_append_ascii (text : String) {ending : List Char}
    (ascii : ∀ c ∈ ending, c.toNat < 0x80) :
    foldText (String.ofList (text.toList ++ ending)) =
      String.ofList ((foldText text).toList ++ ending) := by
  unfold foldText
  rw [String.toList_ofList, String.toList_ofList, List.flatMap_append,
    flatMap_compatibilityForm_ascii ascii, List.foldl_append, foldl_settle_ascii ascii,
    List.reverse_append, List.reverse_reverse]

/-- A text of ASCII characters is its own compatibility form. -/
theorem foldText_ascii {text : String} (ascii : ∀ c ∈ text.toList, c.toNat < 0x80) :
    foldText text = text := by
  rw [foldText, flatMap_compatibilityForm_ascii ascii, foldl_settle_ascii ascii, List.append_nil,
    List.reverse_reverse, String.ofList_toList]

end Lag.Text
