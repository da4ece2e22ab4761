import JsonQuery.Unicode.Category

/-
Writing: what characters are for in running text, such as dashes, quotation marks,
the ends of sentences, ideographs and mathematics.
-/

set_option autoImplicit false

namespace JsonQuery.Unicode

/-- Dashes outside the category of dashes. -/
def otherDash : List Nat := [
  0x2053, 0x2054, 0x207B, 0x207C, 0x208B, 0x208C, 0x2212, 0x2213]

/-- Dashes (Dash). -/
def dash : CharSet := .union (.table dashPunctuation) (.table otherDash)

/-- Hyphens (Hyphen). -/
def hyphen : List Nat := [
  0x2D, 0x2E, 0xAD, 0xAE, 0x58A, 0x58B, 0x1806, 0x1807, 0x2010, 0x2012, 0x2E17, 0x2E18, 0x30FB,
  0x30FC, 0xFE63, 0xFE64, 0xFF0D, 0xFF0E, 0xFF65, 0xFF66]

/-- Quotation marks (Quotation_Mark). -/
def quotationMark : List Nat := [
  0x22, 0x23, 0x27, 0x28, 0xAB, 0xAC, 0xBB, 0xBC, 0x2018, 0x2020, 0x2039, 0x203B, 0x2E42, 0x2E43,
  0x300C, 0x3010, 0x301D, 0x3020, 0xFE41, 0xFE45, 0xFF02, 0xFF03, 0xFF07, 0xFF08, 0xFF62, 0xFF64]

/-- Punctuation at the end of a part of a text (Terminal_Punctuation). -/
def terminalPunctuation : List Nat := [
  0x21, 0x22, 0x2C, 0x2D, 0x2E, 0x2F, 0x3A, 0x3C, 0x3F, 0x40, 0x37E, 0x37F, 0x387, 0x388, 0x589,
  0x58A, 0x5C3, 0x5C4, 0x60C, 0x60D, 0x61B, 0x61C, 0x61D, 0x620, 0x6D4, 0x6D5, 0x700, 0x70B,
  0x70C, 0x70D, 0x7F8, 0x7FA, 0x830, 0x83F, 0x85E, 0x85F, 0x964, 0x966, 0xE5A, 0xE5C, 0xF08,
  0xF09, 0xF0D, 0xF13, 0x104A, 0x104C, 0x1361, 0x1369, 0x166E, 0x166F, 0x16EB, 0x16EE, 0x1735,
  0x1737, 0x17D4, 0x17D7, 0x17DA, 0x17DB, 0x1802, 0x1806, 0x1808, 0x180A, 0x1944, 0x1946, 0x1AA8,
  0x1AAC, 0x1B5A, 0x1B5C, 0x1B5D, 0x1B60, 0x1B7D, 0x1B7F, 0x1C3B, 0x1C40, 0x1C7E, 0x1C80, 0x203C,
  0x203E, 0x2047, 0x204A, 0x2E2E, 0x2E2F, 0x2E3C, 0x2E3D, 0x2E41, 0x2E42, 0x2E4C, 0x2E4D, 0x2E4E,
  0x2E50, 0x2E53, 0x2E55, 0x3001, 0x3003, 0xA4FE, 0xA500, 0xA60D, 0xA610, 0xA6F3, 0xA6F8, 0xA876,
  0xA878, 0xA8CE, 0xA8D0, 0xA92F, 0xA930, 0xA9C7, 0xA9CA, 0xAA5D, 0xAA60, 0xAADF, 0xAAE0, 0xAAF0,
  0xAAF2, 0xABEB, 0xABEC, 0xFE50, 0xFE53, 0xFE54, 0xFE58, 0xFF01, 0xFF02, 0xFF0C, 0xFF0D, 0xFF0E,
  0xFF0F, 0xFF1A, 0xFF1C, 0xFF1F, 0xFF20, 0xFF61, 0xFF62, 0xFF64, 0xFF65, 0x1039F, 0x103A0,
  0x103D0, 0x103D1, 0x10857, 0x10858, 0x1091F, 0x10920, 0x10A56, 0x10A58, 0x10AF0, 0x10AF6,
  0x10B3A, 0x10B40, 0x10B99, 0x10B9D, 0x10F55, 0x10F5A, 0x10F86, 0x10F8A, 0x11047, 0x1104E,
  0x110BE, 0x110C2, 0x11141, 0x11144, 0x111C5, 0x111C7, 0x111CD, 0x111CE, 0x111DE, 0x111E0,
  0x11238, 0x1123D, 0x112A9, 0x112AA, 0x1144B, 0x1144E, 0x1145A, 0x1145C, 0x115C2, 0x115C6,
  0x115C9, 0x115D8, 0x11641, 0x11643, 0x1173C, 0x1173F, 0x11944, 0x11945, 0x11946, 0x11947,
  0x11A42, 0x11A44, 0x11A9B, 0x11A9D, 0x11AA1, 0x11AA3, 0x11C41, 0x11C44, 0x11C71, 0x11C72,
  0x11EF7, 0x11EF9, 0x11F43, 0x11F45, 0x12470, 0x12475, 0x16A6E, 0x16A70, 0x16AF5, 0x16AF6,
  0x16B37, 0x16B3A, 0x16B44, 0x16B45, 0x16E97, 0x16E99, 0x1BC9F, 0x1BCA0, 0x1DA87, 0x1DA8B]

/-- Punctuation at the end of a sentence (Sentence_Terminal). -/
def sentenceTerminal : List Nat := [
  0x21, 0x22, 0x2E, 0x2F, 0x3F, 0x40, 0x589, 0x58A, 0x61D, 0x620, 0x6D4, 0x6D5, 0x700, 0x703,
  0x7F9, 0x7FA, 0x837, 0x838, 0x839, 0x83A, 0x83D, 0x83F, 0x964, 0x966, 0x104A, 0x104C, 0x1362,
  0x1363, 0x1367, 0x1369, 0x166E, 0x166F, 0x1735, 0x1737, 0x1803, 0x1804, 0x1809, 0x180A, 0x1944,
  0x1946, 0x1AA8, 0x1AAC, 0x1B5A, 0x1B5C, 0x1B5E, 0x1B60, 0x1B7D, 0x1B7F, 0x1C3B, 0x1C3D, 0x1C7E,
  0x1C80, 0x203C, 0x203E, 0x2047, 0x204A, 0x2E2E, 0x2E2F, 0x2E3C, 0x2E3D, 0x2E53, 0x2E55, 0x3002,
  0x3003, 0xA4FF, 0xA500, 0xA60E, 0xA610, 0xA6F3, 0xA6F4, 0xA6F7, 0xA6F8, 0xA876, 0xA878, 0xA8CE,
  0xA8D0, 0xA92F, 0xA930, 0xA9C8, 0xA9CA, 0xAA5D, 0xAA60, 0xAAF0, 0xAAF2, 0xABEB, 0xABEC, 0xFE52,
  0xFE53, 0xFE56, 0xFE58, 0xFF01, 0xFF02, 0xFF0E, 0xFF0F, 0xFF1F, 0xFF20, 0xFF61, 0xFF62,
  0x10A56, 0x10A58, 0x10F55, 0x10F5A, 0x10F86, 0x10F8A, 0x11047, 0x11049, 0x110BE, 0x110C2,
  0x11141, 0x11144, 0x111C5, 0x111C7, 0x111CD, 0x111CE, 0x111DE, 0x111E0, 0x11238, 0x1123A,
  0x1123B, 0x1123D, 0x112A9, 0x112AA, 0x1144B, 0x1144D, 0x115C2, 0x115C4, 0x115C9, 0x115D8,
  0x11641, 0x11643, 0x1173C, 0x1173F, 0x11944, 0x11945, 0x11946, 0x11947, 0x11A42, 0x11A44,
  0x11A9B, 0x11A9D, 0x11C41, 0x11C43, 0x11EF7, 0x11EF9, 0x11F43, 0x11F45, 0x16A6E, 0x16A70,
  0x16AF5, 0x16AF6, 0x16B37, 0x16B39, 0x16B44, 0x16B45, 0x16E98, 0x16E99, 0x1BC9F, 0x1BCA0,
  0x1DA88, 0x1DA89]

/-- Characters that modify another one (Diacritic). -/
def diacritic : List Nat := [
  0x5E, 0x5F, 0x60, 0x61, 0xA8, 0xA9, 0xAF, 0xB0, 0xB4, 0xB5, 0xB7, 0xB9, 0x2B0, 0x34F, 0x350,
  0x358, 0x35D, 0x363, 0x374, 0x376, 0x37A, 0x37B, 0x384, 0x386, 0x483, 0x488, 0x559, 0x55A,
  0x591, 0x5A2, 0x5A3, 0x5BE, 0x5BF, 0x5C0, 0x5C1, 0x5C3, 0x5C4, 0x5C5, 0x64B, 0x653, 0x657,
  0x659, 0x6DF, 0x6E1, 0x6E5, 0x6E7, 0x6EA, 0x6ED, 0x730, 0x74B, 0x7A6, 0x7B1, 0x7EB, 0x7F6,
  0x818, 0x81A, 0x898, 0x8A0, 0x8C9, 0x8D3, 0x8E3, 0x8FF, 0x93C, 0x93D, 0x94D, 0x94E, 0x951,
  0x955, 0x971, 0x972, 0x9BC, 0x9BD, 0x9CD, 0x9CE, 0xA3C, 0xA3D, 0xA4D, 0xA4E, 0xABC, 0xABD,
  0xACD, 0xACE, 0xAFD, 0xB00, 0xB3C, 0xB3D, 0xB4D, 0xB4E, 0xB55, 0xB56, 0xBCD, 0xBCE, 0xC3C,
  0xC3D, 0xC4D, 0xC4E, 0xCBC, 0xCBD, 0xCCD, 0xCCE, 0xD3B, 0xD3D, 0xD4D, 0xD4E, 0xDCA, 0xDCB,
  0xE47, 0xE4D, 0xE4E, 0xE4F, 0xEBA, 0xEBB, 0xEC8, 0xECD, 0xF18, 0xF1A, 0xF35, 0xF36, 0xF37,
  0xF38, 0xF39, 0xF3A, 0xF3E, 0xF40, 0xF82, 0xF85, 0xF86, 0xF88, 0xFC6, 0xFC7, 0x1037, 0x1038,
  0x1039, 0x103B, 0x1063, 0x1065, 0x1069, 0x106E, 0x1087, 0x108E, 0x108F, 0x1090, 0x109A, 0x109C,
  0x135D, 0x1360, 0x1714, 0x1716, 0x17C9, 0x17D4, 0x17DD, 0x17DE, 0x1939, 0x193C, 0x1A75, 0x1A7D,
  0x1A7F, 0x1A80, 0x1AB0, 0x1ABF, 0x1AC1, 0x1ACC, 0x1B34, 0x1B35, 0x1B44, 0x1B45, 0x1B6B, 0x1B74,
  0x1BAA, 0x1BAC, 0x1C36, 0x1C38, 0x1C78, 0x1C7E, 0x1CD0, 0x1CE9, 0x1CED, 0x1CEE, 0x1CF4, 0x1CF5,
  0x1CF7, 0x1CFA, 0x1D2C, 0x1D6B, 0x1DC4, 0x1DD0, 0x1DF5, 0x1E00, 0x1FBD, 0x1FBE, 0x1FBF, 0x1FC2,
  0x1FCD, 0x1FD0, 0x1FDD, 0x1FE0, 0x1FED, 0x1FF0, 0x1FFD, 0x1FFF, 0x2CEF, 0x2CF2, 0x2E2F, 0x2E30,
  0x302A, 0x3030, 0x3099, 0x309D, 0x30FC, 0x30FD, 0xA66F, 0xA670, 0xA67C, 0xA67E, 0xA67F, 0xA680,
  0xA69C, 0xA69E, 0xA6F0, 0xA6F2, 0xA700, 0xA722, 0xA788, 0xA78B, 0xA7F8, 0xA7FA, 0xA8C4, 0xA8C5,
  0xA8E0, 0xA8F2, 0xA92B, 0xA92F, 0xA953, 0xA954, 0xA9B3, 0xA9B4, 0xA9C0, 0xA9C1, 0xA9E5, 0xA9E6,
  0xAA7B, 0xAA7E, 0xAABF, 0xAAC3, 0xAAF6, 0xAAF7, 0xAB5B, 0xAB60, 0xAB69, 0xAB6C, 0xABEC, 0xABEE,
  0xFB1E, 0xFB1F, 0xFE20, 0xFE30, 0xFF3E, 0xFF3F, 0xFF40, 0xFF41, 0xFF70, 0xFF71, 0xFF9E, 0xFFA0,
  0xFFE3, 0xFFE4, 0x102E0, 0x102E1, 0x10780, 0x10786, 0x10787, 0x107B1, 0x107B2, 0x107BB,
  0x10AE5, 0x10AE7, 0x10D22, 0x10D28, 0x10EFD, 0x10F00, 0x10F46, 0x10F51, 0x10F82, 0x10F86,
  0x11046, 0x11047, 0x11070, 0x11071, 0x110B9, 0x110BB, 0x11133, 0x11135, 0x11173, 0x11174,
  0x111C0, 0x111C1, 0x111CA, 0x111CD, 0x11235, 0x11237, 0x112E9, 0x112EB, 0x1133C, 0x1133D,
  0x1134D, 0x1134E, 0x11366, 0x1136D, 0x11370, 0x11375, 0x11442, 0x11443, 0x11446, 0x11447,
  0x114C2, 0x114C4, 0x115BF, 0x115C1, 0x1163F, 0x11640, 0x116B6, 0x116B8, 0x1172B, 0x1172C,
  0x11839, 0x1183B, 0x1193D, 0x1193F, 0x11943, 0x11944, 0x119E0, 0x119E1, 0x11A34, 0x11A35,
  0x11A47, 0x11A48, 0x11A99, 0x11A9A, 0x11C3F, 0x11C40, 0x11D42, 0x11D43, 0x11D44, 0x11D46,
  0x11D97, 0x11D98, 0x13447, 0x13456, 0x16AF0, 0x16AF5, 0x16B30, 0x16B37, 0x16F8F, 0x16FA0,
  0x16FF0, 0x16FF2, 0x1AFF0, 0x1AFF4, 0x1AFF5, 0x1AFFC, 0x1AFFD, 0x1AFFF, 0x1CF00, 0x1CF2E,
  0x1CF30, 0x1CF47, 0x1D167, 0x1D16A, 0x1D16D, 0x1D173, 0x1D17B, 0x1D183, 0x1D185, 0x1D18C,
  0x1D1AA, 0x1D1AE, 0x1E030, 0x1E06E, 0x1E130, 0x1E137, 0x1E2AE, 0x1E2AF, 0x1E2EC, 0x1E2F0,
  0x1E8D0, 0x1E8D7, 0x1E944, 0x1E947, 0x1E948, 0x1E94B]

/-- Characters that lengthen or repeat another one (Extender). -/
def extender : List Nat := [
  0xB7, 0xB8, 0x2D0, 0x2D2, 0x640, 0x641, 0x7FA, 0x7FB, 0xB55, 0xB56, 0xE46, 0xE47, 0xEC6, 0xEC7,
  0x180A, 0x180B, 0x1843, 0x1844, 0x1AA7, 0x1AA8, 0x1C36, 0x1C37, 0x1C7B, 0x1C7C, 0x3005, 0x3006,
  0x3031, 0x3036, 0x309D, 0x309F, 0x30FC, 0x30FF, 0xA015, 0xA016, 0xA60C, 0xA60D, 0xA9CF, 0xA9D0,
  0xA9E6, 0xA9E7, 0xAA70, 0xAA71, 0xAADD, 0xAADE, 0xAAF3, 0xAAF5, 0xFF70, 0xFF71, 0x10781,
  0x10783, 0x1135D, 0x1135E, 0x115C6, 0x115C9, 0x11A98, 0x11A99, 0x16B42, 0x16B44, 0x16FE0,
  0x16FE2, 0x16FE3, 0x16FE4, 0x1E13C, 0x1E13E, 0x1E944, 0x1E947]

/-- Characters whose dot disappears under an accent (Soft_Dotted). -/
def softDotted : List Nat := [
  0x69, 0x6B, 0x12F, 0x130, 0x249, 0x24A, 0x268, 0x269, 0x29D, 0x29E, 0x2B2, 0x2B3, 0x3F3, 0x3F4,
  0x456, 0x457, 0x458, 0x459, 0x1D62, 0x1D63, 0x1D96, 0x1D97, 0x1DA4, 0x1DA5, 0x1DA8, 0x1DA9,
  0x1E2D, 0x1E2E, 0x1ECB, 0x1ECC, 0x2071, 0x2072, 0x2148, 0x214A, 0x2C7C, 0x2C7D, 0x1D422,
  0x1D424, 0x1D456, 0x1D458, 0x1D48A, 0x1D48C, 0x1D4BE, 0x1D4C0, 0x1D4F2, 0x1D4F4, 0x1D526,
  0x1D528, 0x1D55A, 0x1D55C, 0x1D58E, 0x1D590, 0x1D5C2, 0x1D5C4, 0x1D5F6, 0x1D5F8, 0x1D62A,
  0x1D62C, 0x1D65E, 0x1D660, 0x1D692, 0x1D694, 0x1DF1A, 0x1DF1B, 0x1E04C, 0x1E04E, 0x1E068,
  0x1E069]

/-- Hexadecimal digits (Hex_Digit). -/
def hexDigit : List Nat := [
  0x30, 0x3A, 0x41, 0x47, 0x61, 0x67, 0xFF10, 0xFF1A, 0xFF21, 0xFF27, 0xFF41, 0xFF47]

/-- Ideographs (Ideographic). -/
def ideographic : List Nat := [
  0x3006, 0x3008, 0x3021, 0x302A, 0x3038, 0x303B, 0x3400, 0x4DC0, 0x4E00, 0xA000, 0xF900, 0xFA6E,
  0xFA70, 0xFADA, 0x16FE4, 0x16FE5, 0x17000, 0x187F8, 0x18800, 0x18CD6, 0x18D00, 0x18D09,
  0x1B170, 0x1B2FC, 0x20000, 0x2A6E0, 0x2A700, 0x2B73A, 0x2B740, 0x2B81E, 0x2B820, 0x2CEA2,
  0x2CEB0, 0x2EBE1, 0x2F800, 0x2FA1E, 0x30000, 0x3134B, 0x31350, 0x323B0]

/-- Ideographs of the unified set (Unified_Ideograph). -/
def unifiedIdeograph : List Nat := [
  0x3400, 0x4DC0, 0x4E00, 0xA000, 0xFA0E, 0xFA10, 0xFA11, 0xFA12, 0xFA13, 0xFA15, 0xFA1F, 0xFA20,
  0xFA21, 0xFA22, 0xFA23, 0xFA25, 0xFA27, 0xFA2A, 0x20000, 0x2A6E0, 0x2A700, 0x2B73A, 0x2B740,
  0x2B81E, 0x2B820, 0x2CEA2, 0x2CEB0, 0x2EBE1, 0x30000, 0x3134B, 0x31350, 0x323B0]

/-- Parts that ideographs are ordered by (Radical). -/
def radical : List Nat := [
  0x2E80, 0x2E9A, 0x2E9B, 0x2EF4, 0x2F00, 0x2FD6]

/-- Operators that describe an ideograph by two parts (IDS_Binary_Operator). -/
def binaryDescription : List Nat := [
  0x2FF0, 0x2FF2, 0x2FF4, 0x2FFC]

/-- Operators that describe an ideograph by three parts (IDS_Trinary_Operator). -/
def ternaryDescription : List Nat := [
  0x2FF2, 0x2FF4]

/-- Characters of formulas that are no mathematical symbols (Other_Math). -/
def otherMath : List Nat := [
  0x5E, 0x5F, 0x3D0, 0x3D3, 0x3D5, 0x3D6, 0x3F0, 0x3F2, 0x3F4, 0x3F6, 0x2016, 0x2017, 0x2032,
  0x2035, 0x2040, 0x2041, 0x2061, 0x2065, 0x207D, 0x207F, 0x208D, 0x208F, 0x20D0, 0x20DD, 0x20E1,
  0x20E2, 0x20E5, 0x20E7, 0x20EB, 0x20F0, 0x2102, 0x2103, 0x2107, 0x2108, 0x210A, 0x2114, 0x2115,
  0x2116, 0x2119, 0x211E, 0x2124, 0x2125, 0x2128, 0x212A, 0x212C, 0x212E, 0x212F, 0x2132, 0x2133,
  0x2139, 0x213C, 0x2140, 0x2145, 0x214A, 0x2195, 0x219A, 0x219C, 0x21A0, 0x21A1, 0x21A3, 0x21A4,
  0x21A6, 0x21A7, 0x21A8, 0x21A9, 0x21AE, 0x21B0, 0x21B2, 0x21B6, 0x21B8, 0x21BC, 0x21CE, 0x21D0,
  0x21D2, 0x21D3, 0x21D4, 0x21D5, 0x21DC, 0x21DD, 0x21DE, 0x21E4, 0x21E6, 0x2308, 0x230C, 0x23B4,
  0x23B6, 0x23B7, 0x23B8, 0x23D0, 0x23D1, 0x23E2, 0x23E3, 0x25A0, 0x25A2, 0x25AE, 0x25B7, 0x25BC,
  0x25C1, 0x25C6, 0x25C8, 0x25CA, 0x25CC, 0x25CF, 0x25D4, 0x25E2, 0x25E3, 0x25E4, 0x25E5, 0x25E7,
  0x25ED, 0x2605, 0x2607, 0x2640, 0x2641, 0x2642, 0x2643, 0x2660, 0x2664, 0x266D, 0x266F, 0x27C5,
  0x27C7, 0x27E6, 0x27F0, 0x2983, 0x2999, 0x29D8, 0x29DC, 0x29FC, 0x29FE, 0xFE61, 0xFE62, 0xFE63,
  0xFE64, 0xFE68, 0xFE69, 0xFF3C, 0xFF3D, 0xFF3E, 0xFF3F, 0x1D400, 0x1D455, 0x1D456, 0x1D49D,
  0x1D49E, 0x1D4A0, 0x1D4A2, 0x1D4A3, 0x1D4A5, 0x1D4A7, 0x1D4A9, 0x1D4AD, 0x1D4AE, 0x1D4BA,
  0x1D4BB, 0x1D4BC, 0x1D4BD, 0x1D4C4, 0x1D4C5, 0x1D506, 0x1D507, 0x1D50B, 0x1D50D, 0x1D515,
  0x1D516, 0x1D51D, 0x1D51E, 0x1D53A, 0x1D53B, 0x1D53F, 0x1D540, 0x1D545, 0x1D546, 0x1D547,
  0x1D54A, 0x1D551, 0x1D552, 0x1D6A6, 0x1D6A8, 0x1D6C1, 0x1D6C2, 0x1D6DB, 0x1D6DC, 0x1D6FB,
  0x1D6FC, 0x1D715, 0x1D716, 0x1D735, 0x1D736, 0x1D74F, 0x1D750, 0x1D76F, 0x1D770, 0x1D789,
  0x1D78A, 0x1D7A9, 0x1D7AA, 0x1D7C3, 0x1D7C4, 0x1D7CC, 0x1D7CE, 0x1D800, 0x1EE00, 0x1EE04,
  0x1EE05, 0x1EE20, 0x1EE21, 0x1EE23, 0x1EE24, 0x1EE25, 0x1EE27, 0x1EE28, 0x1EE29, 0x1EE33,
  0x1EE34, 0x1EE38, 0x1EE39, 0x1EE3A, 0x1EE3B, 0x1EE3C, 0x1EE42, 0x1EE43, 0x1EE47, 0x1EE48,
  0x1EE49, 0x1EE4A, 0x1EE4B, 0x1EE4C, 0x1EE4D, 0x1EE50, 0x1EE51, 0x1EE53, 0x1EE54, 0x1EE55,
  0x1EE57, 0x1EE58, 0x1EE59, 0x1EE5A, 0x1EE5B, 0x1EE5C, 0x1EE5D, 0x1EE5E, 0x1EE5F, 0x1EE60,
  0x1EE61, 0x1EE63, 0x1EE64, 0x1EE65, 0x1EE67, 0x1EE6B, 0x1EE6C, 0x1EE73, 0x1EE74, 0x1EE78,
  0x1EE79, 0x1EE7D, 0x1EE7E, 0x1EE7F, 0x1EE80, 0x1EE8A, 0x1EE8B, 0x1EE9C, 0x1EEA1, 0x1EEA4,
  0x1EEA5, 0x1EEAA, 0x1EEAB, 0x1EEBC]

/-- Characters of formulas (Math). -/
def math : CharSet := .union (.table mathSymbol) (.table otherMath)

end JsonQuery.Unicode
