/-
Script extensions: the code points that are used with each script, where they are
not just the code points of the script itself, as the boundaries of their ranges.
-/

set_option autoImplicit false

namespace JsonQuery.Unicode

/-- What is used with the script Adlam. -/
def adlamExtension : List Nat := [
  0x61F, 0x620, 0x640, 0x641, 0x1E900, 0x1E94C, 0x1E950, 0x1E95A, 0x1E95E, 0x1E960]

/-- What is used with the script Arabic. -/
def arabicExtension : List Nat := [
  0x600, 0x605, 0x606, 0x6DD, 0x6DE, 0x700, 0x750, 0x780, 0x870, 0x88F, 0x890, 0x892, 0x898,
  0x8E2, 0x8E3, 0x900, 0xFB50, 0xFBC3, 0xFBD3, 0xFD90, 0xFD92, 0xFDC8, 0xFDCF, 0xFDD0, 0xFDF0,
  0xFE00, 0xFE70, 0xFE75, 0xFE76, 0xFEFD, 0x102E0, 0x102FC, 0x10E60, 0x10E7F, 0x10EFD, 0x10F00,
  0x1EE00, 0x1EE04, 0x1EE05, 0x1EE20, 0x1EE21, 0x1EE23, 0x1EE24, 0x1EE25, 0x1EE27, 0x1EE28,
  0x1EE29, 0x1EE33, 0x1EE34, 0x1EE38, 0x1EE39, 0x1EE3A, 0x1EE3B, 0x1EE3C, 0x1EE42, 0x1EE43,
  0x1EE47, 0x1EE48, 0x1EE49, 0x1EE4A, 0x1EE4B, 0x1EE4C, 0x1EE4D, 0x1EE50, 0x1EE51, 0x1EE53,
  0x1EE54, 0x1EE55, 0x1EE57, 0x1EE58, 0x1EE59, 0x1EE5A, 0x1EE5B, 0x1EE5C, 0x1EE5D, 0x1EE5E,
  0x1EE5F, 0x1EE60, 0x1EE61, 0x1EE63, 0x1EE64, 0x1EE65, 0x1EE67, 0x1EE6B, 0x1EE6C, 0x1EE73,
  0x1EE74, 0x1EE78, 0x1EE79, 0x1EE7D, 0x1EE7E, 0x1EE7F, 0x1EE80, 0x1EE8A, 0x1EE8B, 0x1EE9C,
  0x1EEA1, 0x1EEA4, 0x1EEA5, 0x1EEAA, 0x1EEAB, 0x1EEBC, 0x1EEF0, 0x1EEF2]

/-- What is used with the script Bengali. -/
def bengaliExtension : List Nat := [
  0x951, 0x953, 0x964, 0x966, 0x980, 0x984, 0x985, 0x98D, 0x98F, 0x991, 0x993, 0x9A9, 0x9AA,
  0x9B1, 0x9B2, 0x9B3, 0x9B6, 0x9BA, 0x9BC, 0x9C5, 0x9C7, 0x9C9, 0x9CB, 0x9CF, 0x9D7, 0x9D8,
  0x9DC, 0x9DE, 0x9DF, 0x9E4, 0x9E6, 0x9FF, 0x1CD0, 0x1CD1, 0x1CD2, 0x1CD3, 0x1CD5, 0x1CD7,
  0x1CD8, 0x1CD9, 0x1CE1, 0x1CE2, 0x1CEA, 0x1CEB, 0x1CED, 0x1CEE, 0x1CF2, 0x1CF3, 0x1CF5, 0x1CF8,
  0xA8F1, 0xA8F2]

/-- What is used with the script Bopomofo. -/
def bopomofoExtension : List Nat := [
  0x2EA, 0x2EC, 0x3001, 0x3004, 0x3008, 0x3012, 0x3013, 0x3020, 0x302A, 0x302E, 0x3030, 0x3031,
  0x3037, 0x3038, 0x30FB, 0x30FC, 0x3105, 0x3130, 0x31A0, 0x31C0, 0xFE45, 0xFE47, 0xFF61, 0xFF66]

/-- What is used with the script Buginese. -/
def bugineseExtension : List Nat := [
  0x1A00, 0x1A1C, 0x1A1E, 0x1A20, 0xA9CF, 0xA9D0]

/-- What is used with the script Buhid. -/
def buhidExtension : List Nat := [
  0x1735, 0x1737, 0x1740, 0x1754]

/-- What is used with the script Chakma. -/
def chakmaExtension : List Nat := [
  0x9E6, 0x9F0, 0x1040, 0x104A, 0x11100, 0x11135, 0x11136, 0x11148]

/-- What is used with the script Coptic. -/
def copticExtension : List Nat := [
  0x3E2, 0x3F0, 0x2C80, 0x2CF4, 0x2CF9, 0x2D00, 0x102E0, 0x102FC]

/-- What is used with the script Cypro Minoan. -/
def cyproMinoanExtension : List Nat := [
  0x10100, 0x10102, 0x12F90, 0x12FF3]

/-- What is used with the script Cypriot. -/
def cypriotExtension : List Nat := [
  0x10100, 0x10103, 0x10107, 0x10134, 0x10137, 0x10140, 0x10800, 0x10806, 0x10808, 0x10809,
  0x1080A, 0x10836, 0x10837, 0x10839, 0x1083C, 0x1083D, 0x1083F, 0x10840]

/-- What is used with the script Cyrillic. -/
def cyrillicExtension : List Nat := [
  0x400, 0x530, 0x1C80, 0x1C89, 0x1D2B, 0x1D2C, 0x1D78, 0x1D79, 0x1DF8, 0x1DF9, 0x2DE0, 0x2E00,
  0x2E43, 0x2E44, 0xA640, 0xA6A0, 0xFE2E, 0xFE30, 0x1E030, 0x1E06E, 0x1E08F, 0x1E090]

/-- What is used with the script Devanagari. -/
def devanagariExtension : List Nat := [
  0x900, 0x953, 0x955, 0x980, 0x1CD0, 0x1CF7, 0x1CF8, 0x1CFA, 0x20F0, 0x20F1, 0xA830, 0xA83A,
  0xA8E0, 0xA900, 0x11B00, 0x11B0A]

/-- What is used with the script Dogra. -/
def dograExtension : List Nat := [
  0x964, 0x970, 0xA830, 0xA83A, 0x11800, 0x1183C]

/-- What is used with the script Duployan. -/
def duployanExtension : List Nat := [
  0x1BC00, 0x1BC6B, 0x1BC70, 0x1BC7D, 0x1BC80, 0x1BC89, 0x1BC90, 0x1BC9A, 0x1BC9C, 0x1BCA4]

/-- What is used with the script Georgian. -/
def georgianExtension : List Nat := [
  0x10A0, 0x10C6, 0x10C7, 0x10C8, 0x10CD, 0x10CE, 0x10D0, 0x1100, 0x1C90, 0x1CBB, 0x1CBD, 0x1CC0,
  0x2D00, 0x2D26, 0x2D27, 0x2D28, 0x2D2D, 0x2D2E]

/-- What is used with the script Glagolitic. -/
def glagoliticExtension : List Nat := [
  0x484, 0x485, 0x487, 0x488, 0x2C00, 0x2C60, 0x2E43, 0x2E44, 0xA66F, 0xA670, 0x1E000, 0x1E007,
  0x1E008, 0x1E019, 0x1E01B, 0x1E022, 0x1E023, 0x1E025, 0x1E026, 0x1E02B]

/-- What is used with the script Gunjala Gondi. -/
def gunjalaGondiExtension : List Nat := [
  0x964, 0x966, 0x11D60, 0x11D66, 0x11D67, 0x11D69, 0x11D6A, 0x11D8F, 0x11D90, 0x11D92, 0x11D93,
  0x11D99, 0x11DA0, 0x11DAA]

/-- What is used with the script Masaram Gondi. -/
def masaramGondiExtension : List Nat := [
  0x964, 0x966, 0x11D00, 0x11D07, 0x11D08, 0x11D0A, 0x11D0B, 0x11D37, 0x11D3A, 0x11D3B, 0x11D3C,
  0x11D3E, 0x11D3F, 0x11D48, 0x11D50, 0x11D5A]

/-- What is used with the script Grantha. -/
def granthaExtension : List Nat := [
  0x951, 0x953, 0x964, 0x966, 0xBE6, 0xBF4, 0x1CD0, 0x1CD1, 0x1CD2, 0x1CD4, 0x1CF2, 0x1CF5,
  0x1CF8, 0x1CFA, 0x20F0, 0x20F1, 0x11300, 0x11304, 0x11305, 0x1130D, 0x1130F, 0x11311, 0x11313,
  0x11329, 0x1132A, 0x11331, 0x11332, 0x11334, 0x11335, 0x1133A, 0x1133B, 0x11345, 0x11347,
  0x11349, 0x1134B, 0x1134E, 0x11350, 0x11351, 0x11357, 0x11358, 0x1135D, 0x11364, 0x11366,
  0x1136D, 0x11370, 0x11375, 0x11FD0, 0x11FD2, 0x11FD3, 0x11FD4]

/-- What is used with the script Greek. -/
def greekExtension : List Nat := [
  0x342, 0x343, 0x345, 0x346, 0x370, 0x374, 0x375, 0x378, 0x37A, 0x37E, 0x37F, 0x380, 0x384,
  0x385, 0x386, 0x387, 0x388, 0x38B, 0x38C, 0x38D, 0x38E, 0x3A2, 0x3A3, 0x3E2, 0x3F0, 0x400,
  0x1D26, 0x1D2B, 0x1D5D, 0x1D62, 0x1D66, 0x1D6B, 0x1DBF, 0x1DC2, 0x1F00, 0x1F16, 0x1F18, 0x1F1E,
  0x1F20, 0x1F46, 0x1F48, 0x1F4E, 0x1F50, 0x1F58, 0x1F59, 0x1F5A, 0x1F5B, 0x1F5C, 0x1F5D, 0x1F5E,
  0x1F5F, 0x1F7E, 0x1F80, 0x1FB5, 0x1FB6, 0x1FC5, 0x1FC6, 0x1FD4, 0x1FD6, 0x1FDC, 0x1FDD, 0x1FF0,
  0x1FF2, 0x1FF5, 0x1FF6, 0x1FFF, 0x2126, 0x2127, 0xAB65, 0xAB66, 0x10140, 0x1018F, 0x101A0,
  0x101A1, 0x1D200, 0x1D246]

/-- What is used with the script Gujarati. -/
def gujaratiExtension : List Nat := [
  0x951, 0x953, 0x964, 0x966, 0xA81, 0xA84, 0xA85, 0xA8E, 0xA8F, 0xA92, 0xA93, 0xAA9, 0xAAA,
  0xAB1, 0xAB2, 0xAB4, 0xAB5, 0xABA, 0xABC, 0xAC6, 0xAC7, 0xACA, 0xACB, 0xACE, 0xAD0, 0xAD1,
  0xAE0, 0xAE4, 0xAE6, 0xAF2, 0xAF9, 0xB00, 0xA830, 0xA83A]

/-- What is used with the script Gurmukhi. -/
def gurmukhiExtension : List Nat := [
  0x951, 0x953, 0x964, 0x966, 0xA01, 0xA04, 0xA05, 0xA0B, 0xA0F, 0xA11, 0xA13, 0xA29, 0xA2A,
  0xA31, 0xA32, 0xA34, 0xA35, 0xA37, 0xA38, 0xA3A, 0xA3C, 0xA3D, 0xA3E, 0xA43, 0xA47, 0xA49,
  0xA4B, 0xA4E, 0xA51, 0xA52, 0xA59, 0xA5D, 0xA5E, 0xA5F, 0xA66, 0xA77, 0xA830, 0xA83A]

/-- What is used with the script Hangul. -/
def hangulExtension : List Nat := [
  0x1100, 0x1200, 0x3001, 0x3004, 0x3008, 0x3012, 0x3013, 0x3020, 0x302E, 0x3031, 0x3037, 0x3038,
  0x30FB, 0x30FC, 0x3131, 0x318F, 0x3200, 0x321F, 0x3260, 0x327F, 0xA960, 0xA97D, 0xAC00, 0xD7A4,
  0xD7B0, 0xD7C7, 0xD7CB, 0xD7FC, 0xFE45, 0xFE47, 0xFF61, 0xFF66, 0xFFA0, 0xFFBF, 0xFFC2, 0xFFC8,
  0xFFCA, 0xFFD0, 0xFFD2, 0xFFD8, 0xFFDA, 0xFFDD]

/-- What is used with the script Han. -/
def hanExtension : List Nat := [
  0x2E80, 0x2E9A, 0x2E9B, 0x2EF4, 0x2F00, 0x2FD6, 0x3001, 0x3004, 0x3005, 0x3012, 0x3013, 0x3020,
  0x3021, 0x302E, 0x3030, 0x3031, 0x3037, 0x3040, 0x30FB, 0x30FC, 0x3190, 0x31A0, 0x31C0, 0x31E4,
  0x3220, 0x3248, 0x3280, 0x32B1, 0x32C0, 0x32CC, 0x32FF, 0x3300, 0x3358, 0x3371, 0x337B, 0x3380,
  0x33E0, 0x33FF, 0x3400, 0x4DC0, 0x4E00, 0xA000, 0xA700, 0xA708, 0xF900, 0xFA6E, 0xFA70, 0xFADA,
  0xFE45, 0xFE47, 0xFF61, 0xFF66, 0x16FE2, 0x16FE4, 0x16FF0, 0x16FF2, 0x1D360, 0x1D372, 0x1F250,
  0x1F252, 0x20000, 0x2A6E0, 0x2A700, 0x2B73A, 0x2B740, 0x2B81E, 0x2B820, 0x2CEA2, 0x2CEB0,
  0x2EBE1, 0x2F800, 0x2FA1E, 0x30000, 0x3134B, 0x31350, 0x323B0]

/-- What is used with the script Hanunoo. -/
def hanunooExtension : List Nat := [
  0x1720, 0x1737]

/-- What is used with the script Hiragana. -/
def hiraganaExtension : List Nat := [
  0x3001, 0x3004, 0x3008, 0x3012, 0x3013, 0x3020, 0x3030, 0x3036, 0x3037, 0x3038, 0x303C, 0x303E,
  0x3041, 0x3097, 0x3099, 0x30A1, 0x30FB, 0x30FD, 0xFE45, 0xFE47, 0xFF61, 0xFF66, 0xFF70, 0xFF71,
  0xFF9E, 0xFFA0, 0x1B001, 0x1B120, 0x1B132, 0x1B133, 0x1B150, 0x1B153, 0x1F200, 0x1F201]

/-- What is used with the script Javanese. -/
def javaneseExtension : List Nat := [
  0xA980, 0xA9CE, 0xA9CF, 0xA9DA, 0xA9DE, 0xA9E0]

/-- What is used with the script Kayah Li. -/
def kayahLiExtension : List Nat := [
  0xA900, 0xA930]

/-- What is used with the script Katakana. -/
def katakanaExtension : List Nat := [
  0x3001, 0x3004, 0x3008, 0x3012, 0x3013, 0x3020, 0x3030, 0x3036, 0x3037, 0x3038, 0x303C, 0x303E,
  0x3099, 0x309D, 0x30A0, 0x3100, 0x31F0, 0x3200, 0x32D0, 0x32FF, 0x3300, 0x3358, 0xFE45, 0xFE47,
  0xFF61, 0xFFA0, 0x1AFF0, 0x1AFF4, 0x1AFF5, 0x1AFFC, 0x1AFFD, 0x1AFFF, 0x1B000, 0x1B001,
  0x1B120, 0x1B123, 0x1B155, 0x1B156, 0x1B164, 0x1B168]

/-- What is used with the script Khojki. -/
def khojkiExtension : List Nat := [
  0xAE6, 0xAF0, 0xA830, 0xA83A, 0x11200, 0x11212, 0x11213, 0x11242]

/-- What is used with the script Kannada. -/
def kannadaExtension : List Nat := [
  0x951, 0x953, 0x964, 0x966, 0xC80, 0xC8D, 0xC8E, 0xC91, 0xC92, 0xCA9, 0xCAA, 0xCB4, 0xCB5,
  0xCBA, 0xCBC, 0xCC5, 0xCC6, 0xCC9, 0xCCA, 0xCCE, 0xCD5, 0xCD7, 0xCDD, 0xCDF, 0xCE0, 0xCE4,
  0xCE6, 0xCF0, 0xCF1, 0xCF4, 0x1CD0, 0x1CD1, 0x1CD2, 0x1CD3, 0x1CDA, 0x1CDB, 0x1CF2, 0x1CF3,
  0x1CF4, 0x1CF5, 0xA830, 0xA836]

/-- What is used with the script Kaithi. -/
def kaithiExtension : List Nat := [
  0x966, 0x970, 0xA830, 0xA83A, 0x11080, 0x110C3, 0x110CD, 0x110CE]

/-- What is used with the script Latin. -/
def latinExtension : List Nat := [
  0x41, 0x5B, 0x61, 0x7B, 0xAA, 0xAB, 0xBA, 0xBB, 0xC0, 0xD7, 0xD8, 0xF7, 0xF8, 0x2B9, 0x2E0,
  0x2E5, 0x363, 0x370, 0x485, 0x487, 0x951, 0x953, 0x10FB, 0x10FC, 0x1D00, 0x1D26, 0x1D2C,
  0x1D5D, 0x1D62, 0x1D66, 0x1D6B, 0x1D78, 0x1D79, 0x1DBF, 0x1E00, 0x1F00, 0x202F, 0x2030, 0x2071,
  0x2072, 0x207F, 0x2080, 0x2090, 0x209D, 0x20F0, 0x20F1, 0x212A, 0x212C, 0x2132, 0x2133, 0x214E,
  0x214F, 0x2160, 0x2189, 0x2C60, 0x2C80, 0xA700, 0xA708, 0xA722, 0xA788, 0xA78B, 0xA7CB, 0xA7D0,
  0xA7D2, 0xA7D3, 0xA7D4, 0xA7D5, 0xA7DA, 0xA7F2, 0xA800, 0xA92E, 0xA92F, 0xAB30, 0xAB5B, 0xAB5C,
  0xAB65, 0xAB66, 0xAB6A, 0xFB00, 0xFB07, 0xFF21, 0xFF3B, 0xFF41, 0xFF5B, 0x10780, 0x10786,
  0x10787, 0x107B1, 0x107B2, 0x107BB, 0x1DF00, 0x1DF1F, 0x1DF25, 0x1DF2B]

/-- What is used with the script Limbu. -/
def limbuExtension : List Nat := [
  0x965, 0x966, 0x1900, 0x191F, 0x1920, 0x192C, 0x1930, 0x193C, 0x1940, 0x1941, 0x1944, 0x1950]

/-- What is used with the script Linear A. -/
def linearAExtension : List Nat := [
  0x10107, 0x10134, 0x10600, 0x10737, 0x10740, 0x10756, 0x10760, 0x10768]

/-- What is used with the script Linear B. -/
def linearBExtension : List Nat := [
  0x10000, 0x1000C, 0x1000D, 0x10027, 0x10028, 0x1003B, 0x1003C, 0x1003E, 0x1003F, 0x1004E,
  0x10050, 0x1005E, 0x10080, 0x100FB, 0x10100, 0x10103, 0x10107, 0x10134, 0x10137, 0x10140]

/-- What is used with the script Mahajani. -/
def mahajaniExtension : List Nat := [
  0x964, 0x970, 0xA830, 0xA83A, 0x11150, 0x11177]

/-- What is used with the script Mandaic. -/
def mandaicExtension : List Nat := [
  0x640, 0x641, 0x840, 0x85C, 0x85E, 0x85F]

/-- What is used with the script Manichaean. -/
def manichaeanExtension : List Nat := [
  0x640, 0x641, 0x10AC0, 0x10AE7, 0x10AEB, 0x10AF7]

/-- What is used with the script Malayalam. -/
def malayalamExtension : List Nat := [
  0x951, 0x953, 0x964, 0x966, 0xD00, 0xD0D, 0xD0E, 0xD11, 0xD12, 0xD45, 0xD46, 0xD49, 0xD4A,
  0xD50, 0xD54, 0xD64, 0xD66, 0xD80, 0x1CDA, 0x1CDB, 0xA830, 0xA833]

/-- What is used with the script Modi. -/
def modiExtension : List Nat := [
  0xA830, 0xA83A, 0x11600, 0x11645, 0x11650, 0x1165A]

/-- What is used with the script Mongolian. -/
def mongolianExtension : List Nat := [
  0x1800, 0x181A, 0x1820, 0x1879, 0x1880, 0x18AB, 0x202F, 0x2030, 0x11660, 0x1166D]

/-- What is used with the script Multani. -/
def multaniExtension : List Nat := [
  0xA66, 0xA70, 0x11280, 0x11287, 0x11288, 0x11289, 0x1128A, 0x1128E, 0x1128F, 0x1129E, 0x1129F,
  0x112AA]

/-- What is used with the script Myanmar. -/
def myanmarExtension : List Nat := [
  0x1000, 0x10A0, 0xA92E, 0xA92F, 0xA9E0, 0xA9FF, 0xAA60, 0xAA80]

/-- What is used with the script Nandinagari. -/
def nandinagariExtension : List Nat := [
  0x964, 0x966, 0xCE6, 0xCF0, 0x1CE9, 0x1CEA, 0x1CF2, 0x1CF3, 0x1CFA, 0x1CFB, 0xA830, 0xA836,
  0x119A0, 0x119A8, 0x119AA, 0x119D8, 0x119DA, 0x119E5]

/-- What is used with the script Nko. -/
def nkoExtension : List Nat := [
  0x60C, 0x60D, 0x61B, 0x61C, 0x61F, 0x620, 0x7C0, 0x7FB, 0x7FD, 0x800, 0xFD3E, 0xFD40]

/-- What is used with the script Oriya. -/
def oriyaExtension : List Nat := [
  0x951, 0x953, 0x964, 0x966, 0xB01, 0xB04, 0xB05, 0xB0D, 0xB0F, 0xB11, 0xB13, 0xB29, 0xB2A,
  0xB31, 0xB32, 0xB34, 0xB35, 0xB3A, 0xB3C, 0xB45, 0xB47, 0xB49, 0xB4B, 0xB4E, 0xB55, 0xB58,
  0xB5C, 0xB5E, 0xB5F, 0xB64, 0xB66, 0xB78, 0x1CDA, 0x1CDB, 0x1CF2, 0x1CF3]

/-- What is used with the script Old Uyghur. -/
def oldUyghurExtension : List Nat := [
  0x640, 0x641, 0x10AF2, 0x10AF3, 0x10F70, 0x10F8A]

/-- What is used with the script Old Permic. -/
def oldPermicExtension : List Nat := [
  0x483, 0x484, 0x10350, 0x1037B]

/-- What is used with the script Phags Pa. -/
def phagsPaExtension : List Nat := [
  0x1802, 0x1804, 0x1805, 0x1806, 0xA840, 0xA878]

/-- What is used with the script Psalter Pahlavi. -/
def psalterPahlaviExtension : List Nat := [
  0x640, 0x641, 0x10B80, 0x10B92, 0x10B99, 0x10B9D, 0x10BA9, 0x10BB0]

/-- What is used with the script Hanifi Rohingya. -/
def hanifiRohingyaExtension : List Nat := [
  0x60C, 0x60D, 0x61B, 0x61C, 0x61F, 0x620, 0x640, 0x641, 0x6D4, 0x6D5, 0x10D00, 0x10D28,
  0x10D30, 0x10D3A]

/-- What is used with the script Sharada. -/
def sharadaExtension : List Nat := [
  0x951, 0x952, 0x1CD7, 0x1CD8, 0x1CD9, 0x1CDA, 0x1CDC, 0x1CDE, 0x1CE0, 0x1CE1, 0x11180, 0x111E0]

/-- What is used with the script Khudawadi. -/
def khudawadiExtension : List Nat := [
  0x964, 0x966, 0xA830, 0xA83A, 0x112B0, 0x112EB, 0x112F0, 0x112FA]

/-- What is used with the script Sinhala. -/
def sinhalaExtension : List Nat := [
  0x964, 0x966, 0xD81, 0xD84, 0xD85, 0xD97, 0xD9A, 0xDB2, 0xDB3, 0xDBC, 0xDBD, 0xDBE, 0xDC0,
  0xDC7, 0xDCA, 0xDCB, 0xDCF, 0xDD5, 0xDD6, 0xDD7, 0xDD8, 0xDE0, 0xDE6, 0xDF0, 0xDF2, 0xDF5,
  0x111E1, 0x111F5]

/-- What is used with the script Sogdian. -/
def sogdianExtension : List Nat := [
  0x640, 0x641, 0x10F30, 0x10F5A]

/-- What is used with the script Syloti Nagri. -/
def sylotiNagriExtension : List Nat := [
  0x964, 0x966, 0x9E6, 0x9F0, 0xA800, 0xA82D]

/-- What is used with the script Syriac. -/
def syriacExtension : List Nat := [
  0x60C, 0x60D, 0x61B, 0x61D, 0x61F, 0x620, 0x640, 0x641, 0x64B, 0x656, 0x670, 0x671, 0x700,
  0x70E, 0x70F, 0x74B, 0x74D, 0x750, 0x860, 0x86B, 0x1DF8, 0x1DF9, 0x1DFA, 0x1DFB]

/-- What is used with the script Tagbanwa. -/
def tagbanwaExtension : List Nat := [
  0x1735, 0x1737, 0x1760, 0x176D, 0x176E, 0x1771, 0x1772, 0x1774]

/-- What is used with the script Takri. -/
def takriExtension : List Nat := [
  0x964, 0x966, 0xA830, 0xA83A, 0x11680, 0x116BA, 0x116C0, 0x116CA]

/-- What is used with the script Tai Le. -/
def taiLeExtension : List Nat := [
  0x1040, 0x104A, 0x1950, 0x196E, 0x1970, 0x1975]

/-- What is used with the script Tamil. -/
def tamilExtension : List Nat := [
  0x951, 0x953, 0x964, 0x966, 0xB82, 0xB84, 0xB85, 0xB8B, 0xB8E, 0xB91, 0xB92, 0xB96, 0xB99,
  0xB9B, 0xB9C, 0xB9D, 0xB9E, 0xBA0, 0xBA3, 0xBA5, 0xBA8, 0xBAB, 0xBAE, 0xBBA, 0xBBE, 0xBC3,
  0xBC6, 0xBC9, 0xBCA, 0xBCE, 0xBD0, 0xBD1, 0xBD7, 0xBD8, 0xBE6, 0xBFB, 0x1CDA, 0x1CDB, 0xA8F3,
  0xA8F4, 0x11301, 0x11302, 0x11303, 0x11304, 0x1133B, 0x1133D, 0x11FC0, 0x11FF2, 0x11FFF,
  0x12000]

/-- What is used with the script Telugu. -/
def teluguExtension : List Nat := [
  0x951, 0x953, 0x964, 0x966, 0xC00, 0xC0D, 0xC0E, 0xC11, 0xC12, 0xC29, 0xC2A, 0xC3A, 0xC3C,
  0xC45, 0xC46, 0xC49, 0xC4A, 0xC4E, 0xC55, 0xC57, 0xC58, 0xC5B, 0xC5D, 0xC5E, 0xC60, 0xC64,
  0xC66, 0xC70, 0xC77, 0xC80, 0x1CDA, 0x1CDB, 0x1CF2, 0x1CF3]

/-- What is used with the script Tagalog. -/
def tagalogExtension : List Nat := [
  0x1700, 0x1716, 0x171F, 0x1720, 0x1735, 0x1737]

/-- What is used with the script Thaana. -/
def thaanaExtension : List Nat := [
  0x60C, 0x60D, 0x61B, 0x61D, 0x61F, 0x620, 0x660, 0x66A, 0x780, 0x7B2, 0xFDF2, 0xFDF3, 0xFDFD,
  0xFDFE]

/-- What is used with the script Tirhuta. -/
def tirhutaExtension : List Nat := [
  0x951, 0x953, 0x964, 0x966, 0x1CF2, 0x1CF3, 0xA830, 0xA83A, 0x11480, 0x114C8, 0x114D0, 0x114DA]

/-- What is used with the script Yezidi. -/
def yezidiExtension : List Nat := [
  0x60C, 0x60D, 0x61B, 0x61C, 0x61F, 0x620, 0x660, 0x66A, 0x10E80, 0x10EAA, 0x10EAB, 0x10EAE,
  0x10EB0, 0x10EB2]

/-- What is used with the script Yi. -/
def yiExtension : List Nat := [
  0x3001, 0x3003, 0x3008, 0x3012, 0x3014, 0x301C, 0x30FB, 0x30FC, 0xA000, 0xA48D, 0xA490, 0xA4C7,
  0xFF61, 0xFF66]

/-- What is used with the script Inherited. -/
def inheritedExtension : List Nat := [
  0x300, 0x342, 0x343, 0x345, 0x346, 0x363, 0x953, 0x955, 0x1AB0, 0x1ACF, 0x1DC2, 0x1DF8, 0x1DF9,
  0x1DFA, 0x1DFB, 0x1E00, 0x200C, 0x200E, 0x20D0, 0x20F0, 0xFE00, 0xFE10, 0xFE20, 0xFE2E,
  0x101FD, 0x101FE, 0x1CF00, 0x1CF2E, 0x1CF30, 0x1CF47, 0x1D167, 0x1D16A, 0x1D17B, 0x1D183,
  0x1D185, 0x1D18C, 0x1D1AA, 0x1D1AE, 0xE0100, 0xE01F0]

/-- What is used with the script Common. -/
def commonExtension : List Nat := [
  0x0, 0x41, 0x5B, 0x61, 0x7B, 0xAA, 0xAB, 0xBA, 0xBB, 0xC0, 0xD7, 0xD8, 0xF7, 0xF8, 0x2B9,
  0x2E0, 0x2E5, 0x2EA, 0x2EC, 0x300, 0x374, 0x375, 0x37E, 0x37F, 0x385, 0x386, 0x387, 0x388,
  0x605, 0x606, 0x6DD, 0x6DE, 0x8E2, 0x8E3, 0xE3F, 0xE40, 0xFD5, 0xFD9, 0x16EB, 0x16EE, 0x2000,
  0x200C, 0x200E, 0x202F, 0x2030, 0x2065, 0x2066, 0x2071, 0x2074, 0x207F, 0x2080, 0x208F, 0x20A0,
  0x20C1, 0x2100, 0x2126, 0x2127, 0x212A, 0x212C, 0x2132, 0x2133, 0x214E, 0x214F, 0x2160, 0x2189,
  0x218C, 0x2190, 0x2427, 0x2440, 0x244B, 0x2460, 0x2800, 0x2900, 0x2B74, 0x2B76, 0x2B96, 0x2B97,
  0x2C00, 0x2E00, 0x2E43, 0x2E44, 0x2E5E, 0x2FF0, 0x2FFC, 0x3000, 0x3001, 0x3004, 0x3005, 0x3012,
  0x3013, 0x3020, 0x3021, 0x3036, 0x3037, 0x3248, 0x3260, 0x327F, 0x3280, 0x32B1, 0x32C0, 0x32CC,
  0x32D0, 0x3371, 0x337B, 0x3380, 0x33E0, 0x33FF, 0x3400, 0x4DC0, 0x4E00, 0xA708, 0xA722, 0xA788,
  0xA78B, 0xAB5B, 0xAB5C, 0xAB6A, 0xAB6C, 0xFE10, 0xFE1A, 0xFE30, 0xFE45, 0xFE47, 0xFE53, 0xFE54,
  0xFE67, 0xFE68, 0xFE6C, 0xFEFF, 0xFF00, 0xFF01, 0xFF21, 0xFF3B, 0xFF41, 0xFF5B, 0xFF61, 0xFFE0,
  0xFFE7, 0xFFE8, 0xFFEF, 0xFFF9, 0xFFFE, 0x10190, 0x1019D, 0x101D0, 0x101FD, 0x1CF50, 0x1CFC4,
  0x1D000, 0x1D0F6, 0x1D100, 0x1D127, 0x1D129, 0x1D167, 0x1D16A, 0x1D17B, 0x1D183, 0x1D185,
  0x1D18C, 0x1D1AA, 0x1D1AE, 0x1D1EB, 0x1D2C0, 0x1D2D4, 0x1D2E0, 0x1D2F4, 0x1D300, 0x1D357,
  0x1D372, 0x1D379, 0x1D400, 0x1D455, 0x1D456, 0x1D49D, 0x1D49E, 0x1D4A0, 0x1D4A2, 0x1D4A3,
  0x1D4A5, 0x1D4A7, 0x1D4A9, 0x1D4AD, 0x1D4AE, 0x1D4BA, 0x1D4BB, 0x1D4BC, 0x1D4BD, 0x1D4C4,
  0x1D4C5, 0x1D506, 0x1D507, 0x1D50B, 0x1D50D, 0x1D515, 0x1D516, 0x1D51D, 0x1D51E, 0x1D53A,
  0x1D53B, 0x1D53F, 0x1D540, 0x1D545, 0x1D546, 0x1D547, 0x1D54A, 0x1D551, 0x1D552, 0x1D6A6,
  0x1D6A8, 0x1D7CC, 0x1D7CE, 0x1D800, 0x1EC71, 0x1ECB5, 0x1ED01, 0x1ED3E, 0x1F000, 0x1F02C,
  0x1F030, 0x1F094, 0x1F0A0, 0x1F0AF, 0x1F0B1, 0x1F0C0, 0x1F0C1, 0x1F0D0, 0x1F0D1, 0x1F0F6,
  0x1F100, 0x1F1AE, 0x1F1E6, 0x1F200, 0x1F201, 0x1F203, 0x1F210, 0x1F23C, 0x1F240, 0x1F249,
  0x1F260, 0x1F266, 0x1F300, 0x1F6D8, 0x1F6DC, 0x1F6ED, 0x1F6F0, 0x1F6FD, 0x1F700, 0x1F777,
  0x1F77B, 0x1F7DA, 0x1F7E0, 0x1F7EC, 0x1F7F0, 0x1F7F1, 0x1F800, 0x1F80C, 0x1F810, 0x1F848,
  0x1F850, 0x1F85A, 0x1F860, 0x1F888, 0x1F890, 0x1F8AE, 0x1F8B0, 0x1F8B2, 0x1F900, 0x1FA54,
  0x1FA60, 0x1FA6E, 0x1FA70, 0x1FA7D, 0x1FA80, 0x1FA89, 0x1FA90, 0x1FABE, 0x1FABF, 0x1FAC6,
  0x1FACE, 0x1FADC, 0x1FAE0, 0x1FAE9, 0x1FAF0, 0x1FAF9, 0x1FB00, 0x1FB93, 0x1FB94, 0x1FBCB,
  0x1FBF0, 0x1FBFA, 0xE0001, 0xE0002, 0xE0020, 0xE0080]

/-- The extended scripts by their names. -/
def scriptExtensions : List (List String × List Nat) := [
  (["adlm", "adlam"], adlamExtension),
  (["arab", "arabic"], arabicExtension),
  (["beng", "bengali"], bengaliExtension),
  (["bopo", "bopomofo"], bopomofoExtension),
  (["bugi", "buginese"], bugineseExtension),
  (["buhd", "buhid"], buhidExtension),
  (["cakm", "chakma"], chakmaExtension),
  (["copt", "coptic", "qaac"], copticExtension),
  (["cpmn", "cyprominoan"], cyproMinoanExtension),
  (["cprt", "cypriot"], cypriotExtension),
  (["cyrl", "cyrillic"], cyrillicExtension),
  (["deva", "devanagari"], devanagariExtension),
  (["dogr", "dogra"], dograExtension),
  (["dupl", "duployan"], duployanExtension),
  (["geor", "georgian"], georgianExtension),
  (["glag", "glagolitic"], glagoliticExtension),
  (["gong", "gunjalagondi"], gunjalaGondiExtension),
  (["gonm", "masaramgondi"], masaramGondiExtension),
  (["gran", "grantha"], granthaExtension),
  (["grek", "greek"], greekExtension),
  (["gujr", "gujarati"], gujaratiExtension),
  (["guru", "gurmukhi"], gurmukhiExtension),
  (["hang", "hangul"], hangulExtension),
  (["hani", "han"], hanExtension),
  (["hano", "hanunoo"], hanunooExtension),
  (["hira", "hiragana"], hiraganaExtension),
  (["java", "javanese"], javaneseExtension),
  (["kali", "kayahli"], kayahLiExtension),
  (["kana", "katakana"], katakanaExtension),
  (["khoj", "khojki"], khojkiExtension),
  (["knda", "kannada"], kannadaExtension),
  (["kthi", "kaithi"], kaithiExtension),
  (["latn", "latin"], latinExtension),
  (["limb", "limbu"], limbuExtension),
  (["lina", "lineara"], linearAExtension),
  (["linb", "linearb"], linearBExtension),
  (["mahj", "mahajani"], mahajaniExtension),
  (["mand", "mandaic"], mandaicExtension),
  (["mani", "manichaean"], manichaeanExtension),
  (["mlym", "malayalam"], malayalamExtension),
  (["modi"], modiExtension),
  (["mong", "mongolian"], mongolianExtension),
  (["mult", "multani"], multaniExtension),
  (["mymr", "myanmar"], myanmarExtension),
  (["nand", "nandinagari"], nandinagariExtension),
  (["nkoo", "nko"], nkoExtension),
  (["orya", "oriya"], oriyaExtension),
  (["ougr", "olduyghur"], oldUyghurExtension),
  (["perm", "oldpermic"], oldPermicExtension),
  (["phag", "phagspa"], phagsPaExtension),
  (["phlp", "psalterpahlavi"], psalterPahlaviExtension),
  (["rohg", "hanifirohingya"], hanifiRohingyaExtension),
  (["shrd", "sharada"], sharadaExtension),
  (["sind", "khudawadi"], khudawadiExtension),
  (["sinh", "sinhala"], sinhalaExtension),
  (["sogd", "sogdian"], sogdianExtension),
  (["sylo", "sylotinagri"], sylotiNagriExtension),
  (["syrc", "syriac"], syriacExtension),
  (["tagb", "tagbanwa"], tagbanwaExtension),
  (["takr", "takri"], takriExtension),
  (["tale", "taile"], taiLeExtension),
  (["taml", "tamil"], tamilExtension),
  (["telu", "telugu"], teluguExtension),
  (["tglg", "tagalog"], tagalogExtension),
  (["thaa", "thaana"], thaanaExtension),
  (["tirh", "tirhuta"], tirhutaExtension),
  (["yezi", "yezidi"], yezidiExtension),
  (["yiii", "yi"], yiExtension),
  (["zinh", "inherited", "qaai"], inheritedExtension),
  (["zyyy", "common"], commonExtension)]

end JsonQuery.Unicode
