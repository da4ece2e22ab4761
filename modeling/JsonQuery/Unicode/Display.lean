import JsonQuery.Unicode.Category

/-
Display: how characters are laid out, such as in which direction, together with
which others, or not at all.
-/

set_option autoImplicit false

namespace JsonQuery.Unicode

/-- Controls of the direction of text (Bidi_Control). -/
def bidiControl : List Nat := [
  0x61C, 0x61D, 0x200E, 0x2010, 0x202A, 0x202F, 0x2066, 0x206A]

/-- Characters that are mirrored in text from right to left (Bidi_Mirrored). -/
def bidiMirrored : List Nat := [
  0x28, 0x2A, 0x3C, 0x3D, 0x3E, 0x3F, 0x5B, 0x5C, 0x5D, 0x5E, 0x7B, 0x7C, 0x7D, 0x7E, 0xAB, 0xAC,
  0xBB, 0xBC, 0xF3A, 0xF3E, 0x169B, 0x169D, 0x2039, 0x203B, 0x2045, 0x2047, 0x207D, 0x207F,
  0x208D, 0x208F, 0x2140, 0x2141, 0x2201, 0x2205, 0x2208, 0x220E, 0x2211, 0x2212, 0x2215, 0x2217,
  0x221A, 0x221E, 0x221F, 0x2223, 0x2224, 0x2225, 0x2226, 0x2227, 0x222B, 0x2234, 0x2239, 0x223A,
  0x223B, 0x224D, 0x2252, 0x2256, 0x225F, 0x2261, 0x2262, 0x2263, 0x2264, 0x226C, 0x226E, 0x228D,
  0x228F, 0x2293, 0x2298, 0x2299, 0x22A2, 0x22A4, 0x22A6, 0x22B9, 0x22BE, 0x22C0, 0x22C9, 0x22CE,
  0x22D0, 0x22D2, 0x22D6, 0x22EE, 0x22F0, 0x2300, 0x2308, 0x230C, 0x2320, 0x2322, 0x2329, 0x232B,
  0x2768, 0x2776, 0x27C0, 0x27C1, 0x27C3, 0x27C7, 0x27C8, 0x27CA, 0x27CB, 0x27CE, 0x27D3, 0x27D7,
  0x27DC, 0x27DF, 0x27E2, 0x27F0, 0x2983, 0x2999, 0x299B, 0x29A1, 0x29A2, 0x29B0, 0x29B8, 0x29B9,
  0x29C0, 0x29C6, 0x29C9, 0x29CA, 0x29CE, 0x29D3, 0x29D4, 0x29D6, 0x29D8, 0x29DD, 0x29E1, 0x29E2,
  0x29E3, 0x29E6, 0x29E8, 0x29EA, 0x29F4, 0x29FA, 0x29FC, 0x29FE, 0x2A0A, 0x2A1D, 0x2A1E, 0x2A22,
  0x2A24, 0x2A25, 0x2A26, 0x2A27, 0x2A29, 0x2A2A, 0x2A2B, 0x2A2F, 0x2A34, 0x2A36, 0x2A3C, 0x2A3F,
  0x2A57, 0x2A59, 0x2A64, 0x2A66, 0x2A6A, 0x2A6E, 0x2A6F, 0x2A71, 0x2A73, 0x2A75, 0x2A79, 0x2AA4,
  0x2AA6, 0x2AAE, 0x2AAF, 0x2AD7, 0x2ADC, 0x2ADD, 0x2ADE, 0x2ADF, 0x2AE2, 0x2AE7, 0x2AEC, 0x2AEF,
  0x2AF3, 0x2AF4, 0x2AF7, 0x2AFC, 0x2AFD, 0x2AFE, 0x2BFE, 0x2BFF, 0x2E02, 0x2E06, 0x2E09, 0x2E0B,
  0x2E0C, 0x2E0E, 0x2E1C, 0x2E1E, 0x2E20, 0x2E2A, 0x2E55, 0x2E5D, 0x3008, 0x3012, 0x3014, 0x301C,
  0xFE59, 0xFE5F, 0xFE64, 0xFE66, 0xFF08, 0xFF0A, 0xFF1C, 0xFF1D, 0xFF1E, 0xFF1F, 0xFF3B, 0xFF3C,
  0xFF3D, 0xFF3E, 0xFF5B, 0xFF5C, 0xFF5D, 0xFF5E, 0xFF5F, 0xFF61, 0xFF62, 0xFF64, 0x1D6DB,
  0x1D6DC, 0x1D715, 0x1D716, 0x1D74F, 0x1D750, 0x1D789, 0x1D78A, 0x1D7C3, 0x1D7C4]

/-- Characters that leave no trace when they are not supported
(Default_Ignorable_Code_Point). -/
def defaultIgnorable : List Nat := [
  0xAD, 0xAE, 0x34F, 0x350, 0x61C, 0x61D, 0x115F, 0x1161, 0x17B4, 0x17B6, 0x180B, 0x1810, 0x200B,
  0x2010, 0x202A, 0x202F, 0x2060, 0x2070, 0x3164, 0x3165, 0xFE00, 0xFE10, 0xFEFF, 0xFF00, 0xFFA0,
  0xFFA1, 0xFFF0, 0xFFF9, 0x1BCA0, 0x1BCA4, 0x1D173, 0x1D17B, 0xE0000, 0xE1000]

/-- Selectors of a variant of the character before them (Variation_Selector). -/
def variationSelector : List Nat := [
  0x180B, 0x180E, 0x180F, 0x1810, 0xFE00, 0xFE10, 0xE0100, 0xE01F0]

/-- Marks that go around the digits behind them
(Prepended_Concatenation_Mark). -/
def prependedMark : List Nat := [
  0x600, 0x606, 0x6DD, 0x6DE, 0x70F, 0x710, 0x890, 0x892, 0x8E2, 0x8E3, 0x110BD, 0x110BE,
  0x110CD, 0x110CE]

/-- Vowels that are written before the consonant they follow in speech
(Logical_Order_Exception). -/
def logicalOrderException : List Nat := [
  0xE40, 0xE45, 0xEC0, 0xEC5, 0x19B5, 0x19B8, 0x19BA, 0x19BB, 0xAAB5, 0xAAB7, 0xAAB9, 0xAABA,
  0xAABB, 0xAABD]

/-- Characters whose use is discouraged (Deprecated). -/
def deprecatedCharacter : List Nat := [
  0x149, 0x14A, 0x673, 0x674, 0xF77, 0xF78, 0xF79, 0xF7A, 0x17A3, 0x17A5, 0x206A, 0x2070, 0x2329,
  0x232B, 0xE0001, 0xE0002]

/-- Code points that never become characters (Noncharacter_Code_Point). -/
def noncharacter : List Nat := [
  0xFDD0, 0xFDF0, 0xFFFE, 0x10000, 0x1FFFE, 0x20000, 0x2FFFE, 0x30000, 0x3FFFE, 0x40000, 0x4FFFE,
  0x50000, 0x5FFFE, 0x60000, 0x6FFFE, 0x70000, 0x7FFFE, 0x80000, 0x8FFFE, 0x90000, 0x9FFFE,
  0xA0000, 0xAFFFE, 0xB0000, 0xBFFFE, 0xC0000, 0xCFFFE, 0xD0000, 0xDFFFE, 0xE0000, 0xEFFFE,
  0xF0000, 0xFFFFE, 0x100000, 0x10FFFE, 0x110000]

/-- Characters that join the two around them (Grapheme_Link). -/
def graphemeLink : List Nat := [
  0x94D, 0x94E, 0x9CD, 0x9CE, 0xA4D, 0xA4E, 0xACD, 0xACE, 0xB4D, 0xB4E, 0xBCD, 0xBCE, 0xC4D,
  0xC4E, 0xCCD, 0xCCE, 0xD3B, 0xD3D, 0xD4D, 0xD4E, 0xDCA, 0xDCB, 0xE3A, 0xE3B, 0xEBA, 0xEBB,
  0xF84, 0xF85, 0x1039, 0x103B, 0x1714, 0x1716, 0x1734, 0x1735, 0x17D2, 0x17D3, 0x1A60, 0x1A61,
  0x1B44, 0x1B45, 0x1BAA, 0x1BAC, 0x1BF2, 0x1BF4, 0x2D7F, 0x2D80, 0xA806, 0xA807, 0xA82C, 0xA82D,
  0xA8C4, 0xA8C5, 0xA953, 0xA954, 0xA9C0, 0xA9C1, 0xAAF6, 0xAAF7, 0xABED, 0xABEE, 0x10A3F,
  0x10A40, 0x11046, 0x11047, 0x11070, 0x11071, 0x1107F, 0x11080, 0x110B9, 0x110BA, 0x11133,
  0x11135, 0x111C0, 0x111C1, 0x11235, 0x11236, 0x112EA, 0x112EB, 0x1134D, 0x1134E, 0x11442,
  0x11443, 0x114C2, 0x114C3, 0x115BF, 0x115C0, 0x1163F, 0x11640, 0x116B6, 0x116B7, 0x1172B,
  0x1172C, 0x11839, 0x1183A, 0x1193D, 0x1193F, 0x119E0, 0x119E1, 0x11A34, 0x11A35, 0x11A47,
  0x11A48, 0x11A99, 0x11A9A, 0x11C3F, 0x11C40, 0x11D44, 0x11D46, 0x11D97, 0x11D98, 0x11F41,
  0x11F43]

/-- Characters that stand on a place of their own (Grapheme_Base): what is left
without controls, line and paragraph separators, extending characters and code
points of no character. -/
def graphemeBase : CharSet :=
  .diff assigned
    (.unionAll [.table controlCharacter, .table formatCharacter, .table privateUse,
      .table lineSeparator, .table paragraphSeparator, .table graphemeExtend])

end JsonQuery.Unicode
