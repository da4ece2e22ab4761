import JsonQuery.Unicode.Category
import JsonQuery.Unicode.Word

/-
Case: which characters have it, and which ones change under each conversion.

Nearly every letter changes as its category says, so each set is given by the
characters in which it differs from a simpler one.
-/

set_option autoImplicit false

namespace JsonQuery.Unicode

/-- Characters with case (Cased). -/
def cased : CharSet := .unionAll [lowercase, uppercase, .table titlecaseLetter]

/-- Punctuation inside words. -/
def midWord : List Nat := [
  0x27, 0x28, 0x2E, 0x2F, 0x3A, 0x3B, 0xB7, 0xB8, 0x387, 0x388, 0x55F, 0x560, 0x5F4, 0x5F5,
  0x2018, 0x201A, 0x2024, 0x2025, 0x2027, 0x2028, 0xFE13, 0xFE14, 0xFE52, 0xFE53, 0xFE55, 0xFE56,
  0xFF07, 0xFF08, 0xFF0E, 0xFF0F, 0xFF1A, 0xFF1B]

/-- Characters that case conversion looks through (Case_Ignorable). -/
def caseIgnorable : CharSet :=
  .unionAll [.table nonspacingMark, .table enclosingMark, .table formatCharacter,
    .table modifierLetter, .table modifierSymbol, .table midWord]

/-- Where changing in lowercase differs from being an uppercase or titlecase letter. -/
def lowercasingExceptions : List Nat := [
  0x3D2, 0x3D5, 0x2102, 0x2103, 0x2107, 0x2108, 0x210B, 0x210E, 0x2110, 0x2113, 0x2115, 0x2116,
  0x2119, 0x211E, 0x2124, 0x2125, 0x2128, 0x2129, 0x212C, 0x212E, 0x2130, 0x2132, 0x2133, 0x2134,
  0x213E, 0x2140, 0x2145, 0x2146, 0x2160, 0x2170, 0x24B6, 0x24D0, 0x1D400, 0x1D41A, 0x1D434,
  0x1D44E, 0x1D468, 0x1D482, 0x1D49C, 0x1D49D, 0x1D49E, 0x1D4A0, 0x1D4A2, 0x1D4A3, 0x1D4A5,
  0x1D4A7, 0x1D4A9, 0x1D4AD, 0x1D4AE, 0x1D4B6, 0x1D4D0, 0x1D4EA, 0x1D504, 0x1D506, 0x1D507,
  0x1D50B, 0x1D50D, 0x1D515, 0x1D516, 0x1D51D, 0x1D538, 0x1D53A, 0x1D53B, 0x1D53F, 0x1D540,
  0x1D545, 0x1D546, 0x1D547, 0x1D54A, 0x1D551, 0x1D56C, 0x1D586, 0x1D5A0, 0x1D5BA, 0x1D5D4,
  0x1D5EE, 0x1D608, 0x1D622, 0x1D63C, 0x1D656, 0x1D670, 0x1D68A, 0x1D6A8, 0x1D6C1, 0x1D6E2,
  0x1D6FB, 0x1D71C, 0x1D735, 0x1D756, 0x1D76F, 0x1D790, 0x1D7A9, 0x1D7CA, 0x1D7CB]

/-- Characters that change in lowercase (Changes_When_Lowercased). -/
def changesWhenLowercased : CharSet :=
  .symmDiff (.union (.table uppercaseLetter) (.table titlecaseLetter))
    (.table lowercasingExceptions)

/-- Where changing in uppercase differs from being a lowercase letter. -/
def uppercasingExceptions : List Nat := [
  0x138, 0x139, 0x18D, 0x18E, 0x19B, 0x19C, 0x1AA, 0x1AC, 0x1BA, 0x1BB, 0x1BE, 0x1BF, 0x1C5,
  0x1C6, 0x1C8, 0x1C9, 0x1CB, 0x1CC, 0x1F2, 0x1F3, 0x221, 0x222, 0x234, 0x23A, 0x255, 0x256,
  0x258, 0x259, 0x25A, 0x25B, 0x25D, 0x260, 0x262, 0x263, 0x264, 0x265, 0x267, 0x268, 0x26D,
  0x26F, 0x270, 0x271, 0x273, 0x275, 0x276, 0x27D, 0x27E, 0x280, 0x281, 0x282, 0x284, 0x287,
  0x28D, 0x292, 0x293, 0x294, 0x295, 0x29D, 0x29F, 0x2B0, 0x345, 0x346, 0x3FC, 0x3FD, 0x560,
  0x561, 0x588, 0x589, 0x1D00, 0x1D2C, 0x1D6B, 0x1D78, 0x1D7A, 0x1D7D, 0x1D7E, 0x1D8E, 0x1D8F,
  0x1D9B, 0x1E9C, 0x1E9E, 0x1E9F, 0x1EA0, 0x1F88, 0x1F90, 0x1F98, 0x1FA0, 0x1FA8, 0x1FB0, 0x1FBC,
  0x1FBD, 0x1FCC, 0x1FCD, 0x1FFC, 0x1FFD, 0x210A, 0x210B, 0x210E, 0x2110, 0x2113, 0x2114, 0x212F,
  0x2130, 0x2134, 0x2135, 0x2139, 0x213A, 0x213C, 0x213E, 0x2146, 0x214A, 0x2170, 0x2180, 0x24D0,
  0x24EA, 0x2C71, 0x2C72, 0x2C74, 0x2C75, 0x2C77, 0x2C7C, 0x2CE4, 0x2CE5, 0xA730, 0xA732, 0xA771,
  0xA779, 0xA78E, 0xA78F, 0xA795, 0xA796, 0xA7AF, 0xA7B0, 0xA7D3, 0xA7D4, 0xA7D5, 0xA7D6, 0xA7FA,
  0xA7FB, 0xAB30, 0xAB53, 0xAB54, 0xAB5B, 0xAB60, 0xAB69, 0x1D41A, 0x1D434, 0x1D44E, 0x1D455,
  0x1D456, 0x1D468, 0x1D482, 0x1D49C, 0x1D4B6, 0x1D4BA, 0x1D4BB, 0x1D4BC, 0x1D4BD, 0x1D4C4,
  0x1D4C5, 0x1D4D0, 0x1D4EA, 0x1D504, 0x1D51E, 0x1D538, 0x1D552, 0x1D56C, 0x1D586, 0x1D5A0,
  0x1D5BA, 0x1D5D4, 0x1D5EE, 0x1D608, 0x1D622, 0x1D63C, 0x1D656, 0x1D670, 0x1D68A, 0x1D6A6,
  0x1D6C2, 0x1D6DB, 0x1D6DC, 0x1D6E2, 0x1D6FC, 0x1D715, 0x1D716, 0x1D71C, 0x1D736, 0x1D74F,
  0x1D750, 0x1D756, 0x1D770, 0x1D789, 0x1D78A, 0x1D790, 0x1D7AA, 0x1D7C3, 0x1D7C4, 0x1D7CA,
  0x1D7CB, 0x1D7CC, 0x1DF00, 0x1DF0A, 0x1DF0B, 0x1DF1F, 0x1DF25, 0x1DF2B]

/-- Characters that change in uppercase (Changes_When_Uppercased). -/
def changesWhenUppercased : CharSet :=
  .symmDiff (.table lowercaseLetter) (.table uppercasingExceptions)

/-- Where changing in title case differs from changing in uppercase. -/
def titlecasingExceptions : List Nat := [
  0x1C4, 0x1C6, 0x1C7, 0x1C9, 0x1CA, 0x1CC, 0x1F1, 0x1F3, 0x10D0, 0x10FB, 0x10FD, 0x1100, 0x1F88,
  0x1F90, 0x1F98, 0x1FA0, 0x1FA8, 0x1FB0, 0x1FBC, 0x1FBD, 0x1FCC, 0x1FCD, 0x1FFC, 0x1FFD]

/-- Characters that change in title case (Changes_When_Titlecased). -/
def changesWhenTitlecased : CharSet :=
  .symmDiff changesWhenUppercased (.table titlecasingExceptions)

/-- Where changing under case folding differs from changing in lowercase. -/
def foldingExceptions : List Nat := [
  0xB5, 0xB6, 0xDF, 0xE0, 0x149, 0x14A, 0x17F, 0x180, 0x345, 0x346, 0x3C2, 0x3C3, 0x3D0, 0x3D2,
  0x3D5, 0x3D7, 0x3F0, 0x3F2, 0x3F5, 0x3F6, 0x587, 0x588, 0x13A0, 0x13F6, 0x13F8, 0x13FE, 0x1C80,
  0x1C89, 0x1E9A, 0x1E9C, 0x1F80, 0x1F88, 0x1F90, 0x1F98, 0x1FA0, 0x1FA8, 0x1FB2, 0x1FB5, 0x1FB7,
  0x1FB8, 0x1FC2, 0x1FC5, 0x1FC7, 0x1FC8, 0x1FF2, 0x1FF5, 0x1FF7, 0x1FF8, 0xAB70, 0xABC0, 0xFB00,
  0xFB07, 0xFB13, 0xFB18]

/-- Characters that change under case folding (Changes_When_Casefolded). -/
def changesWhenCasefolded : CharSet :=
  .symmDiff changesWhenLowercased (.table foldingExceptions)

/-- Characters that change under some conversion (Changes_When_Casemapped). -/
def changesWhenCasemapped : CharSet :=
  .unionAll [changesWhenLowercased, changesWhenUppercased, changesWhenTitlecased]

end JsonQuery.Unicode
