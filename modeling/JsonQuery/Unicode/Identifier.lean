import JsonQuery.Unicode.Category

/-
Identifiers: the characters that names in formal languages start with and go on
with, and the characters that such languages keep for themselves.
-/

set_option autoImplicit false

namespace JsonQuery.Unicode

/-- Characters with a meaning of their own in patterns (Pattern_Syntax). -/
def patternSyntax : List Nat := [
  0x21, 0x30, 0x3A, 0x41, 0x5B, 0x5F, 0x60, 0x61, 0x7B, 0x7F, 0xA1, 0xA8, 0xA9, 0xAA, 0xAB, 0xAD,
  0xAE, 0xAF, 0xB0, 0xB2, 0xB6, 0xB7, 0xBB, 0xBC, 0xBF, 0xC0, 0xD7, 0xD8, 0xF7, 0xF8, 0x2010,
  0x2028, 0x2030, 0x203F, 0x2041, 0x2054, 0x2055, 0x205F, 0x2190, 0x2460, 0x2500, 0x2776, 0x2794,
  0x2C00, 0x2E00, 0x2E80, 0x3001, 0x3004, 0x3008, 0x3021, 0x3030, 0x3031, 0xFD3E, 0xFD40, 0xFE45,
  0xFE47]

/-- Blank characters between the parts of a pattern (Pattern_White_Space). -/
def patternWhiteSpace : List Nat := [
  0x9, 0xE, 0x20, 0x21, 0x85, 0x86, 0x200E, 0x2010, 0x2028, 0x202A]

/-- Characters at the start of names that are neither letters nor numbers
(Other_ID_Start). -/
def otherIdStart : List Nat := [
  0x1885, 0x1887, 0x2118, 0x2119, 0x212E, 0x212F, 0x309B, 0x309D]

/-- Characters inside names that no general category brings in
(Other_ID_Continue). -/
def otherIdContinue : List Nat := [
  0xB7, 0xB8, 0x387, 0x388, 0x1369, 0x1372, 0x19DA, 0x19DB]

/-- **Characters that names start with** (ID_Start). -/
def identifierStart : CharSet :=
  .diff (.unionAll [letter, .table letterNumber, .table otherIdStart])
    (.union (.table patternSyntax) (.table patternWhiteSpace))

/-- **Characters that names go on with** (ID_Continue). -/
def identifierContinue : CharSet :=
  .unionAll [identifierStart, .table nonspacingMark, .table spacingMark,
    .table decimalDigit, .table connectorPunctuation, .table otherIdContinue]

/-- Characters at the start of names that compatibility normalisation takes out of
that place. -/
def unstableStart : List Nat := [
  0x37A, 0x37B, 0xE33, 0xE34, 0xEB3, 0xEB4, 0x309B, 0x309D, 0xFC5E, 0xFC64, 0xFDFA, 0xFDFC,
  0xFE70, 0xFE71, 0xFE72, 0xFE73, 0xFE74, 0xFE75, 0xFE76, 0xFE77, 0xFE78, 0xFE79, 0xFE7A, 0xFE7B,
  0xFE7C, 0xFE7D, 0xFE7E, 0xFE7F, 0xFF9E, 0xFFA0]

/-- Characters inside names that compatibility normalisation takes out of that
place. -/
def unstableContinue : List Nat := [
  0x37A, 0x37B, 0x309B, 0x309D, 0xFC5E, 0xFC64, 0xFDFA, 0xFDFC, 0xFE70, 0xFE71, 0xFE72, 0xFE73,
  0xFE74, 0xFE75, 0xFE76, 0xFE77, 0xFE78, 0xFE79, 0xFE7A, 0xFE7B, 0xFE7C, 0xFE7D, 0xFE7E, 0xFE7F]

/-- Characters that normalised names start with (XID_Start). -/
def stableIdentifierStart : CharSet := .diff identifierStart (.table unstableStart)

/-- Characters that normalised names go on with (XID_Continue). -/
def stableIdentifierContinue : CharSet := .diff identifierContinue (.table unstableContinue)

end JsonQuery.Unicode
