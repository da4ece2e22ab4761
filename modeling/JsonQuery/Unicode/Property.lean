import JsonQuery.Unicode.CaseChange
import JsonQuery.Unicode.Display
import JsonQuery.Unicode.Emoji
import JsonQuery.Unicode.Identifier
import JsonQuery.Unicode.Script
import JsonQuery.Unicode.ScriptExtension
import JsonQuery.Unicode.Word
import JsonQuery.Unicode.Writing

/-
The properties of characters by name.

A name means a property that a character has or has not, a general category or a
script. Names are compared loosely: case, spaces, hyphens, underscores and a leading
`is` make no difference.
-/

set_option autoImplicit false

namespace JsonQuery.Unicode

/-- A property name in loose form: without case, spaces, hyphens, underscores,
characters outside ASCII, and a leading `is`. -/
def looseName (cs : List Char) : String :=
  let kept (cs : List Char) : List Char :=
    (cs.filter fun c => c != ' ' && c != '_' && c != '-' && c.toNat < 0x80).map Char.toLower
  match cs with
  | i :: s :: rest =>
    if i.toLower = 'i' ∧ s.toLower = 's' then
      if kept rest = ['c'] then "isc" else String.ofList (kept rest)
    else String.ofList (kept cs)
  | _ => String.ofList (kept cs)

/-- The general categories by their names in loose form. -/
def categories : List (List String × CharSet) := [
  (["lu", "uppercaseletter"], .table uppercaseLetter),
  (["ll", "lowercaseletter"], .table lowercaseLetter),
  (["lt", "titlecaseletter"], .table titlecaseLetter),
  (["lc", "casedletter"], casedLetter),
  (["lm", "modifierletter"], .table modifierLetter),
  (["lo", "otherletter"], .table otherLetter),
  (["l", "letter"], letter),
  (["mn", "nonspacingmark"], .table nonspacingMark),
  (["mc", "spacingmark"], .table spacingMark),
  (["me", "enclosingmark"], .table enclosingMark),
  (["m", "mark", "combiningmark"], mark),
  (["nd", "decimalnumber", "digit"], .table decimalDigit),
  (["nl", "letternumber"], .table letterNumber),
  (["no", "othernumber"], .table otherNumber),
  (["n", "number"], number),
  (["pc", "connectorpunctuation"], .table connectorPunctuation),
  (["pd", "dashpunctuation"], .table dashPunctuation),
  (["ps", "openpunctuation"], .table openPunctuation),
  (["pe", "closepunctuation"], .table closePunctuation),
  (["pi", "initialpunctuation"], .table initialPunctuation),
  (["pf", "finalpunctuation"], .table finalPunctuation),
  (["po", "otherpunctuation"], .table otherPunctuation),
  (["p", "punctuation", "punct"], punctuation),
  (["sm", "mathsymbol"], .table mathSymbol),
  (["sc", "currencysymbol"], .table currencySymbol),
  (["sk", "modifiersymbol"], .table modifierSymbol),
  (["so", "othersymbol"], .table otherSymbol),
  (["s", "symbol"], symbol),
  (["zs", "spaceseparator"], .table spaceSeparator),
  (["zl", "lineseparator"], .table lineSeparator),
  (["zp", "paragraphseparator"], .table paragraphSeparator),
  (["z", "separator"], separator),
  (["cc", "control", "cntrl"], .table controlCharacter),
  (["cf", "format"], .table formatCharacter),
  (["cn", "unassigned"], unassigned),
  (["co", "privateuse"], .table privateUse),
  (["c", "other"], other),
  (["any"], any),
  (["assigned"], assigned),
  (["ascii"], .range 0 0x7F)]

/-- The other properties by their names in loose form. -/
def binaryProperties : List (List String × CharSet) := [
  (["alpha", "alphabetic"], alphabetic),
  (["upper", "uppercase"], uppercase),
  (["lower", "lowercase"], lowercase),
  (["oalpha", "otheralphabetic"], .table otherAlphabetic),
  (["oupper", "otheruppercase"], .table otherUppercase),
  (["olower", "otherlowercase"], .table otherLowercase),
  (["wspace", "whitespace", "space"], whiteSpace),
  (["joinc", "joincontrol"], joinControl),
  (["grext", "graphemeextend"], .table graphemeExtend),
  (["grbase", "graphemebase"], graphemeBase),
  (["grlink", "graphemelink"], .table graphemeLink),
  (["ahex", "asciihexdigit"], .unionAll [.range 0x30 0x39, .range 0x41 0x46, .range 0x61 0x66]),
  (["hex", "hexdigit"], .table hexDigit),
  (["cased"], cased),
  (["ci", "caseignorable"], caseIgnorable),
  (["cwl", "changeswhenlowercased"], changesWhenLowercased),
  (["cwu", "changeswhenuppercased"], changesWhenUppercased),
  (["cwt", "changeswhentitlecased"], changesWhenTitlecased),
  (["cwcf", "changeswhencasefolded"], changesWhenCasefolded),
  (["cwcm", "changeswhencasemapped"], changesWhenCasemapped),
  (["emoji"], .table emoji),
  (["epres", "emojipresentation"], .table emojiPresentation),
  (["emod", "emojimodifier"], .table emojiModifier),
  (["ebase", "emojimodifierbase"], .table emojiModifierBase),
  (["ecomp", "emojicomponent"], .table emojiComponent),
  (["extpict", "extendedpictographic"], .table extendedPictographic),
  (["ri", "regionalindicator"], .table regionalIndicator),
  (["ids", "idstart"], identifierStart),
  (["idc", "idcontinue"], identifierContinue),
  (["xids", "xidstart"], stableIdentifierStart),
  (["xidc", "xidcontinue"], stableIdentifierContinue),
  (["oids", "otheridstart"], .table otherIdStart),
  (["oidc", "otheridcontinue"], .table otherIdContinue),
  (["patsyn", "patternsyntax"], .table patternSyntax),
  (["patws", "patternwhitespace"], .table patternWhiteSpace),
  (["dash"], dash),
  (["hyphen"], .table hyphen),
  (["qmark", "quotationmark"], .table quotationMark),
  (["term", "terminalpunctuation"], .table terminalPunctuation),
  (["sterm", "sentenceterminal"], .table sentenceTerminal),
  (["dia", "diacritic"], .table diacritic),
  (["ext", "extender"], .table extender),
  (["sd", "softdotted"], .table softDotted),
  (["ideo", "ideographic"], .table ideographic),
  (["uideo", "unifiedideograph"], .table unifiedIdeograph),
  (["radical"], .table radical),
  (["idsb", "idsbinaryoperator"], .table binaryDescription),
  (["idst", "idstrinaryoperator"], .table ternaryDescription),
  (["math"], math),
  (["omath", "othermath"], .table otherMath),
  (["bidic", "bidicontrol"], .table bidiControl),
  (["bidim", "bidimirrored"], .table bidiMirrored),
  (["di", "defaultignorablecodepoint"], .table defaultIgnorable),
  (["vs", "variationselector"], .table variationSelector),
  (["pcm", "prependedconcatenationmark"], .table prependedMark),
  (["loe", "logicalorderexception"], .table logicalOrderException),
  (["dep", "deprecated"], .table deprecatedCharacter),
  (["nchar", "noncharactercodepoint"], .table noncharacter)]

/-- What stands at a name in a list of named things. -/
def named? {α : Type} (entries : List (List String × α)) (name : String) : Option α :=
  (entries.find? (·.1.contains name)).map Prod.snd

/-- The script of a name in loose form. -/
def script? (name : String) : Option CharSet := (named? scripts name).map .table

/-- What is used with the script of a name in loose form. -/
def scriptExtension? (name : String) : Option CharSet :=
  ((named? scriptExtensions name).map .table).or (script? name)

/-- **The property with a name**: a property of its own, a general category or a
script. -/
def property? (name : List Char) : Option CharSet :=
  let loose := looseName name
  (named? binaryProperties loose).or ((named? categories loose).or (script? loose))

/-- The property that has a value, where the two are named separately. -/
def propertyValue? (name value : List Char) : Option CharSet :=
  let value := looseName value
  match looseName name with
  | "gc" | "generalcategory" => named? categories value
  | "sc" | "script" => script? value
  | "scx" | "scriptextensions" => scriptExtension? value
  | _ => none

end JsonQuery.Unicode
