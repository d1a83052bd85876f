import DataBinding.Pattern.Property.Break
import DataBinding.Pattern.Property.Identifier
import DataBinding.Pattern.Property.ScriptExtension

namespace DataBinding.Pattern

open Text

/-- A name without the `is` that it may start with. -/
def dropIs : List Char → List Char
  | i :: s :: rest => if i.toLower == 'i' && s.toLower == 's' then rest else i :: s :: rest
  | s => s

def looseName (name : List Char) : String :=
  let loose (s : List Char) :=
    (s.filter fun c ↦ isAscii c && c != ' ' && c != '-' && c != '_').map Char.toLower
  match loose (dropIs name) with
  | ['c'] => String.ofList (loose name)
  | s => String.ofList s

open Repertoire in
def generalCategory? (name : String) : Option CharSet :=
  match name with
  | "any" => some .all
  | "ascii" => some (.range '\x00' '\x7f')
  | "assigned" => some assigned
  | "cn" | "unassigned" => some unassigned
  | "c" | "other" => some other
  | "cc" | "control" | "cntrl" => some control
  | "cf" | "format" => some format
  | "co" | "privateuse" => some privateUse
  | "l" | "letter" => some letter
  | "lc" | "casedletter" => some casedLetter
  | "lu" | "uppercaseletter" => some uppercaseLetter
  | "ll" | "lowercaseletter" => some lowercaseLetter
  | "lt" | "titlecaseletter" => some titlecaseLetter
  | "lm" | "modifierletter" => some modifierLetter
  | "lo" | "otherletter" => some otherLetter
  | "m" | "mark" | "combiningmark" => some mark
  | "mn" | "nonspacingmark" => some nonspacingMark
  | "mc" | "spacingmark" => some spacingMark
  | "me" | "enclosingmark" => some enclosingMark
  | "n" | "number" => some number
  | "nd" | "decimalnumber" | "digit" => some decimalNumber
  | "nl" | "letternumber" => some letterNumber
  | "no" | "othernumber" => some otherNumber
  | "p" | "punctuation" | "punct" => some punctuation
  | "pc" | "connectorpunctuation" => some connectorPunctuation
  | "pd" | "dashpunctuation" => some dashPunctuation
  | "ps" | "openpunctuation" => some openPunctuation
  | "pe" | "closepunctuation" => some closePunctuation
  | "pi" | "initialpunctuation" => some initialPunctuation
  | "pf" | "finalpunctuation" => some finalPunctuation
  | "po" | "otherpunctuation" => some otherPunctuation
  | "s" | "symbol" => some symbol
  | "sm" | "mathsymbol" => some mathSymbol
  | "sc" | "currencysymbol" => some currencySymbol
  | "sk" | "modifiersymbol" => some modifierSymbol
  | "so" | "othersymbol" => some otherSymbol
  | "z" | "separator" => some separator
  | "zs" | "spaceseparator" => some spaceSeparator
  | "zl" | "lineseparator" => some lineSeparator
  | "zp" | "paragraphseparator" => some paragraphSeparator
  | _ => none

def script? (name : String) : Option Script :=
  Script.all.find? fun s ↦ s.names.any fun n ↦ looseName n.toList == name

open Property in
def binaryProperty? (name : String) : Option CharSet :=
  match name with
  | "asciihexdigit" | "ahex" => some asciiHexDigit
  | "alphabetic" | "alpha" => some alphabetic
  | "bidicontrol" | "bidic" => some bidiControl
  | "bidimirrored" | "bidim" => some bidiMirrored
  | "caseignorable" | "ci" => some caseIgnorable
  | "cased" => some cased
  | "changeswhencasefolded" | "cwcf" => some changesWhenCasefolded
  | "changeswhencasemapped" | "cwcm" => some changesWhenCasemapped
  | "changeswhenlowercased" | "cwl" => some changesWhenLowercased
  | "changeswhentitlecased" | "cwt" => some changesWhenTitlecased
  | "changeswhenuppercased" | "cwu" => some changesWhenUppercased
  | "dash" => some dash
  | "defaultignorablecodepoint" | "di" => some defaultIgnorable
  | "deprecated" | "dep" => some deprecated
  | "diacritic" | "dia" => some diacritic
  | "emoji" => some emoji
  | "emojicomponent" | "ecomp" => some emojiComponent
  | "emojimodifier" | "emod" => some emojiModifier
  | "emojimodifierbase" | "ebase" => some emojiModifierBase
  | "emojipresentation" | "epres" => some emojiPresentation
  | "extendedpictographic" | "extpict" => some extendedPictographic
  | "extender" | "ext" => some extender
  | "graphemebase" | "grbase" => some graphemeBase
  | "graphemeextend" | "grext" => some graphemeExtend
  | "graphemelink" | "grlink" => some graphemeLink
  | "hexdigit" | "hex" => some hexDigit
  | "hyphen" => some hyphen
  | "idcompatmathcontinue" => some idCompatMathContinue
  | "idcompatmathstart" => some idCompatMathStart
  | "idcontinue" | "idc" => some idContinue
  | "idstart" | "ids" => some idStart
  | "ideographic" | "ideo" => some ideographic
  | "idsbinaryoperator" | "idsb" => some idsBinaryOperator
  | "idstrinaryoperator" | "idst" => some idsTrinaryOperator
  | "idsunaryoperator" | "idsu" => some idsUnaryOperator
  | "joincontrol" | "joinc" => some joinControl
  | "logicalorderexception" | "loe" => some logicalOrderException
  | "lowercase" | "lower" => some lowercase
  | "math" => some math
  | "modifiercombiningmark" | "mcm" => some modifierCombiningMark
  | "noncharactercodepoint" | "nchar" => some noncharacter
  | "otheralphabetic" | "oalpha" => some otherAlphabetic
  | "otherdefaultignorablecodepoint" | "odi" => some otherDefaultIgnorable
  | "othergraphemeextend" | "ogrext" => some otherGraphemeExtend
  | "otheridcontinue" | "oidc" => some otherIdContinue
  | "otheridstart" | "oids" => some otherIdStart
  | "otherlowercase" | "olower" => some otherLowercase
  | "othermath" | "omath" => some otherMath
  | "otheruppercase" | "oupper" => some otherUppercase
  | "patternsyntax" | "patsyn" => some patternSyntax
  | "patternwhitespace" | "patws" => some patternWhiteSpace
  | "prependedconcatenationmark" | "pcm" => some prependedConcatenationMark
  | "quotationmark" | "qmark" => some quotationMark
  | "radical" => some radical
  | "regionalindicator" | "ri" => some regionalIndicator
  | "sentenceterminal" | "sterm" => some sentenceTerminal
  | "softdotted" | "sd" => some softDotted
  | "terminalpunctuation" | "term" => some terminalPunctuation
  | "unifiedideograph" | "uideo" => some unifiedIdeograph
  | "uppercase" | "upper" => some uppercase
  | "variationselector" | "vs" => some variationSelector
  | "whitespace" | "wspace" | "space" => some whiteSpace
  | "xidcontinue" | "xidc" => some xidContinue
  | "xidstart" | "xids" => some xidStart
  | _ => none

open GraphemeBreak in
def graphemeBreak? (name : String) : Option CharSet :=
  match name with
  | "cr" => some Property.carriageReturn
  | "lf" => some Property.lineFeed
  | "control" | "cn" => some control
  | "extend" | "ex" => some extend
  | "prepend" | "pp" => some prepended
  | "spacingmark" | "sm" => some spacingMark
  | "regionalindicator" | "ri" => some Property.regionalIndicator
  | "l" => some hangulL
  | "v" => some hangulV
  | "t" => some hangulT
  | "lv" => some hangulLV
  | "lvt" => some hangulLVT
  | "zwj" => some Property.zeroWidthJoiner
  | _ => none

open WordBreak in
def wordBreak? (name : String) : Option CharSet :=
  match name with
  | "cr" => some Property.carriageReturn
  | "lf" => some Property.lineFeed
  | "newline" | "nl" => some newline
  | "extend" => some extend
  | "format" | "fo" => some format
  | "aletter" | "le" => some alphabeticLetter
  | "hebrewletter" | "hl" => some hebrewLetter
  | "katakana" | "ka" => some katakana
  | "numeric" | "nu" => some numeric
  | "extendnumlet" | "ex" => some extendNumberLetter
  | "doublequote" | "dq" => some doubleQuote
  | "singlequote" | "sq" => some singleQuote
  | "midletter" | "ml" => some midLetter
  | "midnum" | "mn" => some midNumber
  | "midnumlet" | "mb" => some midNumberLetter
  | "regionalindicator" | "ri" => some Property.regionalIndicator
  | "wsegspace" => some space
  | "zwj" => some Property.zeroWidthJoiner
  | _ => none

open SentenceBreak in
def sentenceBreak? (name : String) : Option CharSet :=
  match name with
  | "cr" => some Property.carriageReturn
  | "lf" => some Property.lineFeed
  | "sep" | "se" => some separator
  | "extend" | "ex" => some extend
  | "format" | "fo" => some format
  | "sp" => some space
  | "lower" | "lo" => some lower
  | "upper" | "up" => some upper
  | "oletter" | "le" => some otherLetter
  | "numeric" | "nu" => some numeric
  | "aterm" | "at" => some ambiguousEnd
  | "sterm" | "st" => some finalEnd
  | "scontinue" | "sc" => some continuation
  | "close" | "cl" => some close
  | _ => none

def versionNames (v : Version) : List String :=
  let numbers (separator : String) := toString v.major ++ (separator ++ toString v.minor)
  [numbers ".", "v" ++ numbers ""]

def versions : List Version :=
  Version.first :: (Version.additions.map Prod.fst).filter (·.major ≤ 16)

def age? (name : String) : Option CharSet :=
  (versions.find? fun v ↦ (versionNames v).contains name).map Version.repertoire

/-- The property of a lone name: a binary property first, then a category, then a script. -/
def property? (name : List Char) : Option CharSet :=
  let name := looseName name
  (binaryProperty? name).or ((generalCategory? name).or ((script? name).map Script.chars))

def propertyValue? (name value : List Char) : Option CharSet :=
  let value := looseName value
  match looseName name with
  | "generalcategory" | "gc" => generalCategory? value
  | "script" | "sc" => (script? value).map Script.chars
  | "scriptextensions" | "scx" => (script? value).map Script.extension
  | "age" => age? value
  | "graphemeclusterbreak" | "gcb" => graphemeBreak? value
  | "wordbreak" | "wb" => wordBreak? value
  | "sentencebreak" | "sb" => sentenceBreak? value
  | _ => none

end DataBinding.Pattern
