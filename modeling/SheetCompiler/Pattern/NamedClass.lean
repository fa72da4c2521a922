import SheetCompiler.Pattern.CharClass
import SheetCompiler.Text.Age
import SheetCompiler.Text.Boundary
import SheetCompiler.Text.Property
import SheetCompiler.Text.Script

/-!
# Named classes

The classes of characters that a pattern asks for by the name of a Unicode
property, or by its name and a value. All names are in loose form.
-/

set_option autoImplicit false

namespace SheetCompiler.Pattern.CharClass

/-! ## Case -/

def cased : CharClass :=
  anyOf [property .lowercase, property .uppercase, ofCategories [.titlecaseLetter]]

def caseIgnorable : CharClass :=
  union (ofCategories [.nonspacingMark, .enclosingMark, .format, .modifierLetter, .modifierSymbol])
    (listed Text.Property.otherCaseIgnorable)

def changedByTitle : CharClass :=
  union (difference (property .changedByUpper) (listed Text.Property.uppercaseOnly))
    (listed Text.Property.titlecaseOnly)

def changedByFolding : CharClass :=
  union (difference (property .changedByLower) (listed Text.Property.lowercaseOnly))
    (listed Text.Property.casefoldedOnly)

def changedByMapping : CharClass :=
  anyOf [property .changedByLower, property .changedByUpper, changedByTitle]

/-! ## Identifiers -/

def idStart : CharClass :=
  difference
    (union (ofCategories (.letterNumber :: Text.Category.letters))
      (listed Text.Property.otherIdStart))
    (listed Text.Property.patternSyntax)

def idContinue : CharClass :=
  anyOf
    [idStart,
      ofCategories [.nonspacingMark, .spacingMark, .decimalNumber, .connectorPunctuation],
      listed Text.Property.otherIdContinue]

def compatMathContinue : CharClass :=
  union (listed Text.Property.compatMathStart) (listed Text.Property.compatMathContinue)

/-! ## Clusters -/

def graphemeExtend : CharClass :=
  union (ofCategories [.nonspacingMark, .enclosingMark]) (listed Text.Property.otherGraphemeExtend)

def graphemeBase : CharClass :=
  difference (property .assigned)
    (union (ofCategories [.control, .format, .privateUse, .lineSeparator, .paragraphSeparator])
      graphemeExtend)

def clusterExtend : CharClass := union graphemeExtend (listed Text.Property.emojiModifier)

/-- Spacing marks and two vowels that are letters. -/
def clusterSpacingMark : CharClass :=
  difference (anyOf [ofCategories [.spacingMark], one '\u0e33', one '\u0eb3'])
    (union graphemeExtend (listed Text.Boundary.notSpacingMark))

/-! ## Words -/

def mark : CharClass :=
  union (ofCategories Text.Category.marks) (listed Text.Property.otherGraphemeExtend)

def wordExtend : CharClass := union mark (listed Text.Property.emojiModifier)

def wordLetter : CharClass :=
  difference (union (property .alphabetic) (listed Text.Boundary.wordLetterSign))
    (anyOf
      [listed Text.Property.ideographic, listed Text.Boundary.wordKatakana,
        listed Text.Boundary.hebrewLetter, listed Text.Boundary.notWordLetter, wordExtend])

/-! ## Sentences -/

def sentenceExtend : CharClass := union mark (one '\u200d')

def sentenceLower : CharClass :=
  difference (property .lowercase) (union (listed Text.Boundary.georgianCase) sentenceExtend)

def sentenceUpper : CharClass :=
  difference (union (property .uppercase) (ofCategories [.titlecaseLetter]))
    (listed Text.Boundary.georgianCase)

def sentenceLetter : CharClass :=
  difference (union (property .alphabetic) (one '\u05f3'))
    (anyOf [sentenceLower, sentenceUpper, sentenceExtend])

/-- Ends of sentences that are no points. -/
def sentenceEnd : CharClass :=
  difference (listed Text.Property.sentenceTerminal) (listed Text.Boundary.aTerm)

def lineSeparators : CharClass := anyOf [one '\u0085', one '\u2028', one '\u2029']

def sentenceSpace : CharClass :=
  difference (property .blank) (anyOf [one '\n', one '\r', lineSeparators])

/-! ## Other derived properties -/

def math : CharClass :=
  union (ofCategories [.mathSymbol]) (listed Text.Property.otherMath)

def defaultIgnorable : CharClass :=
  anyOf
    [difference (ofCategories [.format]) (listed Text.Property.visibleFormat),
      listed Text.Property.variationSelector, listed Text.Property.otherDefaultIgnorable]

/-! ## Names -/

/-- The class of a property that a character has or does not have. -/
def ofPropertyName? : String → Option CharClass
  | "alphabetic" | "alpha" => some (property .alphabetic)
  | "asciihexdigit" | "ahex" => some (listed Text.Property.asciiHexDigit)
  | "bidicontrol" | "bidic" => some (listed Text.Property.bidiControl)
  | "caseignorable" | "ci" => some caseIgnorable
  | "cased" => some cased
  | "changeswhencasefolded" | "cwcf" => some changedByFolding
  | "changeswhencasemapped" | "cwcm" => some changedByMapping
  | "changeswhenlowercased" | "cwl" => some (property .changedByLower)
  | "changeswhentitlecased" | "cwt" => some changedByTitle
  | "changeswhenuppercased" | "cwu" => some (property .changedByUpper)
  | "dash" => some (listed Text.Property.dash)
  | "defaultignorablecodepoint" | "di" => some defaultIgnorable
  | "deprecated" | "dep" => some (listed Text.Property.deprecated)
  | "diacritic" | "dia" => some (listed Text.Property.diacritic)
  | "emoji" => some (listed Text.Property.emoji)
  | "emojicomponent" | "ecomp" => some (listed Text.Property.emojiComponent)
  | "emojimodifier" | "emod" => some (listed Text.Property.emojiModifier)
  | "emojimodifierbase" | "ebase" => some (listed Text.Property.emojiModifierBase)
  | "emojipresentation" | "epres" => some (listed Text.Property.emojiPresentation)
  | "extendedpictographic" | "extpict" => some (listed Text.Property.extendedPictographic)
  | "extender" | "ext" => some (listed Text.Property.extender)
  | "graphemebase" | "grbase" => some graphemeBase
  | "graphemeextend" | "grext" => some graphemeExtend
  | "graphemelink" | "grlink" => some (listed Text.Property.graphemeLink)
  | "hexdigit" | "hex" => some (listed Text.Property.hexDigit)
  | "hyphen" => some (listed Text.Property.hyphen)
  | "idcompatmathcontinue" => some compatMathContinue
  | "idcompatmathstart" => some (listed Text.Property.compatMathStart)
  | "idcontinue" | "idc" => some idContinue
  | "ideographic" | "ideo" => some (listed Text.Property.ideographic)
  | "idsbinaryoperator" | "idsb" => some (listed Text.Property.idsBinaryOperator)
  | "idstart" | "ids" => some idStart
  | "idstrinaryoperator" | "idst" => some (listed Text.Property.idsTrinaryOperator)
  | "idsunaryoperator" | "idsu" => some (listed Text.Property.idsUnaryOperator)
  | "joincontrol" | "joinc" => some (listed Text.Property.joinControl)
  | "logicalorderexception" | "loe" => some (listed Text.Property.logicalOrderException)
  | "lowercase" | "lower" => some (property .lowercase)
  | "math" => some math
  | "modifiercombiningmark" | "mcm" => some (listed Text.Property.modifierCombiningMark)
  | "noncharactercodepoint" | "nchar" => some (listed Text.Property.noncharacter)
  | "otheralphabetic" | "oalpha" => some (listed Text.Letter.Table.otherAlphabetic)
  | "otherdefaultignorablecodepoint" | "odi" => some (listed Text.Property.otherDefaultIgnorable)
  | "othergraphemeextend" | "ogrext" => some (listed Text.Property.otherGraphemeExtend)
  | "otheridcontinue" | "oidc" => some (listed Text.Property.otherIdContinue)
  | "otheridstart" | "oids" => some (listed Text.Property.otherIdStart)
  | "otherlowercase" | "olower" => some (listed Text.Letter.Table.otherLowercase)
  | "othermath" | "omath" => some (listed Text.Property.otherMath)
  | "otheruppercase" | "oupper" => some (listed Text.Letter.Table.otherUppercase)
  | "patternsyntax" | "patsyn" => some (listed Text.Property.patternSyntax)
  | "patternwhitespace" | "patws" => some (listed Text.Property.patternBlank)
  | "prependedconcatenationmark" | "pcm" => some (listed Text.Property.prependedConcatenationMark)
  | "quotationmark" | "qmark" => some (listed Text.Property.quotationMark)
  | "radical" => some (listed Text.Property.radical)
  | "regionalindicator" | "ri" => some (listed Text.Property.regionalIndicator)
  | "sentenceterminal" | "sterm" => some (listed Text.Property.sentenceTerminal)
  | "softdotted" | "sd" => some (listed Text.Property.softDotted)
  | "terminalpunctuation" | "term" => some (listed Text.Property.terminalPunctuation)
  | "unifiedideograph" | "uideo" => some (listed Text.Property.unifiedIdeograph)
  | "uppercase" | "upper" => some (property .uppercase)
  | "variationselector" | "vs" => some (listed Text.Property.variationSelector)
  | "whitespace" | "wspace" | "space" => some (property .blank)
  | "xidcontinue" | "xidc" => some (difference idContinue (listed Text.Property.notXidContinue))
  | "xidstart" | "xids" => some (difference idStart (listed Text.Property.notXidStart))
  | _ => none

def ofCategoryName? (name : String) : Option CharClass :=
  (Property.ofCategoryName? name).map property

def ofScriptName? (name : String) : Option CharClass :=
  (Text.Script.ofName? name).map fun script => listed script.ranges

/-- The characters that are used in a script. Those that are listed for several scripts
belong to these alone. -/
def ofScriptExtension? (name : String) : Option CharClass :=
  (Text.Script.ofName? name).map fun script =>
    union (listed script.shared)
      (difference (listed script.ranges) (listed Text.Script.allShared))

def ofAge? (name : String) : Option CharClass := (Text.Age.upTo? name).map listed

def ofClusterName? : String → Option CharClass
  | "control" | "cn" => some (listed Text.Boundary.clusterControl)
  | "cr" => some (one '\r')
  | "extend" | "ex" => some clusterExtend
  | "l" => some (listed Text.Boundary.leadingJamo)
  | "lf" => some (one '\n')
  | "lv" => some (listed Text.Boundary.openSyllable)
  | "lvt" =>
      some (difference (listed Text.Boundary.syllable) (listed Text.Boundary.openSyllable))
  | "prepend" | "pp" => some (listed Text.Boundary.clusterPrepend)
  | "regionalindicator" | "ri" => some (listed Text.Property.regionalIndicator)
  | "spacingmark" | "sm" => some clusterSpacingMark
  | "t" => some (listed Text.Boundary.trailingJamo)
  | "v" => some (listed Text.Boundary.vowelJamo)
  | "zwj" => some (one '\u200d')
  | _ => none

def ofWordName? : String → Option CharClass
  | "aletter" | "le" => some wordLetter
  | "cr" => some (one '\r')
  | "doublequote" | "dq" => some (one '\x22')
  | "extend" => some wordExtend
  | "extendnumlet" | "ex" => some (listed Text.Boundary.extendNumLet)
  | "format" | "fo" => some (listed Text.Boundary.wordFormat)
  | "hebrewletter" | "hl" => some (listed Text.Boundary.hebrewLetter)
  | "katakana" | "ka" => some (listed Text.Boundary.wordKatakana)
  | "lf" => some (one '\n')
  | "midletter" | "ml" => some (listed Text.Boundary.midLetter)
  | "midnum" | "mn" => some (listed Text.Boundary.midNum)
  | "midnumlet" | "mb" => some (listed Text.Boundary.midNumLet)
  | "newline" | "nl" => some (listed Text.Boundary.newline)
  | "numeric" | "nu" => some (listed Text.Boundary.wordNumeric)
  | "regionalindicator" | "ri" => some (listed Text.Property.regionalIndicator)
  | "singlequote" | "sq" => some (one '\x27')
  | "wsegspace" => some (listed Text.Boundary.wordSpace)
  | "zwj" => some (one '\u200d')
  | _ => none

def ofSentenceName? : String → Option CharClass
  | "aterm" | "at" => some (listed Text.Boundary.aTerm)
  | "close" | "cl" => some (listed Text.Boundary.sentenceClose)
  | "cr" => some (one '\r')
  | "extend" | "ex" => some sentenceExtend
  | "format" | "fo" => some (listed Text.Boundary.sentenceFormat)
  | "lf" => some (one '\n')
  | "lower" | "lo" => some sentenceLower
  | "numeric" | "nu" => some (union (listed Text.Boundary.wordNumeric) (one '\u066c'))
  | "oletter" | "le" => some sentenceLetter
  | "scontinue" | "sc" => some (listed Text.Boundary.sContinue)
  | "sep" | "se" => some lineSeparators
  | "sp" => some sentenceSpace
  | "sterm" | "st" => some sentenceEnd
  | "upper" | "up" => some sentenceUpper
  | _ => none

/-- The class of a name that stands alone. -/
def ofName? (name : String) : Option CharClass :=
  ((ofPropertyName? name).orElse fun _ => ofCategoryName? name).orElse fun _ => ofScriptName? name

/-- The class of the characters whose property has a value, both by name. -/
def ofNamedValue? (name value : String) : Option CharClass :=
  match name with
  | "age" => ofAge? value
  | "gc" | "generalcategory" => ofCategoryName? value
  | "gcb" | "graphemeclusterbreak" => ofClusterName? value
  | "sb" | "sentencebreak" => ofSentenceName? value
  | "sc" | "script" => ofScriptName? value
  | "scx" | "scriptextensions" => ofScriptExtension? value
  | "wb" | "wordbreak" => ofWordName? value
  | _ => none

end SheetCompiler.Pattern.CharClass
