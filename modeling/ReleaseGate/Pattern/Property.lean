/-
# Pattern.Property — classes that are named by a property of characters

A property is named alone, if a character has it or not, or together with a
value. Case, blanks, underscores, hyphens and an `is` in front make no
difference to names. Only the decimal digits and the white space can be asked
for. Of a property with a value it is told whether the property or the value is
wrong, so the names of the other properties and of their values are known too.
-/
import ReleaseGate.Pattern.Fault
import ReleaseGate.Text.WordChars

namespace ReleaseGate.Pattern

set_option autoImplicit false

/-- A class that is named by a property of characters. -/
structure Property where
  name : String
  /-- The value, of a property that has one. -/
  value : Option String
  negated : Bool
  deriving DecidableEq, Repr

namespace Property

/-- The name of a property without `is` in front. -/
def withoutIs : List Char → List Char
  | first :: second :: rest =>
      if first.toLower = 'i' ∧ second.toLower = 's' then rest else first :: second :: rest
  | name => name

/-- The name of a property without what makes no difference to it; `isc` is a name of its own. -/
def plainName (name : String) : String :=
  let bare := withoutIs name.toList
  let matters (c : Char) : Bool := c.toNat < 128 && c != ' ' && c != '_' && c != '-'
  let plain := (bare.filter matters).map Char.toLower
  String.ofList (if bare.length < name.length ∧ plain = ['c'] then ['i', 's', 'c'] else plain)

/-! ## Names -/

/-- The names of the decimal digits among the general categories. -/
def digitNames : List String := ["nd", "decimalnumber", "digit"]

/-- The names of the property of white space. -/
def blankNames : List String := ["whitespace", "wspace", "space"]

/-- The names of the general category. -/
def categoryNames : List String := ["gc", "generalcategory"]

/-- The general categories. -/
def categories : List String :=
  [
    "any", "ascii", "assigned", "c", "casedletter", "cc", "cf", "closepunctuation", "cn", "cntrl",
    "co", "combiningmark", "connectorpunctuation", "control", "cs", "currencysymbol",
    "dashpunctuation", "decimalnumber", "digit", "enclosingmark", "finalpunctuation", "format",
    "initialpunctuation", "l", "lc", "letter", "letternumber", "lineseparator", "ll", "lm", "lo",
    "lowercaseletter", "lt", "lu", "m", "mark", "mathsymbol", "mc", "me", "mn", "modifierletter",
    "modifiersymbol", "n", "nd", "nl", "no", "nonspacingmark", "number", "openpunctuation", "other",
    "otherletter", "othernumber", "otherpunctuation", "othersymbol", "p", "paragraphseparator",
    "pc", "pd", "pe", "pf", "pi", "po", "privateuse", "ps", "punct", "punctuation", "s", "sc",
    "separator", "sk", "sm", "so", "spaceseparator", "spacingmark", "surrogate", "symbol",
    "titlecaseletter", "unassigned", "uppercaseletter", "z", "zl", "zp", "zs"]

/-- The versions of the character set in which characters came up. -/
def ages : List String :=
  [
    "1.1", "10.0", "11.0", "12.0", "12.1", "13.0", "14.0", "15.0", "15.1", "16.0", "2.0", "2.1",
    "3.0", "3.1", "3.2", "4.0", "4.1", "5.0", "5.1", "5.2", "6.0", "6.1", "6.2", "6.3", "7.0",
    "8.0", "9.0", "na", "unassigned", "v100", "v11", "v110", "v120", "v121", "v130", "v140", "v150",
    "v151", "v160", "v20", "v21", "v30", "v31", "v32", "v40", "v41", "v50", "v51", "v52", "v60",
    "v61", "v62", "v63", "v70", "v80", "v90"]

/-- The values of where clusters can be broken. -/
def clusterBreaks : List String :=
  [
    "cn", "control", "cr", "eb", "ebase", "ebasegaz", "ebg", "em", "emodifier", "ex", "extend",
    "gaz", "glueafterzwj", "l", "lf", "lv", "lvt", "other", "pp", "prepend", "regionalindicator",
    "ri", "sm", "spacingmark", "t", "v", "xx", "zwj"]

/-- The values of where sentences can be broken. -/
def sentenceBreaks : List String :=
  [
    "at", "aterm", "cl", "close", "cr", "ex", "extend", "fo", "format", "le", "lf", "lo", "lower",
    "nu", "numeric", "oletter", "other", "sc", "scontinue", "se", "sep", "sp", "st", "sterm", "up",
    "upper", "xx"]

/-- The values of where words can be broken. -/
def wordBreaks : List String :=
  [
    "aletter", "cr", "doublequote", "dq", "eb", "ebase", "ebasegaz", "ebg", "em", "emodifier", "ex",
    "extend", "extendnumlet", "fo", "format", "gaz", "glueafterzwj", "hebrewletter", "hl", "ka",
    "katakana", "le", "lf", "mb", "midletter", "midnum", "midnumlet", "ml", "mn", "newline", "nl",
    "nu", "numeric", "other", "regionalindicator", "ri", "singlequote", "sq", "wsegspace", "xx",
    "zwj"]

/-- The scripts. -/
def scripts : List String :=
  [
    "adlam", "adlm", "aghb", "ahom", "anatolianhieroglyphs", "arab", "arabic", "armenian", "armi",
    "armn", "avestan", "avst", "bali", "balinese", "bamu", "bamum", "bass", "bassavah", "batak",
    "batk", "beng", "bengali", "bhaiksuki", "bhks", "bopo", "bopomofo", "brah", "brahmi", "brai",
    "braille", "bugi", "buginese", "buhd", "buhid", "cakm", "canadianaboriginal", "cans", "cari",
    "carian", "caucasianalbanian", "chakma", "cham", "cher", "cherokee", "chorasmian", "chrs",
    "common", "copt", "coptic", "cpmn", "cprt", "cuneiform", "cypriot", "cyprominoan", "cyrillic",
    "cyrl", "deseret", "deva", "devanagari", "diak", "divesakuru", "dogr", "dogra", "dsrt", "dupl",
    "duployan", "egyp", "egyptianhieroglyphs", "elba", "elbasan", "elym", "elymaic", "ethi",
    "ethiopic", "gara", "garay", "geor", "georgian", "glag", "glagolitic", "gong", "gonm", "goth",
    "gothic", "gran", "grantha", "greek", "grek", "gujarati", "gujr", "gukh", "gunjalagondi",
    "gurmukhi", "guru", "gurungkhema", "han", "hang", "hangul", "hani", "hanifirohingya", "hano",
    "hanunoo", "hatr", "hatran", "hebr", "hebrew", "hira", "hiragana", "hluw", "hmng", "hmnp",
    "hrkt", "hung", "imperialaramaic", "inherited", "inscriptionalpahlavi", "inscriptionalparthian",
    "ital", "java", "javanese", "kaithi", "kali", "kana", "kannada", "katakana",
    "katakanaorhiragana", "kawi", "kayahli", "khar", "kharoshthi", "khitansmallscript", "khmer",
    "khmr", "khoj", "khojki", "khudawadi", "kiratrai", "kits", "knda", "krai", "kthi", "lana",
    "lao", "laoo", "latin", "latn", "lepc", "lepcha", "limb", "limbu", "lina", "linb", "lineara",
    "linearb", "lisu", "lyci", "lycian", "lydi", "lydian", "mahajani", "mahj", "maka", "makasar",
    "malayalam", "mand", "mandaic", "mani", "manichaean", "marc", "marchen", "masaramgondi",
    "medefaidrin", "medf", "meeteimayek", "mend", "mendekikakui", "merc", "mero", "meroiticcursive",
    "meroitichieroglyphs", "miao", "mlym", "modi", "mong", "mongolian", "mro", "mroo", "mtei",
    "mult", "multani", "myanmar", "mymr", "nabataean", "nagm", "nagmundari", "nand", "nandinagari",
    "narb", "nbat", "newa", "newtailue", "nko", "nkoo", "nshu", "nushu", "nyiakengpuachuehmong",
    "ogam", "ogham", "olchiki", "olck", "oldhungarian", "olditalic", "oldnortharabian", "oldpermic",
    "oldpersian", "oldsogdian", "oldsoutharabian", "oldturkic", "olduyghur", "olonal", "onao",
    "oriya", "orkh", "orya", "osage", "osge", "osma", "osmanya", "ougr", "pahawhhmong", "palm",
    "palmyrene", "pauc", "paucinhau", "perm", "phag", "phagspa", "phli", "phlp", "phnx",
    "phoenician", "plrd", "prti", "psalterpahlavi", "qaac", "qaai", "rejang", "rjng", "rohg",
    "runic", "runr", "samaritan", "samr", "sarb", "saur", "saurashtra", "sgnw", "sharada",
    "shavian", "shaw", "shrd", "sidd", "siddham", "signwriting", "sind", "sinh", "sinhala", "sogd",
    "sogdian", "sogo", "sora", "sorasompeng", "soyo", "soyombo", "sund", "sundanese", "sunu",
    "sunuwar", "sylo", "sylotinagri", "syrc", "syriac", "tagalog", "tagb", "tagbanwa", "taile",
    "taitham", "taiviet", "takr", "takri", "tale", "talu", "tamil", "taml", "tang", "tangsa",
    "tangut", "tavt", "telu", "telugu", "tfng", "tglg", "thaa", "thaana", "thai", "tibetan", "tibt",
    "tifinagh", "tirh", "tirhuta", "tnsa", "todhri", "todr", "toto", "tulutigalari", "tutg", "ugar",
    "ugaritic", "unknown", "vai", "vaii", "vith", "vithkuqi", "wancho", "wara", "warangciti",
    "wcho", "xpeo", "xsux", "yezi", "yezidi", "yi", "yiii", "zanabazarsquare", "zanb", "zinh",
    "zyyy", "zzzz"]

/-- The names of the properties whose values have no names here. -/
def otherNames : List String :=
  [
    "ahex", "alpha", "alphabetic", "asciihexdigit", "bc", "bidic", "bidiclass", "bidicontrol",
    "bidim", "bidimirrored", "bidimirroringglyph", "bidipairedbracket", "bidipairedbrackettype",
    "blk", "block", "bmg", "bpb", "bpt", "canonicalcombiningclass", "cased", "casefolding",
    "caseignorable", "ccc", "ce", "cf", "changeswhencasefolded", "changeswhencasemapped",
    "changeswhenlowercased", "changeswhennfkccasefolded", "changeswhentitlecased",
    "changeswhenuppercased", "ci", "cjkaccountingnumeric", "cjkcompatibilityvariant", "cjkiicore",
    "cjkirggsource", "cjkirghsource", "cjkirgjsource", "cjkirgkpsource", "cjkirgksource",
    "cjkirgmsource", "cjkirgssource", "cjkirgtsource", "cjkirguksource", "cjkirgusource",
    "cjkirgvsource", "cjkmandarin", "cjkothernumeric", "cjkprimarynumeric", "cjkrsunicode",
    "cjktotalstrokes", "cjkunihancore2020", "compex", "compositionexclusion", "cwcf", "cwcm",
    "cwkcf", "cwl", "cwt", "cwu", "dash", "decompositionmapping", "decompositiontype",
    "defaultignorablecodepoint", "dep", "deprecated", "di", "dia", "diacritic", "dm", "dt", "ea",
    "eastasianwidth", "ebase", "ecomp", "emod", "emoji", "emojicomponent", "emojimodifier",
    "emojimodifierbase", "emojipresentation", "epres", "equideo", "equivalentunifiedideograph",
    "expandsonnfc", "expandsonnfd", "expandsonnfkc", "expandsonnfkd", "ext", "extendedpictographic",
    "extender", "extpict", "fcnfkc", "fcnfkcclosure", "fullcompositionexclusion", "graphemebase",
    "graphemeextend", "graphemelink", "grbase", "grext", "grlink", "hangulsyllabletype", "hex",
    "hexdigit", "hst", "hyphen", "idc", "idcompatmathcontinue", "idcompatmathstart", "idcontinue",
    "ideo", "ideographic", "ids", "idsb", "idsbinaryoperator", "idst", "idstart",
    "idstrinaryoperator", "idsu", "idsunaryoperator", "incb", "indicconjunctbreak",
    "indicpositionalcategory", "indicsyllabiccategory", "inpc", "insc", "isc", "jamoshortname",
    "jg", "joinc", "joincontrol", "joininggroup", "joiningtype", "jsn", "jt", "kaccountingnumeric",
    "kcompatibilityvariant", "kehcat", "kehdesc", "kehhg", "kehifao", "kehjsesh", "kiicore",
    "kirggsource", "kirghsource", "kirgjsource", "kirgkpsource", "kirgksource", "kirgmsource",
    "kirgssource", "kirgtsource", "kirguksource", "kirgusource", "kirgvsource", "kmandarin",
    "kothernumeric", "kprimarynumeric", "krsunicode", "ktotalstrokes", "kunihancore2020", "lb",
    "lc", "linebreak", "loe", "logicalorderexception", "lower", "lowercase", "lowercasemapping",
    "math", "mcm", "modifiercombiningmark", "na", "na1", "name", "namealias", "nchar", "nfcqc",
    "nfcquickcheck", "nfdqc", "nfdquickcheck", "nfkccasefold", "nfkccf", "nfkcqc", "nfkcquickcheck",
    "nfkcscf", "nfkcsimplecasefold", "nfkdqc", "nfkdquickcheck", "noncharactercodepoint", "nt",
    "numerictype", "numericvalue", "nv", "oalpha", "ocomment", "odi", "ogrext", "oidc", "oids",
    "olower", "omath", "otheralphabetic", "otherdefaultignorablecodepoint", "othergraphemeextend",
    "otheridcontinue", "otheridstart", "otherlowercase", "othermath", "otheruppercase", "oupper",
    "patsyn", "patternsyntax", "patternwhitespace", "patws", "pcm", "prependedconcatenationmark",
    "qmark", "quotationmark", "radical", "regionalindicator", "ri", "scf", "sd", "sentenceterminal",
    "sfc", "simplecasefolding", "simplelowercasemapping", "simpletitlecasemapping",
    "simpleuppercasemapping", "slc", "softdotted", "space", "stc", "sterm", "suc", "tc", "term",
    "terminalpunctuation", "titlecasemapping", "uc", "uideo", "unicode1name",
    "unicoderadicalstroke", "unifiedideograph", "upper", "uppercase", "uppercasemapping", "urs",
    "variationselector", "verticalorientation", "vo", "vs", "whitespace", "wspace", "xidc",
    "xidcontinue", "xids", "xidstart", "xonfc", "xonfd", "xonfkc", "xonfkd"]

/-- The names of the values of a property, if there is such a property. -/
def values? (name : String) : Option (List String) :=
  if categoryNames.contains name then some categories
  else if name = "age" then some ages
  else if ["gcb", "graphemeclusterbreak"].contains name then some clusterBreaks
  else if ["sb", "sentencebreak"].contains name then some sentenceBreaks
  else if ["wb", "wordbreak"].contains name then some wordBreaks
  else if ["sc", "script", "scx", "scriptextensions"].contains name then some scripts
  else if otherNames.contains name then some []
  else none

/-! ## Look-up -/

/-- The ranges of a property that is named alone. -/
def rangesOf (name : String) : Except Cause (List (Nat × Nat)) :=
  if digitNames.contains name then .ok Text.digitRanges
  else if blankNames.contains name then .ok Text.blankRanges
  else .error .propertyUnknown

/-- The ranges of a property with a value. -/
def rangesOfValue (name value : String) : Except Cause (List (Nat × Nat)) :=
  match values? name with
  | none => .error .propertyUnknown
  | some values =>
      if categoryNames.contains name ∧ digitNames.contains value then .ok Text.digitRanges
      else if values.contains value then .error .propertyUnknown
      else .error .propertyValueUnknown

/-- The ranges of a property, or why there are none. -/
def ranges (p : Property) : Except Cause (List (Nat × Nat)) :=
  match p.value with
  | none => rangesOf (plainName p.name)
  | some value => rangesOfValue (plainName p.name) (plainName value)

end Property

end ReleaseGate.Pattern
