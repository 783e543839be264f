/-!
# Names of character properties

The names, without case and separators, by which a pattern may ask for the characters of a property:
general categories, scripts, properties that hold or do not, and the values of a few others.
-/

set_option autoImplicit false

namespace ReportSearch.Pattern

def categoryNames : List String := [
    "c", "casedletter", "cc", "cf", "closepunctuation", "cn", "cntrl", "co", "combiningmark",
    "connectorpunctuation", "control", "cs", "currencysymbol", "dashpunctuation", "decimalnumber",
    "digit", "enclosingmark", "finalpunctuation", "format", "initialpunctuation", "l", "lc",
    "letter", "letternumber", "lineseparator", "ll", "lm", "lo", "lowercaseletter", "lt", "lu",
    "m", "mark", "mathsymbol", "mc", "me", "mn", "modifierletter", "modifiersymbol", "n", "nd",
    "nl", "no", "nonspacingmark", "number", "openpunctuation", "other", "otherletter",
    "othernumber", "otherpunctuation", "othersymbol", "p", "paragraphseparator", "pc", "pd", "pe",
    "pf", "pi", "po", "privateuse", "ps", "punct", "punctuation", "s", "sc", "separator", "sk",
    "sm", "so", "spaceseparator", "spacingmark", "surrogate", "symbol", "titlecaseletter",
    "unassigned", "uppercaseletter", "z", "zl", "zp", "zs", "any", "assigned", "ascii"]

def scriptNames : List String := [
    "adlam", "adlm", "aghb", "ahom", "anatolianhieroglyphs", "arab", "arabic", "armenian", "armi",
    "armn", "avestan", "avst", "bali", "balinese", "bamu", "bamum", "bass", "bassavah", "batak",
    "batk", "beng", "bengali", "bhaiksuki", "bhks", "bopo", "bopomofo", "brah", "brahmi", "brai",
    "braille", "bugi", "buginese", "buhd", "buhid", "cakm", "canadianaboriginal", "cans", "cari",
    "carian", "caucasianalbanian", "chakma", "cham", "cher", "cherokee", "chorasmian", "chrs",
    "common", "copt", "coptic", "cpmn", "cprt", "cuneiform", "cypriot", "cyprominoan", "cyrillic",
    "cyrl", "deseret", "deva", "devanagari", "diak", "divesakuru", "dogr", "dogra", "dsrt", "dupl",
    "duployan", "egyp", "egyptianhieroglyphs", "elba", "elbasan", "elym", "elymaic", "ethi",
    "ethiopic", "gara", "garay", "geor", "georgian", "glag", "glagolitic", "gong", "gonm", "goth",
    "gothic", "gran", "grantha", "greek", "grek", "gujarati", "gujr", "gukh", "gunjalagondi",
    "gurmukhi", "guru", "gurungkhema", "han", "hang", "hangul", "hani", "hanifirohingya", "hano",
    "hanunoo", "hatr", "hatran", "hebr", "hebrew", "hira", "hiragana", "hluw", "hmng", "hmnp",
    "hung", "imperialaramaic", "inherited", "inscriptionalpahlavi", "inscriptionalparthian",
    "ital", "java", "javanese", "kaithi", "kali", "kana", "kannada", "katakana", "kawi", "kayahli",
    "khar", "kharoshthi", "khitansmallscript", "khmer", "khmr", "khoj", "khojki", "khudawadi",
    "kiratrai", "kits", "knda", "krai", "kthi", "lana", "lao", "laoo", "latin", "latn", "lepc",
    "lepcha", "limb", "limbu", "lina", "linb", "lineara", "linearb", "lisu", "lyci", "lycian",
    "lydi", "lydian", "mahajani", "mahj", "maka", "makasar", "malayalam", "mand", "mandaic",
    "mani", "manichaean", "marc", "marchen", "masaramgondi", "medefaidrin", "medf", "meeteimayek",
    "mend", "mendekikakui", "merc", "mero", "meroiticcursive", "meroitichieroglyphs", "miao",
    "mlym", "modi", "mong", "mongolian", "mro", "mroo", "mtei", "mult", "multani", "myanmar",
    "mymr", "nabataean", "nagm", "nagmundari", "nand", "nandinagari", "narb", "nbat", "newa",
    "newtailue", "nko", "nkoo", "nshu", "nushu", "nyiakengpuachuehmong", "ogam", "ogham",
    "olchiki", "olck", "oldhungarian", "olditalic", "oldnortharabian", "oldpermic", "oldpersian",
    "oldsogdian", "oldsoutharabian", "oldturkic", "olduyghur", "olonal", "onao", "oriya", "orkh",
    "orya", "osage", "osge", "osma", "osmanya", "ougr", "pahawhhmong", "palm", "palmyrene", "pauc",
    "paucinhau", "perm", "phag", "phagspa", "phli", "phlp", "phnx", "phoenician", "plrd", "prti",
    "psalterpahlavi", "qaac", "qaai", "rejang", "rjng", "rohg", "runic", "runr", "samaritan",
    "samr", "sarb", "saur", "saurashtra", "sgnw", "sharada", "shavian", "shaw", "shrd", "sidd",
    "siddham", "signwriting", "sind", "sinh", "sinhala", "sogd", "sogdian", "sogo", "sora",
    "sorasompeng", "soyo", "soyombo", "sund", "sundanese", "sunu", "sunuwar", "sylo",
    "sylotinagri", "syrc", "syriac", "tagalog", "tagb", "tagbanwa", "taile", "taitham", "taiviet",
    "takr", "takri", "tale", "talu", "tamil", "taml", "tang", "tangsa", "tangut", "tavt", "telu",
    "telugu", "tfng", "tglg", "thaa", "thaana", "thai", "tibetan", "tibt", "tifinagh", "tirh",
    "tirhuta", "tnsa", "todhri", "todr", "toto", "tulutigalari", "tutg", "ugar", "ugaritic",
    "unknown", "vai", "vaii", "vith", "vithkuqi", "wancho", "wara", "warangciti", "wcho", "xpeo",
    "xsux", "yezi", "yezidi", "yi", "yiii", "zanabazarsquare", "zanb", "zinh", "zyyy", "zzzz"]

def propertyNames : List String := [
    "ahex", "alpha", "alphabetic", "asciihexdigit", "bidic", "bidicontrol", "bidim",
    "bidimirrored", "cased", "caseignorable", "changeswhencasefolded", "changeswhencasemapped",
    "changeswhenlowercased", "changeswhentitlecased", "changeswhenuppercased", "ci", "cwcf",
    "cwcm", "cwl", "cwt", "cwu", "dash", "defaultignorablecodepoint", "dep", "deprecated", "di",
    "dia", "diacritic", "ebase", "ecomp", "emod", "emoji", "emojicomponent", "emojimodifier",
    "emojimodifierbase", "emojipresentation", "epres", "ext", "extendedpictographic", "extender",
    "extpict", "graphemebase", "graphemeextend", "graphemelink", "grbase", "grext", "grlink",
    "hex", "hexdigit", "hyphen", "idc", "idcompatmathcontinue", "idcompatmathstart", "idcontinue",
    "ideo", "ideographic", "ids", "idsb", "idsbinaryoperator", "idst", "idstart",
    "idstrinaryoperator", "idsu", "idsunaryoperator", "joinc", "joincontrol", "loe",
    "logicalorderexception", "lower", "lowercase", "math", "mcm", "modifiercombiningmark", "nchar",
    "noncharactercodepoint", "oalpha", "odi", "ogrext", "oidc", "oids", "olower", "omath",
    "otheralphabetic", "otherdefaultignorablecodepoint", "othergraphemeextend", "otheridcontinue",
    "otheridstart", "otherlowercase", "othermath", "otheruppercase", "oupper", "patsyn",
    "patternsyntax", "patternwhitespace", "patws", "pcm", "prependedconcatenationmark", "qmark",
    "quotationmark", "radical", "regionalindicator", "ri", "sd", "sentenceterminal", "softdotted",
    "space", "sterm", "term", "terminalpunctuation", "uideo", "unifiedideograph", "upper",
    "uppercase", "variationselector", "vs", "whitespace", "wspace", "xidc", "xidcontinue", "xids",
    "xidstart"]

def ageNames : List String := [
    "1.1", "10.0", "11.0", "12.0", "12.1", "13.0", "14.0", "15.0", "2.0", "2.1", "3.0", "3.1",
    "3.2", "4.0", "4.1", "5.0", "5.1", "5.2", "6.0", "6.1", "6.2", "6.3", "7.0", "8.0", "9.0",
    "v100", "v11", "v110", "v120", "v121", "v130", "v140", "v150", "v20", "v21", "v30", "v31",
    "v32", "v40", "v41", "v50", "v51", "v52", "v60", "v61", "v62", "v63", "v70", "v80", "v90",
    "15.1", "16.0", "v151", "v160"]

def graphemeBreakNames : List String := [
    "cn", "control", "cr", "eb", "ebase", "ebasegaz", "ebg", "em", "emodifier", "ex", "extend",
    "gaz", "glueafterzwj", "l", "lf", "lv", "lvt", "other", "pp", "prepend", "regionalindicator",
    "ri", "sm", "spacingmark", "t", "v", "xx", "zwj"]

def wordBreakNames : List String := [
    "aletter", "cr", "doublequote", "dq", "eb", "ebase", "ebasegaz", "ebg", "em", "emodifier",
    "ex", "extend", "extendnumlet", "fo", "format", "gaz", "glueafterzwj", "hebrewletter", "hl",
    "ka", "katakana", "le", "lf", "mb", "midletter", "midnum", "midnumlet", "ml", "mn", "newline",
    "nl", "nu", "numeric", "other", "regionalindicator", "ri", "singlequote", "sq", "wsegspace",
    "xx", "zwj"]

def sentenceBreakNames : List String := [
    "at", "aterm", "cl", "close", "cr", "ex", "extend", "fo", "format", "le", "lf", "lo", "lower",
    "nu", "numeric", "oletter", "other", "sc", "scontinue", "se", "sep", "sp", "st", "sterm", "up",
    "upper", "xx"]

def isSeparator (c : Char) : Bool := c = ' ' || c = '_' || c = '-'

/-- A name in lower case without separators, other characters than ASCII ones, and a leading `is`. -/
def plainName (name : List Char) : String :=
  let lower := name.map Char.toLower
  let (hadIs, rest) := match lower with
    | 'i' :: 's' :: rest => (true, rest)
    | rest => (false, rest)
  let kept := rest.filter fun c => !isSeparator c && c.toNat < 128
  if hadIs && kept = ['c'] then "isc" else String.ofList kept

/-- Short names that mean a general category although they abbreviate a property as well. -/
def categoryFirst : List String := ["cf", "sc", "lc"]

def isPropertyName (name : List Char) : Bool :=
  let name := plainName name
  categoryNames.contains name || scriptNames.contains name ||
    (propertyNames.contains name && !categoryFirst.contains name)

def valueNames (property : String) : List String :=
  if ["generalcategory", "gc", "category"].contains property then categoryNames
  else if ["script", "sc", "scriptextensions", "scx"].contains property then scriptNames
  else if ["age"].contains property then ageNames
  else if ["graphemeclusterbreak", "gcb"].contains property then graphemeBreakNames
  else if ["wordbreak", "wb"].contains property then wordBreakNames
  else if ["sentencebreak", "sb"].contains property then sentenceBreakNames
  else []

def isPropertyValue (property value : List Char) : Bool :=
  (valueNames (plainName property)).contains (plainName value)

end ReportSearch.Pattern
