/-!
Names of character properties and of their values, long and short, without blanks, hyphens,
underscores and capitals. Names that no character has, such as that of the surrogates, are left out.
-/

namespace ApiScaffold.Pattern.PropertyNames

def binary : List String := [
  "ahex", "alpha", "alphabetic", "asciihexdigit", "bidic", "bidicontrol", "bidim", "bidimirrored",
  "cased", "caseignorable", "changeswhencasefolded", "changeswhencasemapped",
  "changeswhenlowercased", "changeswhennfkccasefolded", "changeswhentitlecased",
  "changeswhenuppercased", "ci", "cwcf", "cwcm", "cwkcf", "cwl", "cwt", "cwu", "dash",
  "defaultignorablecodepoint", "dep", "deprecated", "di", "dia", "diacritic", "ebase", "ecomp",
  "emod", "emoji", "emojicomponent", "emojimodifier", "emojimodifierbase", "emojipresentation",
  "epres", "ext", "extendedpictographic", "extender", "extpict", "graphemebase", "graphemeextend",
  "graphemelink", "grbase", "grext", "grlink", "hex", "hexdigit", "hyphen", "idc",
  "idcompatmathcontinue", "idcompatmathstart", "idcontinue", "ideo", "ideographic", "ids", "idsb",
  "idsbinaryoperator", "idst", "idstart", "idstrinaryoperator", "idsu", "idsunaryoperator",
  "joinc", "joincontrol", "loe", "logicalorderexception", "lower", "lowercase", "math", "mcm",
  "modifiercombiningmark", "nchar", "noncharactercodepoint", "oalpha", "odi", "ogrext", "oidc",
  "oids", "olower", "omath", "otheralphabetic", "otherdefaultignorablecodepoint",
  "othergraphemeextend", "otheridcontinue", "otheridstart", "otherlowercase", "othermath",
  "otheruppercase", "oupper", "patsyn", "patternsyntax", "patternwhitespace", "patws", "pcm",
  "prependedconcatenationmark", "qmark", "quotationmark", "radical", "regionalindicator", "ri",
  "sd", "sentenceterminal", "softdotted", "space", "sterm", "term", "terminalpunctuation",
  "uideo", "unifiedideograph", "upper", "uppercase", "variationselector", "vs", "whitespace",
  "wspace", "xidc", "xidcontinue", "xids", "xidstart"]

/-- General categories, and the three sets that are named like one. -/
def category : List String := [
  "any", "ascii", "assigned", "c", "casedletter", "cc", "cf", "closepunctuation", "cn", "cntrl",
  "co", "combiningmark", "connectorpunctuation", "control", "currencysymbol", "dashpunctuation",
  "decimalnumber", "digit", "enclosingmark", "finalpunctuation", "format", "initialpunctuation",
  "l", "lc", "letter", "letternumber", "lineseparator", "ll", "lm", "lo", "lowercaseletter", "lt",
  "lu", "m", "mark", "mathsymbol", "mc", "me", "mn", "modifierletter", "modifiersymbol", "n",
  "nd", "nl", "no", "nonspacingmark", "number", "openpunctuation", "other", "otherletter",
  "othernumber", "otherpunctuation", "othersymbol", "p", "paragraphseparator", "pc", "pd", "pe",
  "pf", "pi", "po", "privateuse", "ps", "punct", "punctuation", "s", "sc", "separator", "sk",
  "sm", "so", "spaceseparator", "spacingmark", "symbol", "titlecaseletter", "unassigned",
  "uppercaseletter", "z", "zl", "zp", "zs"]

/-- Scripts, which also name sets of script extensions. -/
def script : List String := [
  "adlam", "adlm", "aghb", "ahom", "anatolianhieroglyphs", "arab", "arabic", "armenian", "armi",
  "armn", "avestan", "avst", "bali", "balinese", "bamu", "bamum", "bass", "bassavah", "batak",
  "batk", "beng", "bengali", "bhaiksuki", "bhks", "bopo", "bopomofo", "brah", "brahmi", "brai",
  "braille", "bugi", "buginese", "buhd", "buhid", "cakm", "canadianaboriginal", "cans", "cari",
  "carian", "caucasianalbanian", "chakma", "cham", "cher", "cherokee", "chorasmian", "chrs",
  "common", "copt", "coptic", "cpmn", "cprt", "cuneiform", "cypriot", "cyprominoan", "cyrillic",
  "cyrl", "deseret", "deva", "devanagari", "diak", "divesakuru", "dogr", "dogra", "dsrt", "dupl",
  "duployan", "egyp", "egyptianhieroglyphs", "elba", "elbasan", "elym", "elymaic", "ethi",
  "ethiopic", "gara", "garay", "geor", "georgian", "glag", "glagolitic", "gong", "gonm", "goth",
  "gothic", "gran", "grantha", "greek", "grek", "gujarati", "gujr", "gukh", "gunjalagondi",
  "gurmukhi", "guru", "gurungkhema", "han", "hang", "hangul", "hani", "hanifirohingya", "hano",
  "hanunoo", "hatr", "hatran", "hebr", "hebrew", "hira", "hiragana", "hluw", "hmng", "hmnp",
  "hung", "imperialaramaic", "inherited", "inscriptionalpahlavi", "inscriptionalparthian", "ital",
  "java", "javanese", "kaithi", "kali", "kana", "kannada", "katakana", "kawi", "kayahli", "khar",
  "kharoshthi", "khitansmallscript", "khmer", "khmr", "khoj", "khojki", "khudawadi", "kiratrai",
  "kits", "knda", "krai", "kthi", "lana", "lao", "laoo", "latin", "latn", "lepc", "lepcha",
  "limb", "limbu", "lina", "linb", "lineara", "linearb", "lisu", "lyci", "lycian", "lydi",
  "lydian", "mahajani", "mahj", "maka", "makasar", "malayalam", "mand", "mandaic", "mani",
  "manichaean", "marc", "marchen", "masaramgondi", "medefaidrin", "medf", "meeteimayek", "mend",
  "mendekikakui", "merc", "mero", "meroiticcursive", "meroitichieroglyphs", "miao", "mlym",
  "modi", "mong", "mongolian", "mro", "mroo", "mtei", "mult", "multani", "myanmar", "mymr",
  "nabataean", "nagm", "nagmundari", "nand", "nandinagari", "narb", "nbat", "newa", "newtailue",
  "nko", "nkoo", "nshu", "nushu", "nyiakengpuachuehmong", "ogam", "ogham", "olchiki", "olck",
  "oldhungarian", "olditalic", "oldnortharabian", "oldpermic", "oldpersian", "oldsogdian",
  "oldsoutharabian", "oldturkic", "olduyghur", "olonal", "onao", "oriya", "orkh", "orya", "osage",
  "osge", "osma", "osmanya", "ougr", "pahawhhmong", "palm", "palmyrene", "pauc", "paucinhau",
  "perm", "phag", "phagspa", "phli", "phlp", "phnx", "phoenician", "plrd", "prti",
  "psalterpahlavi", "qaac", "qaai", "rejang", "rjng", "rohg", "runic", "runr", "samaritan",
  "samr", "sarb", "saur", "saurashtra", "sgnw", "sharada", "shavian", "shaw", "shrd", "sidd",
  "siddham", "signwriting", "sind", "sinh", "sinhala", "sogd", "sogdian", "sogo", "sora",
  "sorasompeng", "soyo", "soyombo", "sund", "sundanese", "sunu", "sunuwar", "sylo", "sylotinagri",
  "syrc", "syriac", "tagalog", "tagb", "tagbanwa", "taile", "taitham", "taiviet", "takr", "takri",
  "tale", "talu", "tamil", "taml", "tang", "tangsa", "tangut", "tavt", "telu", "telugu", "tfng",
  "tglg", "thaa", "thaana", "thai", "tibetan", "tibt", "tifinagh", "tirh", "tirhuta", "tnsa",
  "todhri", "todr", "toto", "tulutigalari", "tutg", "ugar", "ugaritic", "vai", "vaii", "vith",
  "vithkuqi", "wancho", "wara", "warangciti", "wcho", "xpeo", "xsux", "yezi", "yezidi", "yi",
  "yiii", "zanabazarsquare", "zanb", "zinh", "zyyy"]

def graphemeBreak : List String := [
  "cn", "control", "cr", "ex", "extend", "l", "lf", "lv", "lvt", "pp", "prepend",
  "regionalindicator", "ri", "sm", "spacingmark", "t", "v", "zwj"]

def wordBreak : List String := [
  "aletter", "cr", "doublequote", "dq", "ex", "extend", "extendnumlet", "fo", "format",
  "hebrewletter", "hl", "ka", "katakana", "le", "lf", "mb", "midletter", "midnum", "midnumlet",
  "ml", "mn", "newline", "nl", "nu", "numeric", "regionalindicator", "ri", "singlequote", "sq",
  "wsegspace", "zwj"]

def sentenceBreak : List String := [
  "at", "aterm", "cl", "close", "cr", "ex", "extend", "fo", "format", "le", "lf", "lo", "lower",
  "nu", "numeric", "oletter", "sc", "scontinue", "se", "sep", "sp", "st", "sterm", "up", "upper"]

def age : List String := [
  "1.1", "10.0", "11.0", "12.0", "12.1", "13.0", "14.0", "15.0", "15.1", "16.0", "2.0", "2.1",
  "3.0", "3.1", "3.2", "4.0", "4.1", "5.0", "5.1", "5.2", "6.0", "6.1", "6.2", "6.3", "7.0",
  "8.0", "9.0", "v100", "v11", "v110", "v120", "v121", "v130", "v140", "v150", "v151", "v160",
  "v20", "v21", "v30", "v31", "v32", "v40", "v41", "v50", "v51", "v52", "v60", "v61", "v62",
  "v63", "v70", "v80", "v90"]

end ApiScaffold.Pattern.PropertyNames
