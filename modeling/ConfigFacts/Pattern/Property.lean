import ConfigFacts.Pattern.CharacterSet

/-!
# Unicode properties in patterns

The properties by which a pattern can name a set of characters, with loosely matched names. Each
is recorded by what it says of the characters that the notation of a community is made of: the
digits, which no property tells apart, and the colon.
-/

namespace ConfigFacts.Pattern

/-- A Unicode property. -/
structure Property where
  /-- Its names, in lower case and without separators. -/
  names : List String
  /-- The bytes that its ranges take. -/
  size : Nat
  /-- Whether the digits have it. -/
  digits : Bool
  /-- Whether the colon has it. -/
  colon : Bool

namespace Property

/-- The characters with a property. -/
def members (p : Property) : CharacterSet :=
  .recorded (fun c => if c.isDigit then p.digits else c = ':' && p.colon) p.size

/-- The characters without a property. -/
def others (p : Property) : CharacterSet :=
  p.members.complement

/-- A property name without separators, letter case, characters beyond ASCII and a leading `is`,
all of which are immaterial. The one name that begins with a real `is` stays whole. -/
def plainName (name : List Char) : String :=
  let bare (s : List Char) := (s.filter fun c => c.toNat < 128 && c != ' ' && c != '_' && c != '-')
    |>.map Char.toLower
  match name with
  | i :: s :: rest =>
    if i.toLower = 'i' ∧ s.toLower = 's' then
      if bare rest = ['c'] then "isc" else String.ofList (bare rest)
    else String.ofList (bare name)
  | _ => String.ofList (bare name)

/-- The general categories. -/
def categories : List Property :=
  [⟨["c", "other"], 41780, false, false⟩, ⟨["cc", "control", "cntrl"], 204, false, false⟩,
    ⟨["cf", "format"], 1784, false, false⟩, ⟨["cn", "unassigned"], 41128, false, false⟩,
    ⟨["co", "privateuse"], 864, false, false⟩, ⟨["l", "letter"], 41352, false, false⟩,
    ⟨["lc", "casedletter"], 9404, false, false⟩, ⟨["ll", "lowercaseletter"], 27324, false, false⟩,
    ⟨["lm", "modifierletter"], 4776, false, false⟩, ⟨["lo", "otherletter"], 32764, false, false⟩,
    ⟨["lt", "titlecaseletter"], 552, false, false⟩,
    ⟨["lu", "uppercaseletter"], 26284, false, false⟩,
    ⟨["m", "mark", "combiningmark"], 18140, false, false⟩,
    ⟨["mc", "spacingmark"], 9924, false, false⟩, ⟨["me", "enclosingmark"], 468, false, false⟩,
    ⟨["mn", "nonspacingmark"], 18756, false, false⟩, ⟨["n", "number"], 9272, true, false⟩,
    ⟨["nd", "decimalnumber", "digit"], 5184, true, false⟩,
    ⟨["nl", "letternumber"], 1112, false, false⟩, ⟨["no", "othernumber"], 5100, false, false⟩,
    ⟨["p", "punctuation", "punct"], 11472, false, true⟩,
    ⟨["pc", "connectorpunctuation"], 540, false, false⟩,
    ⟨["pd", "dashpunctuation"], 1324, false, false⟩,
    ⟨["pe", "closepunctuation"], 3504, false, false⟩,
    ⟨["pf", "finalpunctuation"], 552, false, false⟩,
    ⟨["pi", "initialpunctuation"], 588, false, false⟩,
    ⟨["po", "otherpunctuation"], 10868, false, true⟩,
    ⟨["ps", "openpunctuation"], 3644, false, false⟩, ⟨["s", "symbol"], 15384, false, false⟩,
    ⟨["sc", "currencysymbol"], 1720, false, false⟩, ⟨["sk", "modifiersymbol"], 2020, false, false⟩,
    ⟨["sm", "mathsymbol"], 3860, false, false⟩, ⟨["so", "othersymbol"], 12748, false, false⟩,
    ⟨["z", "separator"], 608, false, false⟩, ⟨["zl", "lineseparator"], 164, false, false⟩,
    ⟨["zp", "paragraphseparator"], 164, false, false⟩,
    ⟨["zs", "spaceseparator"], 572, false, false⟩, ⟨["any"], 1000, true, true⟩,
    ⟨["assigned"], 49068, true, true⟩, ⟨["ascii"], 72, true, true⟩]

/-- The properties that a character has or lacks. -/
def binary : List Property :=
  [⟨["ahex", "asciihexdigit"], 172, true, false⟩, ⟨["alpha", "alphabetic"], 45404, false, false⟩,
    ⟨["bidic", "bidicontrol"], 336, false, false⟩, ⟨["ci", "caseignorable"], 23728, false, true⟩,
    ⟨["cased"], 10200, false, false⟩, ⟨["cwcf", "changeswhencasefolded"], 24888, false, false⟩,
    ⟨["cwcm", "changeswhencasemapped"], 8296, false, false⟩,
    ⟨["cwl", "changeswhenlowercased"], 24292, false, false⟩,
    ⟨["cwt", "changeswhentitlecased"], 25104, false, false⟩,
    ⟨["cwu", "changeswhenuppercased"], 25172, false, false⟩, ⟨["dash"], 1564, false, false⟩,
    ⟨["di", "defaultignorablecodepoint"], 1476, false, false⟩,
    ⟨["dep", "deprecated"], 736, false, false⟩, ⟨["dia", "diacritic"], 12404, false, false⟩,
    ⟨["emoji"], 7660, true, false⟩, ⟨["ecomp", "emojicomponent"], 908, true, false⟩,
    ⟨["emod", "emojimodifier"], 196, false, false⟩,
    ⟨["ebase", "emojimodifierbase"], 2144, false, false⟩,
    ⟨["epres", "emojipresentation"], 4856, false, false⟩,
    ⟨["extpict", "extendedpictographic"], 5072, false, false⟩,
    ⟨["ext", "extender"], 2500, false, false⟩, ⟨["grbase", "graphemebase"], 53956, true, true⟩,
    ⟨["grext", "graphemeextend"], 19532, false, false⟩, ⟨["hex", "hexdigit"], 376, true, false⟩,
    ⟨["hyphen"], 840, false, false⟩, ⟨["idsb", "idsbinaryoperator"], 200, false, false⟩,
    ⟨["idst", "idstrinaryoperator"], 164, false, false⟩,
    ⟨["idc", "idcontinue"], 47760, true, false⟩, ⟨["ids", "idstart"], 41488, false, false⟩,
    ⟨["ideo", "ideographic"], 3744, false, false⟩, ⟨["joinc", "joincontrol"], 164, false, false⟩,
    ⟨["loe", "logicalorderexception"], 540, false, false⟩,
    ⟨["lower", "lowercase"], 27952, false, false⟩, ⟨["math"], 7068, false, false⟩,
    ⟨["nchar", "noncharactercodepoint"], 1992, false, false⟩,
    ⟨["patsyn", "patternsyntax"], 1792, false, true⟩,
    ⟨["patws", "patternwhitespace"], 340, false, false⟩,
    ⟨["pcm", "prependedconcatenationmark"], 636, false, false⟩,
    ⟨["qmark", "quotationmark"], 852, false, false⟩, ⟨["radical"], 404, false, false⟩,
    ⟨["ri", "regionalindicator"], 196, false, false⟩,
    ⟨["sterm", "sentenceterminal"], 5348, false, false⟩, ⟨["sd", "softdotted"], 2248, false, false⟩,
    ⟨["term", "terminalpunctuation"], 6900, false, true⟩,
    ⟨["uideo", "unifiedideograph"], 2604, false, false⟩,
    ⟨["upper", "uppercase"], 26764, false, false⟩, ⟨["vs", "variationselector"], 500, false, false⟩,
    ⟨["wspace", "whitespace", "space"], 680, false, false⟩,
    ⟨["xidc", "xidcontinue"], 48148, true, false⟩, ⟨["xids", "xidstart"], 41876, false, false⟩,
    ⟨["idcompatmathcontinue"], 500, false, false⟩, ⟨["idcompatmathstart"], 500, false, false⟩,
    ⟨["idsu", "idsunaryoperator"], 500, false, false⟩,
    ⟨["mcm", "modifiercombiningmark"], 500, false, false⟩,
    ⟨["ogrext", "othergraphemeextend"], 1000, false, false⟩,
    ⟨["oalpha", "otheralphabetic"], 15000, false, false⟩,
    ⟨["odi", "otherdefaultignorablecodepoint"], 800, false, false⟩,
    ⟨["oidc", "otheridcontinue"], 600, false, false⟩, ⟨["oids", "otheridstart"], 500, false, false⟩,
    ⟨["olower", "otherlowercase"], 2000, false, false⟩,
    ⟨["omath", "othermath"], 7000, false, false⟩, ⟨["oupper", "otheruppercase"], 500, false, false⟩,
    ⟨["grlink", "graphemelink"], 3000, false, false⟩]

/-- The script of the characters that many scripts share. -/
def commonScript : Property :=
  ⟨["common", "zyyy"], 20000, true, true⟩

/-- The names of the other scripts, none of which has the digits or the colon. -/
def scriptNames : List String :=
  ["adlam", "adlm", "aghb", "ahom", "anatolianhieroglyphs", "arab", "arabic", "armenian", "armi",
    "armn", "avestan", "avst", "bali", "balinese", "bamu", "bamum", "bass", "bassavah", "batak",
    "batk", "beng", "bengali", "bhaiksuki", "bhks", "bopo", "bopomofo", "brah", "brahmi", "brai",
    "braille", "bugi", "buginese", "buhd", "buhid", "cakm", "canadianaboriginal", "cans", "cari",
    "carian", "caucasianalbanian", "chakma", "cham", "cher", "cherokee", "chorasmian", "chrs",
    "copt", "coptic", "cpmn", "cprt", "cuneiform", "cypriot", "cyprominoan", "cyrillic", "cyrl",
    "deseret", "deva", "devanagari", "diak", "divesakuru", "dogr", "dogra", "dsrt", "dupl",
    "duployan", "egyp", "egyptianhieroglyphs", "elba", "elbasan", "elym", "elymaic", "ethi",
    "ethiopic", "gara", "garay", "geor", "georgian", "glag", "glagolitic", "gong", "gonm", "goth",
    "gothic", "gran", "grantha", "greek", "grek", "gujarati", "gujr", "gukh", "gunjalagondi",
    "gurmukhi", "guru", "gurungkhema", "han", "hang", "hangul", "hani", "hanifirohingya", "hano",
    "hanunoo", "hatr", "hatran", "hebr", "hebrew", "hira", "hiragana", "hluw", "hmng", "hmnp",
    "hung", "imperialaramaic", "inherited", "inscriptionalpahlavi", "inscriptionalparthian", "ital",
    "java", "javanese", "kaithi", "kali", "kana", "kannada", "katakana", "kawi", "kayahli", "khar",
    "kharoshthi", "khitansmallscript", "khmer", "khmr", "khoj", "khojki", "khudawadi", "kiratrai",
    "kits", "knda", "krai", "kthi", "lana", "lao", "laoo", "latin", "latn", "lepc", "lepcha",
    "limb", "limbu", "lina", "linb", "lineara", "linearb", "lisu", "lyci", "lycian", "lydi",
    "lydian", "mahajani", "mahj", "maka", "makasar", "malayalam", "mand", "mandaic", "mani",
    "manichaean", "marc", "marchen", "masaramgondi", "medefaidrin", "medf", "meeteimayek", "mend",
    "mendekikakui", "merc", "mero", "meroiticcursive", "meroitichieroglyphs", "miao", "mlym",
    "modi", "mong", "mongolian", "mro", "mroo", "mtei", "mult", "multani", "myanmar", "mymr",
    "nabataean", "nagm", "nagmundari", "nand", "nandinagari", "narb", "nbat", "newa", "newtailue",
    "nko", "nkoo", "nshu", "nushu", "nyiakengpuachuehmong", "ogam", "ogham", "olchiki", "olck",
    "oldhungarian", "olditalic", "oldnortharabian", "oldpermic", "oldpersian", "oldsogdian",
    "oldsoutharabian", "oldturkic", "olduyghur", "olonal", "onao", "oriya", "orkh", "orya", "osage",
    "osge", "osma", "osmanya", "ougr", "pahawhhmong", "palm", "palmyrene", "pauc", "paucinhau",
    "perm", "phag", "phagspa", "phli", "phlp", "phnx", "phoenician", "plrd", "prti",
    "psalterpahlavi", "qaac", "qaai", "rejang", "rjng", "rohg", "runic", "runr", "samaritan",
    "samr", "sarb", "saur", "saurashtra", "sgnw", "sharada", "shavian", "shaw", "shrd", "sidd",
    "siddham", "signwriting", "sind", "sinh", "sinhala", "sogd", "sogdian", "sogo", "sora",
    "sorasompeng", "soyo", "soyombo", "sund", "sundanese", "sunu", "sunuwar", "sylo", "sylotinagri",
    "syrc", "syriac", "tagalog", "tagb", "tagbanwa", "taile", "taitham", "taiviet", "takr", "takri",
    "tale", "talu", "tamil", "taml", "tang", "tangsa", "tangut", "tavt", "telu", "telugu", "tfng",
    "tglg", "thaa", "thaana", "thai", "tibetan", "tibt", "tifinagh", "tirh", "tirhuta", "tnsa",
    "todhri", "todr", "toto", "tulutigalari", "tutg", "ugar", "ugaritic", "vai", "vaii", "vith",
    "vithkuqi", "wancho", "wara", "warangciti", "wcho", "xpeo", "xsux", "yezi", "yezidi", "yi",
    "yiii", "zanabazarsquare", "zanb", "zinh"]

/-- The scripts. -/
def scripts : List Property :=
  [commonScript, ⟨scriptNames, 1000, false, false⟩]

/-- The names of the versions of Unicode. -/
def versionNames : List String :=
  ["1.1", "2.0", "2.1", "3.0", "3.1", "3.2", "4.0", "4.1", "5.0", "5.1", "5.2", "6.0", "6.1", "6.2",
    "6.3", "7.0", "8.0", "9.0", "10.0", "11.0", "12.0", "12.1", "13.0", "14.0", "15.0", "15.1",
    "16.0", "v11", "v20", "v21", "v30", "v31", "v32", "v40", "v41", "v50", "v51", "v52", "v60",
    "v61", "v62", "v63", "v70", "v80", "v90", "v100", "v110", "v120", "v121", "v130", "v140",
    "v150", "v151", "v160"]

/-- The versions in which characters were assigned; digits and the colon always were. -/
def ages : List Property :=
  [⟨versionNames, 20000, true, true⟩]

/-- The classes of characters at the borders of grapheme clusters. -/
def graphemeBreaks : List Property :=
  [⟨["cn", "control", "cr", "ex", "extend", "l", "lf", "lv", "lvt", "pp", "prepend", "ri",
    "regionalindicator", "sm", "spacingmark", "t", "v", "zwj"], 5000, false, false⟩]

/-- The classes of characters at the borders of words. -/
def wordBreaks : List Property :=
  [⟨["nu", "numeric"], 5000, true, false⟩, ⟨["ml", "midletter"], 500, false, true⟩,
    ⟨["cr", "dq", "doublequote", "ex", "extendnumlet", "extend", "fo", "format", "hl",
      "hebrewletter", "ka", "katakana", "le", "aletter", "lf", "mb", "midnumlet", "mn", "midnum",
      "nl", "newline", "ri", "regionalindicator", "sq", "singlequote", "wsegspace", "zwj"],
      5000, false, false⟩]

/-- The classes of characters at the borders of sentences. -/
def sentenceBreaks : List Property :=
  [⟨["nu", "numeric"], 5000, true, false⟩, ⟨["sc", "scontinue"], 500, false, true⟩,
    ⟨["at", "aterm", "cl", "close", "cr", "ex", "extend", "fo", "format", "le", "oletter", "lf",
      "lo", "lower", "se", "sep", "sp", "st", "sterm", "up", "upper"], 5000, false, false⟩]

/-- The properties that a pattern names together with a value, with their values. -/
def valued : List (List String × List Property) :=
  [(["gc", "generalcategory"], categories), (["sc", "script"], scripts),
    (["scx", "scriptextensions"], scripts), (["age"], ages),
    (["gcb", "graphemeclusterbreak"], graphemeBreaks), (["wb", "wordbreak"], wordBreaks),
    (["sb", "sentencebreak"], sentenceBreaks)]

/-- The property of a list that has a name. -/
def find? (properties : List Property) (name : List Char) : Option Property :=
  properties.find? fun p => p.names.contains (plainName name)

/-- The property of a name that stands alone. -/
def ofName? (name : List Char) : Option Property :=
  find? (binary ++ categories ++ scripts) name

/-- The property of a name and a value. -/
def ofValue? (name value : List Char) : Option Property :=
  (valued.find? fun (names, _) => names.contains (plainName name)).bind fun (_, values) =>
    find? values value

/-- A text cut at the first place where a separator stands. -/
def cut? (separator : List Char) : List Char → Option (List Char × List Char)
  | [] => none
  | c :: s =>
    if separator.isPrefixOf (c :: s) then some ([], (c :: s).drop separator.length)
    else (cut? separator s).map fun (front, back) => (c :: front, back)

/-- The property of the text between braces: a name, or a name and a value with a sign between
them. Of several signs the one for inequality counts first, then the colon. -/
def ofText? (s : List Char) : Option Property :=
  match cut? ['!', '='] s <|> cut? [':'] s <|> cut? ['='] s with
  | some (name, value) => ofValue? name value
  | none => ofName? s

end Property

end ConfigFacts.Pattern
