set_option autoImplicit false

/-! # Names of character properties

The names, long and short, under which Unicode 16 lists its two-valued properties and the values of
its enumerated ones, as far as patterns may ask for them. Surrogates are no characters, so their
category has no name here. -/

namespace TreeQuery.Pattern.Property

/-- The names of the two-valued properties. -/
def binaryNames : List String :=
  ["ASCII_Hex_Digit", "AHex", "Alphabetic", "Alpha", "Bidi_Control", "Bidi_C", "Bidi_Mirrored",
    "Bidi_M", "Case_Ignorable", "CI", "Cased", "Changes_When_Casefolded", "CWCF",
    "Changes_When_Casemapped", "CWCM", "Changes_When_Lowercased", "CWL",
    "Changes_When_Titlecased", "CWT", "Changes_When_Uppercased", "CWU", "Dash",
    "Default_Ignorable_Code_Point", "DI", "Deprecated", "Dep", "Diacritic", "Dia", "Emoji",
    "Emoji_Component", "EComp", "Emoji_Modifier", "EMod", "Emoji_Modifier_Base", "EBase",
    "Emoji_Presentation", "EPres", "Extended_Pictographic", "ExtPict", "Extender", "Ext",
    "Grapheme_Base", "Gr_Base", "Grapheme_Extend", "Gr_Ext", "Grapheme_Link", "Gr_Link",
    "Hex_Digit", "Hex", "Hyphen", "IDS_Binary_Operator", "IDSB", "IDS_Trinary_Operator", "IDST",
    "IDS_Unary_Operator", "IDSU", "ID_Compat_Math_Continue", "ID_Compat_Math_Start",
    "ID_Continue", "IDC", "ID_Start", "IDS", "Ideographic", "Ideo", "Join_Control", "Join_C",
    "Logical_Order_Exception", "LOE", "Lowercase", "Lower", "Math", "Modifier_Combining_Mark",
    "MCM", "Noncharacter_Code_Point", "NChar", "Other_Alphabetic", "OAlpha",
    "Other_Default_Ignorable_Code_Point", "ODI", "Other_Grapheme_Extend", "OGr_Ext",
    "Other_ID_Continue", "OIDC", "Other_ID_Start", "OIDS", "Other_Lowercase", "OLower",
    "Other_Math", "OMath", "Other_Uppercase", "OUpper", "Pattern_Syntax", "Pat_Syn",
    "Pattern_White_Space", "Pat_WS", "Prepended_Concatenation_Mark", "PCM", "Quotation_Mark",
    "QMark", "Radical", "Regional_Indicator", "RI", "Sentence_Terminal", "STerm", "Soft_Dotted",
    "SD", "Terminal_Punctuation", "Term", "Unified_Ideograph", "UIdeo", "Uppercase", "Upper",
    "Variation_Selector", "VS", "White_Space", "WSpace", "Space", "XID_Continue", "XIDC",
    "XID_Start", "XIDS"]

/-- The names of the general categories, with the three classes `Any`, `Assigned` and `ASCII`. -/
def categoryNames : List String :=
  ["C", "Other", "Cc", "Control", "cntrl", "Cf", "Format", "Cn", "Unassigned", "Co",
    "Private_Use", "L", "Letter", "LC", "Cased_Letter", "Ll", "Lowercase_Letter", "Lm",
    "Modifier_Letter", "Lo", "Other_Letter", "Lt", "Titlecase_Letter", "Lu", "Uppercase_Letter",
    "M", "Mark", "Combining_Mark", "Mc", "Spacing_Mark", "Me", "Enclosing_Mark", "Mn",
    "Nonspacing_Mark", "N", "Number", "Nd", "Decimal_Number", "digit", "Nl", "Letter_Number",
    "No", "Other_Number", "P", "Punctuation", "punct", "Pc", "Connector_Punctuation", "Pd",
    "Dash_Punctuation", "Pe", "Close_Punctuation", "Pf", "Final_Punctuation", "Pi",
    "Initial_Punctuation", "Po", "Other_Punctuation", "Ps", "Open_Punctuation", "S", "Symbol",
    "Sc", "Currency_Symbol", "Sk", "Modifier_Symbol", "Sm", "Math_Symbol", "So", "Other_Symbol",
    "Z", "Separator", "Zl", "Line_Separator", "Zp", "Paragraph_Separator", "Zs",
    "Space_Separator", "Any", "Assigned", "ASCII"]

/-- The names of the scripts. -/
def scriptNames : List String :=
  ["Adlam", "Adlm", "Caucasian_Albanian", "Aghb", "Ahom", "Arabic", "Arab", "Imperial_Aramaic",
    "Armi", "Armenian", "Armn", "Avestan", "Avst", "Balinese", "Bali", "Bamum", "Bamu",
    "Bassa_Vah", "Bass", "Batak", "Batk", "Bengali", "Beng", "Bhaiksuki", "Bhks", "Bopomofo",
    "Bopo", "Brahmi", "Brah", "Braille", "Brai", "Buginese", "Bugi", "Buhid", "Buhd", "Chakma",
    "Cakm", "Canadian_Aboriginal", "Cans", "Carian", "Cari", "Cham", "Cherokee", "Cher",
    "Chorasmian", "Chrs", "Qaac", "Coptic", "Copt", "Cypro_Minoan", "Cpmn", "Cypriot", "Cprt",
    "Cyrillic", "Cyrl", "Devanagari", "Deva", "Dives_Akuru", "Diak", "Dogra", "Dogr", "Deseret",
    "Dsrt", "Duployan", "Dupl", "Egyptian_Hieroglyphs", "Egyp", "Elbasan", "Elba", "Elymaic",
    "Elym", "Ethiopic", "Ethi", "Garay", "Gara", "Georgian", "Geor", "Glagolitic", "Glag",
    "Gunjala_Gondi", "Gong", "Masaram_Gondi", "Gonm", "Gothic", "Goth", "Grantha", "Gran",
    "Greek", "Grek", "Gujarati", "Gujr", "Gurung_Khema", "Gukh", "Gurmukhi", "Guru", "Hangul",
    "Hang", "Han", "Hani", "Hanunoo", "Hano", "Hatran", "Hatr", "Hebrew", "Hebr", "Hiragana",
    "Hira", "Anatolian_Hieroglyphs", "Hluw", "Pahawh_Hmong", "Hmng", "Nyiakeng_Puachue_Hmong",
    "Hmnp", "Old_Hungarian", "Hung", "Old_Italic", "Ital", "Javanese", "Java", "Kayah_Li", "Kali",
    "Katakana", "Kana", "Kawi", "Kharoshthi", "Khar", "Khmer", "Khmr", "Khojki", "Khoj",
    "Khitan_Small_Script", "Kits", "Kannada", "Knda", "Kirat_Rai", "Krai", "Kaithi", "Kthi",
    "Tai_Tham", "Lana", "Lao", "Laoo", "Latin", "Latn", "Lepcha", "Lepc", "Limbu", "Limb",
    "Linear_A", "Lina", "Linear_B", "Linb", "Lisu", "Lycian", "Lyci", "Lydian", "Lydi",
    "Mahajani", "Mahj", "Makasar", "Maka", "Mandaic", "Mand", "Manichaean", "Mani", "Marchen",
    "Marc", "Medefaidrin", "Medf", "Mende_Kikakui", "Mend", "Meroitic_Cursive", "Merc",
    "Meroitic_Hieroglyphs", "Mero", "Malayalam", "Mlym", "Modi", "Mongolian", "Mong", "Mro",
    "Mroo", "Meetei_Mayek", "Mtei", "Multani", "Mult", "Myanmar", "Mymr", "Nag_Mundari", "Nagm",
    "Nandinagari", "Nand", "Old_North_Arabian", "Narb", "Nabataean", "Nbat", "Newa", "Nko",
    "Nkoo", "Nushu", "Nshu", "Ogham", "Ogam", "Ol_Chiki", "Olck", "Ol_Onal", "Onao", "Old_Turkic",
    "Orkh", "Oriya", "Orya", "Osage", "Osge", "Osmanya", "Osma", "Old_Uyghur", "Ougr",
    "Palmyrene", "Palm", "Pau_Cin_Hau", "Pauc", "Old_Permic", "Perm", "Phags_Pa", "Phag",
    "Inscriptional_Pahlavi", "Phli", "Psalter_Pahlavi", "Phlp", "Phoenician", "Phnx", "Miao",
    "Plrd", "Inscriptional_Parthian", "Prti", "Rejang", "Rjng", "Hanifi_Rohingya", "Rohg",
    "Runic", "Runr", "Samaritan", "Samr", "Old_South_Arabian", "Sarb", "Saurashtra", "Saur",
    "SignWriting", "Sgnw", "Shavian", "Shaw", "Sharada", "Shrd", "Siddham", "Sidd", "Khudawadi",
    "Sind", "Sinhala", "Sinh", "Sogdian", "Sogd", "Old_Sogdian", "Sogo", "Sora_Sompeng", "Sora",
    "Soyombo", "Soyo", "Sundanese", "Sund", "Sunuwar", "Sunu", "Syloti_Nagri", "Sylo", "Syriac",
    "Syrc", "Tagbanwa", "Tagb", "Takri", "Takr", "Tai_Le", "Tale", "New_Tai_Lue", "Talu", "Tamil",
    "Taml", "Tangut", "Tang", "Tai_Viet", "Tavt", "Telugu", "Telu", "Tifinagh", "Tfng", "Tagalog",
    "Tglg", "Thaana", "Thaa", "Thai", "Tibetan", "Tibt", "Tirhuta", "Tirh", "Tangsa", "Tnsa",
    "Todhri", "Todr", "Toto", "Tulu_Tigalari", "Tutg", "Ugaritic", "Ugar", "Vai", "Vaii",
    "Vithkuqi", "Vith", "Warang_Citi", "Wara", "Wancho", "Wcho", "Old_Persian", "Xpeo",
    "Cuneiform", "Xsux", "Yezidi", "Yezi", "Yi", "Yiii", "Zanabazar_Square", "Zanb", "Qaai",
    "Inherited", "Zinh", "Common", "Zyyy"]

/-- The names of the ages: the versions in which characters were added. -/
def ageNames : List String :=
  ["1.1", "V1_1", "2.0", "V2_0", "2.1", "V2_1", "3.0", "V3_0", "3.1", "V3_1", "3.2", "V3_2",
    "4.0", "V4_0", "4.1", "V4_1", "5.0", "V5_0", "5.1", "V5_1", "5.2", "V5_2", "6.0", "V6_0",
    "6.1", "V6_1", "6.2", "V6_2", "6.3", "V6_3", "7.0", "V7_0", "8.0", "V8_0", "9.0", "V9_0",
    "10.0", "V10_0", "11.0", "V11_0", "12.0", "V12_0", "12.1", "V12_1", "13.0", "V13_0", "14.0",
    "V14_0", "15.0", "V15_0", "15.1", "V15_1", "16.0", "V16_0"]

/-- The names of the classes of characters by which texts are cut into user-perceived characters. -/
def clusterNames : List String :=
  ["Control", "CN", "CR", "Extend", "EX", "L", "LF", "LV", "LVT", "Prepend", "PP",
    "Regional_Indicator", "RI", "SpacingMark", "SM", "T", "V", "ZWJ"]

/-- The names of the classes of characters by which texts are cut into words. -/
def wordBreakNames : List String :=
  ["ALetter", "LE", "CR", "Double_Quote", "DQ", "Extend", "ExtendNumLet", "EX", "Format", "FO",
    "Hebrew_Letter", "HL", "Katakana", "KA", "LF", "MidLetter", "ML", "MidNum", "MN", "MidNumLet",
    "MB", "Newline", "NL", "Numeric", "NU", "Regional_Indicator", "RI", "Single_Quote", "SQ",
    "WSegSpace", "ZWJ"]

/-- The names of the classes of characters by which texts are cut into sentences. -/
def sentenceBreakNames : List String :=
  ["ATerm", "AT", "Close", "CL", "CR", "Extend", "EX", "Format", "FO", "LF", "Lower", "LO",
    "Numeric", "NU", "OLetter", "LE", "SContinue", "SC", "Sep", "SE", "Sp", "STerm", "ST",
    "Upper", "UP"]

end TreeQuery.Pattern.Property
