/-!
# Names of categories, scripts and properties

Each entry is one name with its other spellings, the name that the tables use first. Spellings are
compared without regard to case, blanks, dashes and underscores.
-/
namespace BuildGate.Unicode

/-- General categories: the short name first. `Cs` has no set, since no character is a surrogate. -/
def categoryNames : List String := [
  "C Other", "Cc Control Cntrl", "Cf Format", "Cn Unassigned", "Co Private_Use", "Cs Surrogate",
  "L Letter", "LC Cased_Letter", "Ll Lowercase_Letter", "Lm Modifier_Letter", "Lo Other_Letter",
  "Lt Titlecase_Letter", "Lu Uppercase_Letter", "M Mark Combining_Mark", "Mc Spacing_Mark",
  "Me Enclosing_Mark", "Mn Nonspacing_Mark", "N Number", "Nd Decimal_Number Digit",
  "Nl Letter_Number", "No Other_Number", "P Punctuation Punct", "Pc Connector_Punctuation",
  "Pd Dash_Punctuation", "Pe Close_Punctuation", "Pf Final_Punctuation", "Pi Initial_Punctuation",
  "Po Other_Punctuation", "Ps Open_Punctuation", "S Symbol", "Sc Currency_Symbol",
  "Sk Modifier_Symbol", "Sm Math_Symbol", "So Other_Symbol", "Z Separator", "Zl Line_Separator",
  "Zp Paragraph_Separator", "Zs Space_Separator"
]

/-- Scripts: the long name first. `Katakana_Or_Hiragana` and `Unknown` have no set. -/
def scriptNames : List String := [
  "Adlam Adlm", "Ahom Ahom", "Anatolian_Hieroglyphs Hluw", "Arabic Arab", "Armenian Armn",
  "Avestan Avst", "Balinese Bali", "Bamum Bamu", "Bassa_Vah Bass", "Batak Batk", "Bengali Beng",
  "Beria_Erfe Berf", "Bhaiksuki Bhks", "Bopomofo Bopo", "Brahmi Brah", "Braille Brai",
  "Buginese Bugi", "Buhid Buhd", "Canadian_Aboriginal Cans", "Carian Cari",
  "Caucasian_Albanian Aghb", "Chakma Cakm", "Cham Cham", "Cherokee Cher", "Chorasmian Chrs",
  "Common Zyyy", "Coptic Copt Qaac", "Cuneiform Xsux", "Cypriot Cprt", "Cypro_Minoan Cpmn",
  "Cyrillic Cyrl", "Deseret Dsrt", "Devanagari Deva", "Dives_Akuru Diak", "Dogra Dogr",
  "Duployan Dupl", "Egyptian_Hieroglyphs Egyp", "Elbasan Elba", "Elymaic Elym", "Ethiopic Ethi",
  "Garay Gara", "Georgian Geor", "Glagolitic Glag", "Gothic Goth", "Grantha Gran", "Greek Grek",
  "Gujarati Gujr", "Gunjala_Gondi Gong", "Gurmukhi Guru", "Gurung_Khema Gukh", "Han Hani",
  "Hangul Hang", "Hanifi_Rohingya Rohg", "Hanunoo Hano", "Hatran Hatr", "Hebrew Hebr",
  "Hiragana Hira", "Imperial_Aramaic Armi", "Inherited Zinh Qaai", "Inscriptional_Pahlavi Phli",
  "Inscriptional_Parthian Prti", "Javanese Java", "Kaithi Kthi", "Kannada Knda", "Katakana Kana",
  "Katakana_Or_Hiragana Hrkt", "Kawi Kawi", "Kayah_Li Kali", "Kharoshthi Khar",
  "Khitan_Small_Script Kits", "Khmer Khmr", "Khojki Khoj", "Khudawadi Sind", "Kirat_Rai Krai",
  "Lao Laoo", "Latin Latn", "Lepcha Lepc", "Limbu Limb", "Linear_A Lina", "Linear_B Linb",
  "Lisu Lisu", "Lycian Lyci", "Lydian Lydi", "Mahajani Mahj", "Makasar Maka", "Malayalam Mlym",
  "Mandaic Mand", "Manichaean Mani", "Marchen Marc", "Masaram_Gondi Gonm", "Medefaidrin Medf",
  "Meetei_Mayek Mtei", "Mende_Kikakui Mend", "Meroitic_Cursive Merc", "Meroitic_Hieroglyphs Mero",
  "Miao Plrd", "Modi Modi", "Mongolian Mong", "Mro Mroo", "Multani Mult", "Myanmar Mymr",
  "Nabataean Nbat", "Nag_Mundari Nagm", "Nandinagari Nand", "New_Tai_Lue Talu", "Newa Newa",
  "Nko Nkoo", "Nushu Nshu", "Nyiakeng_Puachue_Hmong Hmnp", "Ogham Ogam", "Ol_Chiki Olck",
  "Ol_Onal Onao", "Old_Hungarian Hung", "Old_Italic Ital", "Old_North_Arabian Narb",
  "Old_Permic Perm", "Old_Persian Xpeo", "Old_Sogdian Sogo", "Old_South_Arabian Sarb",
  "Old_Turkic Orkh", "Old_Uyghur Ougr", "Oriya Orya", "Osage Osge", "Osmanya Osma",
  "Pahawh_Hmong Hmng", "Palmyrene Palm", "Pau_Cin_Hau Pauc", "Phags_Pa Phag", "Phoenician Phnx",
  "Psalter_Pahlavi Phlp", "Rejang Rjng", "Runic Runr", "Samaritan Samr", "Saurashtra Saur",
  "Sharada Shrd", "Shavian Shaw", "Siddham Sidd", "Sidetic Sidt", "SignWriting Sgnw",
  "Sinhala Sinh", "Sogdian Sogd", "Sora_Sompeng Sora", "Soyombo Soyo", "Sundanese Sund",
  "Sunuwar Sunu", "Syloti_Nagri Sylo", "Syriac Syrc", "Tagalog Tglg", "Tagbanwa Tagb",
  "Tai_Le Tale", "Tai_Tham Lana", "Tai_Viet Tavt", "Tai_Yo Tayo", "Takri Takr", "Tamil Taml",
  "Tangsa Tnsa", "Tangut Tang", "Telugu Telu", "Thaana Thaa", "Thai Thai", "Tibetan Tibt",
  "Tifinagh Tfng", "Tirhuta Tirh", "Todhri Todr", "Tolong_Siki Tols", "Toto Toto",
  "Tulu_Tigalari Tutg", "Ugaritic Ugar", "Unknown Zzzz", "Vai Vaii", "Vithkuqi Vith", "Wancho Wcho",
  "Warang_Citi Wara", "Yezidi Yezi", "Yi Yiii", "Zanabazar_Square Zanb"
]

/-- Binary properties: the long name first. -/
def propertyNames : List String := [
  "ASCII_Hex_Digit AHex", "Alphabetic Alpha", "Bidi_Control Bidi_C", "Bidi_Mirrored Bidi_M",
  "Case_Ignorable CI", "Cased", "Changes_When_Casefolded CWCF", "Changes_When_Casemapped CWCM",
  "Changes_When_Lowercased CWL", "Changes_When_Titlecased CWT", "Changes_When_Uppercased CWU",
  "Dash", "Default_Ignorable_Code_Point DI", "Deprecated Dep", "Diacritic Dia", "Emoji",
  "Emoji_Component EComp", "Emoji_Modifier EMod", "Emoji_Modifier_Base EBase",
  "Emoji_Presentation EPres", "Extended_Pictographic ExtPict", "Extender Ext",
  "Grapheme_Base Gr_Base", "Grapheme_Extend Gr_Ext", "Grapheme_Link Gr_Link", "Hex_Digit Hex",
  "Hyphen", "IDS_Binary_Operator IDSB", "IDS_Trinary_Operator IDST", "IDS_Unary_Operator IDSU",
  "ID_Compat_Math_Continue", "ID_Compat_Math_Start", "ID_Continue IDC", "ID_Start IDS",
  "Ideographic Ideo", "Join_Control Join_C", "Logical_Order_Exception LOE", "Lowercase Lower",
  "Math", "Modifier_Combining_Mark MCM", "Noncharacter_Code_Point NChar", "Other_Alphabetic OAlpha",
  "Other_Default_Ignorable_Code_Point ODI", "Other_Grapheme_Extend OGr_Ext",
  "Other_ID_Continue OIDC", "Other_ID_Start OIDS", "Other_Lowercase OLower", "Other_Math OMath",
  "Other_Uppercase OUpper", "Pattern_Syntax Pat_Syn", "Pattern_White_Space Pat_WS",
  "Prepended_Concatenation_Mark PCM", "Quotation_Mark QMark", "Radical", "Regional_Indicator RI",
  "Sentence_Terminal STerm", "Soft_Dotted SD", "Terminal_Punctuation Term",
  "Unified_Ideograph UIdeo", "Uppercase Upper", "Variation_Selector VS", "White_Space WSpace space",
  "XID_Continue XIDC", "XID_Start XIDS"
]

/-- Properties whose values have to be named, and those without a set: the long name first. -/
def otherPropertyNames : List String := [
  "Age", "Bidi_Class bc", "Bidi_Mirroring_Glyph bmg", "Bidi_Paired_Bracket bpb",
  "Bidi_Paired_Bracket_Type bpt", "Block blk", "Canonical_Combining_Class ccc", "Case_Folding cf",
  "Changes_When_NFKC_Casefolded cwkcf", "Composition_Exclusion ce", "Decomposition_Mapping dm",
  "Decomposition_Type dt", "East_Asian_Width ea", "Equivalent_Unified_Ideograph equideo",
  "Expands_On_NFC xonfc", "Expands_On_NFD xonfd", "Expands_On_NFKC xonfkc",
  "Expands_On_NFKD xonfkd", "FC_NFKC_Closure fcnfkc", "Full_Composition_Exclusion compex",
  "General_Category gc", "Grapheme_Cluster_Break gcb", "Hangul_Syllable_Type hst",
  "Indic_Conjunct_Break incb", "Indic_Positional_Category inpc", "Indic_Syllabic_Category insc",
  "ISO_Comment isc", "Jamo_Short_Name jsn", "Joining_Group jg", "Joining_Type jt",
  "kAccountingNumeric cjkaccountingnumeric", "kCompatibilityVariant cjkcompatibilityvariant",
  "kEH_Cat", "kEH_Desc", "kEH_HG", "kEH_IFAO", "kEH_JSesh", "kEH_NoMirror", "kEH_NoRotate",
  "kIICore cjkiicore", "kIRG_GSource cjkirggsource", "kIRG_HSource cjkirghsource",
  "kIRG_JSource cjkirgjsource", "kIRG_KPSource cjkirgkpsource", "kIRG_KSource cjkirgksource",
  "kIRG_MSource cjkirgmsource", "kIRG_SSource cjkirgssource", "kIRG_TSource cjkirgtsource",
  "kIRG_UKSource cjkirguksource", "kIRG_USource cjkirgusource", "kIRG_VSource cjkirgvsource",
  "kOtherNumeric cjkothernumeric", "kPrimaryNumeric cjkprimarynumeric",
  "kRSUnicode cjkrsunicode unicoderadicalstroke urs", "Line_Break lb", "Lowercase_Mapping lc",
  "Name na", "Name_Alias", "NFC_Quick_Check nfcqc", "NFD_Quick_Check nfdqc", "NFKC_Casefold nfkccf",
  "NFKC_Quick_Check nfkcqc", "NFKC_Simple_Casefold nfkcscf", "NFKD_Quick_Check nfkdqc",
  "Numeric_Type nt", "Numeric_Value nv", "Script sc", "Script_Extensions scx", "Sentence_Break sb",
  "Simple_Case_Folding scf sfc", "Simple_Lowercase_Mapping slc", "Simple_Titlecase_Mapping stc",
  "Simple_Uppercase_Mapping suc", "Titlecase_Mapping tc", "Unicode_1_Name na1",
  "Uppercase_Mapping uc", "Vertical_Orientation vo", "Word_Break wb"
]

/-- Values of `Grapheme_Cluster_Break`: the long name first. -/
def graphemeBreakNames : List String := [
  "CR", "LF", "Control CN", "Extend EX", "ZWJ", "Regional_Indicator RI", "Prepend PP",
  "SpacingMark SM", "L", "V", "T", "LV", "LVT"
]

/-- Values of `Word_Break`: the long name first. -/
def wordBreakNames : List String := [
  "CR", "LF", "Newline NL", "Extend", "ZWJ", "Format FO", "Regional_Indicator RI", "Katakana KA",
  "Hebrew_Letter HL", "ALetter LE", "Single_Quote SQ", "Double_Quote DQ", "MidNumLet MB",
  "MidLetter ML", "MidNum MN", "Numeric NU", "ExtendNumLet EX", "WSegSpace"
]

/-- Values of `Sentence_Break`: the long name first. -/
def sentenceBreakNames : List String := [
  "CR", "LF", "Sep SE", "Extend EX", "Format FO", "Sp", "Lower LO", "Upper UP", "OLetter LE",
  "Numeric NU", "ATerm AT", "STerm ST", "SContinue SC", "Close CL"
]

end BuildGate.Unicode
