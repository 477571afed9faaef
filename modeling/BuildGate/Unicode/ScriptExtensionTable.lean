/-!
# Script extensions: the table

The code points that are used with more scripts than their own, or with others than their own.
-/
namespace BuildGate.Unicode

/-- Short names of scripts, and the code points that are used with exactly these. -/
def scriptExtensionTable : List (String × String) := [
  ("Avst Cari Copt Dupl Elba Geor Glag Gong Goth Grek Hani Latn Lydi Mahj Perm Shaw",
    "B7"),
  ("Beng Cyrl Deva Latn Lisu Thai Toto",
    "2BC"),
  ("Bopo Latn",
    "2C7 2C9-2CB 2D9"),
  ("Latn Lisu",
    "2CD"),
  ("Latn Thai",
    "2D7"),
  ("Cher Copt Cyrl Grek Latn Perm Sunu Tale",
    "300"),
  ("Cher Cyrl Grek Latn Osge Sunu Tale Todr",
    "301"),
  ("Cher Cyrl Latn Tfng",
    "302"),
  ("Glag Latn Sunu Syrc Thai",
    "303"),
  ("Aghb Cher Copt Cyrl Goth Grek Latn Osge Syrc Tfng Todr",
    "304"),
  ("Copt Elba Glag Goth Kana Latn",
    "305"),
  ("Cyrl Grek Latn Perm Tfng",
    "306"),
  ("Copt Dupl Hebr Latn Perm Syrc Tale Tfng Todr",
    "307"),
  ("Armn Cyrl Dupl Goth Grek Hebr Latn Perm Syrc Tale Tfng",
    "308"),
  ("Latn Tfng",
    "309"),
  ("Dupl Latn Syrc",
    "30A"),
  ("Cher Cyrl Latn Osge",
    "30B"),
  ("Cher Latn Tale",
    "30C"),
  ("Latn Sunu",
    "30D 310"),
  ("Ethi Latn",
    "30E"),
  ("Cyrl Latn Todr",
    "311"),
  ("Grek Latn Perm Todr",
    "313"),
  ("Cher Dupl Kana Latn Syrc Tfng",
    "323"),
  ("Cher Dupl Latn Syrc",
    "324"),
  ("Latn Syrc",
    "325 32E"),
  ("Latn Sunu Syrc",
    "32D"),
  ("Cher Latn Syrc",
    "330"),
  ("Aghb Cher Goth Latn Sunu Syrc Thai",
    "331"),
  ("Grek",
    "342 345 1DC0-1DC1"),
  ("Latn Osge",
    "358"),
  ("Aghb Latn Todr",
    "35E"),
  ("Latn",
    "363-36F"),
  ("Copt Grek",
    "374-375"),
  ("Cyrl Perm",
    "483"),
  ("Cyrl Glag",
    "484 487 2E43 A66F"),
  ("Cyrl Latn",
    "485-486"),
  ("Armn Geor Glag",
    "589"),
  ("Arab Gara Nkoo Rohg Syrc Thaa Yezi",
    "60C 61B"),
  ("Arab Syrc Thaa",
    "61C"),
  ("Adlm Arab Gara Nkoo Rohg Syrc Thaa Yezi",
    "61F"),
  ("Adlm Arab Mand Mani Ougr Phlp Rohg Sogd Syrc",
    "640"),
  ("Arab Syrc",
    "64B-655 670"),
  ("Arab Thaa Yezi",
    "660-669"),
  ("Arab Rohg",
    "6D4"),
  ("Beng Deva Gran Gujr Guru Knda Latn Mlym Nand Newa Orya Shrd Taml Telu Tirh",
    "951"),
  ("Beng Deva Gran Gujr Guru Knda Latn Mlym Newa Orya Taml Telu Tirh",
    "952"),
  ("Beng Deva Dogr Gong Gonm Gran Gujr Guru Knda Mahj Mlym Nand Onao Orya Sind Sinh Sylo Takr " ++
   "Taml Telu Tirh",
    "964"),
  ("Beng Deva Dogr Gong Gonm Gran Gujr Gukh Guru Knda Limb Mahj Mlym Nand Onao Orya Sind Sinh " ++
   "Sylo Takr Taml Telu Tirh",
    "965"),
  ("Deva Dogr Kthi Mahj",
    "966-96F"),
  ("Beng Cakm Sylo",
    "9E6-9EF"),
  ("Guru Mult",
    "A66-A6F"),
  ("Gujr Khoj",
    "AE6-AEF"),
  ("Gran Taml",
    "BE6-BF3 11301 11303 1133B-1133C 11FD0-11FD1 11FD3"),
  ("Knda Nand Tutg",
    "CE6-CEF"),
  ("Cakm Mymr Tale",
    "1040-1049"),
  ("Geor Glag Latn",
    "10FB"),
  ("Runr",
    "16EB-16ED"),
  ("Buhd Hano Tagb Tglg",
    "1735-1736"),
  ("Mong Phag",
    "1802-1803 1805"),
  ("Beng Deva Gran Knda",
    "1CD0 1CD2"),
  ("Deva",
    "1CD1 1CD4 1CDB 1CDE-1CDF 1CE3-1CE8 1CEC 1CEE-1CF1"),
  ("Deva Gran Knda",
    "1CD3"),
  ("Beng Deva Newa Telu Tirh",
    "1CD5"),
  ("Beng Deva Telu",
    "1CD6"),
  ("Deva Newa Shrd",
    "1CD7"),
  ("Beng Deva Newa Telu",
    "1CD8"),
  ("Deva Shrd",
    "1CD9 1CDC-1CDD 1CE0"),
  ("Deva Knda Mlym Orya Taml Telu",
    "1CDA"),
  ("Beng Deva",
    "1CE1 1CF5-1CF6"),
  ("Deva Newa Tirh",
    "1CE2"),
  ("Deva Nand Newa",
    "1CE9"),
  ("Beng Deva Shrd",
    "1CEA"),
  ("Deva Newa",
    "1CEB"),
  ("Beng Deva Newa Shrd",
    "1CED"),
  ("Beng Deva Gran Knda Mlym Nand Orya Sinh Telu Tirh Tutg",
    "1CF2"),
  ("Deva Gran",
    "1CF3 1CF8-1CF9"),
  ("Deva Gran Knda Tutg",
    "1CF4"),
  ("Beng",
    "1CF7"),
  ("Nand",
    "1CFA"),
  ("Cyrl Latn Syrc",
    "1DF8"),
  ("Syrc",
    "1DFA"),
  ("Latn Mong Phag",
    "202F"),
  ("Adlm Arab",
    "204F"),
  ("Cari Geor Glag Hung Lyci Orkh",
    "205A"),
  ("Cari Grek Hung Mero",
    "205D"),
  ("Deva Gran Latn",
    "20F0"),
  ("Copt Latn",
    "2E17"),
  ("Avst Orkh",
    "2E30"),
  ("Avst Cari Geor Hung Kthi Lydi Samr",
    "2E31"),
  ("Dupl",
    "2E3C 1BCA0-1BCA3"),
  ("Adlm Arab Hung",
    "2E41"),
  ("Hani Tang",
    "2FF0-2FFF 31EF"),
  ("Bopo Hang Hani Hira Kana Mong Yiii",
    "3001"),
  ("Bopo Hang Hani Hira Kana Mong Phag Yiii",
    "3002"),
  ("Bopo Hang Hani Hira Kana",
    "3003 3013 301C-301F 3030 3037 FE45-FE46"),
  ("Hani",
    "3006 303E-303F 3190-319F 31C0-31E5 3220-3247 3280-32B0 32C0-32CB 32FF 3358-3370 337B-337F " ++
    "33E0-33FE 1D360-1D371 1F250-1F251"),
  ("Bopo Hang Hani Hira Kana Mong Tibt Yiii",
    "3008-3009"),
  ("Bopo Hang Hani Hira Kana Lisu Mong Tibt Yiii",
    "300A-300B"),
  ("Bopo Hang Hani Hira Kana Yiii",
    "300C-3011 3014-301B 30FB FF61-FF65"),
  ("Bopo Hani",
    "302A-302D"),
  ("Hira Kana",
    "3031-3035 3099-309C 30A0 30FC FF70 FF9E-FF9F"),
  ("Hani Hira Kana",
    "303C-303D"),
  ("Hani Latn",
    "A700-A707"),
  ("Deva Dogr Gujr Guru Khoj Knda Kthi Mahj Mlym Modi Nand Shrd Sind Takr Tirh Tutg",
    "A830-A832"),
  ("Deva Dogr Gujr Guru Khoj Knda Kthi Mahj Modi Nand Shrd Sind Takr Tirh Tutg",
    "A833-A835"),
  ("Deva Dogr Gujr Guru Khoj Kthi Mahj Modi Sind Takr Tirh",
    "A836-A837 A839"),
  ("Deva Dogr Gujr Guru Khoj Kthi Mahj Modi Shrd Sind Takr Tirh",
    "A838"),
  ("Beng Deva Tutg",
    "A8F1"),
  ("Deva Taml",
    "A8F3"),
  ("Kali Latn Mymr",
    "A92E"),
  ("Bugi Java",
    "A9CF"),
  ("Arab Nkoo",
    "FD3E-FD3F"),
  ("Arab Thaa",
    "FDF2 FDFD"),
  ("Cpmn Cprt Linb",
    "10100-10101"),
  ("Cprt Linb",
    "10102 10137-1013F"),
  ("Cprt Lina Linb",
    "10107-10133"),
  ("Arab Copt",
    "102E0-102FB"),
  ("Mani Ougr",
    "10AF2")
]

end BuildGate.Unicode
