import DataBinding.Pattern.Property.Script

namespace DataBinding.Pattern.Script

open Text

def shared : List (List String × List Span) :=
  [(["Avst", "Cari", "Copt", "Dupl", "Elba", "Geor", "Glag", "Gong", "Goth", "Grek", "Hani",
     "Latn", "Lydi", "Mahj", "Perm", "Shaw"],
    [⟨0xB7, 0xB7, 1⟩]),
   (["Beng", "Cyrl", "Deva", "Latn", "Lisu", "Thai", "Toto"],
    [⟨0x2BC, 0x2BC, 1⟩]),
   (["Bopo", "Latn"],
    [⟨0x2C7, 0x2C7, 1⟩, ⟨0x2C9, 0x2CB, 1⟩, ⟨0x2D9, 0x2D9, 1⟩]),
   (["Latn", "Lisu"],
    [⟨0x2CD, 0x2CD, 1⟩]),
   (["Latn", "Thai"],
    [⟨0x2D7, 0x2D7, 1⟩]),
   (["Cher", "Copt", "Cyrl", "Grek", "Latn", "Perm", "Sunu", "Tale"],
    [⟨0x300, 0x300, 1⟩]),
   (["Cher", "Cyrl", "Grek", "Latn", "Osge", "Sunu", "Tale", "Todr"],
    [⟨0x301, 0x301, 1⟩]),
   (["Cher", "Cyrl", "Latn", "Tfng"],
    [⟨0x302, 0x302, 1⟩]),
   (["Glag", "Latn", "Sunu", "Syrc", "Thai"],
    [⟨0x303, 0x303, 1⟩]),
   (["Aghb", "Cher", "Copt", "Cyrl", "Goth", "Grek", "Latn", "Osge", "Syrc", "Tfng", "Todr"],
    [⟨0x304, 0x304, 1⟩]),
   (["Copt", "Elba", "Glag", "Goth", "Kana", "Latn"],
    [⟨0x305, 0x305, 1⟩]),
   (["Cyrl", "Grek", "Latn", "Perm", "Tfng"],
    [⟨0x306, 0x306, 1⟩]),
   (["Copt", "Dupl", "Hebr", "Latn", "Perm", "Syrc", "Tale", "Tfng", "Todr"],
    [⟨0x307, 0x307, 1⟩]),
   (["Armn", "Cyrl", "Dupl", "Goth", "Grek", "Hebr", "Latn", "Perm", "Syrc", "Tale", "Tfng"],
    [⟨0x308, 0x308, 1⟩]),
   (["Latn", "Tfng"],
    [⟨0x309, 0x309, 1⟩]),
   (["Dupl", "Latn", "Syrc"],
    [⟨0x30A, 0x30A, 1⟩]),
   (["Cher", "Cyrl", "Latn", "Osge"],
    [⟨0x30B, 0x30B, 1⟩]),
   (["Cher", "Latn", "Tale"],
    [⟨0x30C, 0x30C, 1⟩]),
   (["Latn", "Sunu"],
    [⟨0x30D, 0x30D, 1⟩, ⟨0x310, 0x310, 1⟩]),
   (["Ethi", "Latn"],
    [⟨0x30E, 0x30E, 1⟩]),
   (["Cyrl", "Latn", "Todr"],
    [⟨0x311, 0x311, 1⟩]),
   (["Grek", "Latn", "Perm", "Todr"],
    [⟨0x313, 0x313, 1⟩]),
   (["Cher", "Dupl", "Kana", "Latn", "Syrc", "Tfng"],
    [⟨0x323, 0x323, 1⟩]),
   (["Cher", "Dupl", "Latn", "Syrc"],
    [⟨0x324, 0x324, 1⟩]),
   (["Latn", "Syrc"],
    [⟨0x325, 0x325, 1⟩, ⟨0x32E, 0x32E, 1⟩]),
   (["Latn", "Sunu", "Syrc"],
    [⟨0x32D, 0x32D, 1⟩]),
   (["Cher", "Latn", "Syrc"],
    [⟨0x330, 0x330, 1⟩]),
   (["Aghb", "Cher", "Goth", "Latn", "Sunu", "Syrc", "Thai"],
    [⟨0x331, 0x331, 1⟩]),
   (["Grek"],
    [⟨0x342, 0x342, 1⟩, ⟨0x345, 0x345, 1⟩, ⟨0x1DC0, 0x1DC1, 1⟩]),
   (["Latn", "Osge"],
    [⟨0x358, 0x358, 1⟩]),
   (["Aghb", "Latn", "Todr"],
    [⟨0x35E, 0x35E, 1⟩]),
   (["Latn"],
    [⟨0x363, 0x36F, 1⟩]),
   (["Copt", "Grek"],
    [⟨0x374, 0x375, 1⟩]),
   (["Cyrl", "Perm"],
    [⟨0x483, 0x483, 1⟩]),
   (["Cyrl", "Glag"],
    [⟨0x484, 0x484, 1⟩, ⟨0x487, 0x487, 1⟩, ⟨0x2E43, 0x2E43, 1⟩, ⟨0xA66F, 0xA66F, 1⟩]),
   (["Cyrl", "Latn"],
    [⟨0x485, 0x486, 1⟩]),
   (["Armn", "Geor", "Glag"],
    [⟨0x589, 0x589, 1⟩]),
   (["Arab", "Gara", "Nkoo", "Rohg", "Syrc", "Thaa", "Yezi"],
    [⟨0x60C, 0x60C, 1⟩, ⟨0x61B, 0x61B, 1⟩]),
   (["Arab", "Syrc", "Thaa"],
    [⟨0x61C, 0x61C, 1⟩]),
   (["Adlm", "Arab", "Gara", "Nkoo", "Rohg", "Syrc", "Thaa", "Yezi"],
    [⟨0x61F, 0x61F, 1⟩]),
   (["Adlm", "Arab", "Mand", "Mani", "Ougr", "Phlp", "Rohg", "Sogd", "Syrc"],
    [⟨0x640, 0x640, 1⟩]),
   (["Arab", "Syrc"],
    [⟨0x64B, 0x655, 1⟩, ⟨0x670, 0x670, 1⟩]),
   (["Arab", "Thaa", "Yezi"],
    [⟨0x660, 0x669, 1⟩]),
   (["Arab", "Rohg"],
    [⟨0x6D4, 0x6D4, 1⟩]),
   (["Beng", "Deva", "Gran", "Gujr", "Guru", "Knda", "Latn", "Mlym", "Nand", "Newa", "Orya",
     "Shrd", "Taml", "Telu", "Tirh"],
    [⟨0x951, 0x951, 1⟩]),
   (["Beng", "Deva", "Gran", "Gujr", "Guru", "Knda", "Latn", "Mlym", "Newa", "Orya", "Taml",
     "Telu", "Tirh"],
    [⟨0x952, 0x952, 1⟩]),
   (["Beng", "Deva", "Dogr", "Gong", "Gonm", "Gran", "Gujr", "Guru", "Knda", "Mahj", "Mlym",
     "Nand", "Onao", "Orya", "Sind", "Sinh", "Sylo", "Takr", "Taml", "Telu", "Tirh"],
    [⟨0x964, 0x964, 1⟩]),
   (["Beng", "Deva", "Dogr", "Gong", "Gonm", "Gran", "Gujr", "Gukh", "Guru", "Knda", "Limb",
     "Mahj", "Mlym", "Nand", "Onao", "Orya", "Sind", "Sinh", "Sylo", "Takr", "Taml", "Telu",
     "Tirh"],
    [⟨0x965, 0x965, 1⟩]),
   (["Deva", "Dogr", "Kthi", "Mahj"],
    [⟨0x966, 0x96F, 1⟩]),
   (["Beng", "Cakm", "Sylo"],
    [⟨0x9E6, 0x9EF, 1⟩]),
   (["Guru", "Mult"],
    [⟨0xA66, 0xA6F, 1⟩]),
   (["Gujr", "Khoj"],
    [⟨0xAE6, 0xAEF, 1⟩]),
   (["Gran", "Taml"],
    [⟨0xBE6, 0xBF3, 1⟩, ⟨0x11301, 0x11301, 1⟩, ⟨0x11303, 0x11303, 1⟩, ⟨0x1133B, 0x1133C, 1⟩,
     ⟨0x11FD0, 0x11FD1, 1⟩, ⟨0x11FD3, 0x11FD3, 1⟩]),
   (["Knda", "Nand", "Tutg"],
    [⟨0xCE6, 0xCEF, 1⟩]),
   (["Cakm", "Mymr", "Tale"],
    [⟨0x1040, 0x1049, 1⟩]),
   (["Geor", "Glag", "Latn"],
    [⟨0x10FB, 0x10FB, 1⟩]),
   (["Runr"],
    [⟨0x16EB, 0x16ED, 1⟩]),
   (["Buhd", "Hano", "Tagb", "Tglg"],
    [⟨0x1735, 0x1736, 1⟩]),
   (["Mong", "Phag"],
    [⟨0x1802, 0x1803, 1⟩, ⟨0x1805, 0x1805, 1⟩]),
   (["Beng", "Deva", "Gran", "Knda"],
    [⟨0x1CD0, 0x1CD0, 1⟩, ⟨0x1CD2, 0x1CD2, 1⟩]),
   (["Deva"],
    [⟨0x1CD1, 0x1CD1, 1⟩, ⟨0x1CD4, 0x1CD4, 1⟩, ⟨0x1CDB, 0x1CDB, 1⟩, ⟨0x1CDE, 0x1CDF, 1⟩,
     ⟨0x1CE3, 0x1CE8, 1⟩, ⟨0x1CEC, 0x1CEC, 1⟩, ⟨0x1CEE, 0x1CF1, 1⟩]),
   (["Deva", "Gran", "Knda"],
    [⟨0x1CD3, 0x1CD3, 1⟩]),
   (["Beng", "Deva", "Newa", "Telu", "Tirh"],
    [⟨0x1CD5, 0x1CD5, 1⟩]),
   (["Beng", "Deva", "Telu"],
    [⟨0x1CD6, 0x1CD6, 1⟩]),
   (["Deva", "Newa", "Shrd"],
    [⟨0x1CD7, 0x1CD7, 1⟩]),
   (["Beng", "Deva", "Newa", "Telu"],
    [⟨0x1CD8, 0x1CD8, 1⟩]),
   (["Deva", "Shrd"],
    [⟨0x1CD9, 0x1CD9, 1⟩, ⟨0x1CDC, 0x1CDD, 1⟩, ⟨0x1CE0, 0x1CE0, 1⟩]),
   (["Deva", "Knda", "Mlym", "Orya", "Taml", "Telu"],
    [⟨0x1CDA, 0x1CDA, 1⟩]),
   (["Beng", "Deva"],
    [⟨0x1CE1, 0x1CE1, 1⟩, ⟨0x1CF5, 0x1CF6, 1⟩]),
   (["Deva", "Newa", "Tirh"],
    [⟨0x1CE2, 0x1CE2, 1⟩]),
   (["Deva", "Nand", "Newa"],
    [⟨0x1CE9, 0x1CE9, 1⟩]),
   (["Beng", "Deva", "Shrd"],
    [⟨0x1CEA, 0x1CEA, 1⟩]),
   (["Deva", "Newa"],
    [⟨0x1CEB, 0x1CEB, 1⟩]),
   (["Beng", "Deva", "Newa", "Shrd"],
    [⟨0x1CED, 0x1CED, 1⟩]),
   (["Beng", "Deva", "Gran", "Knda", "Mlym", "Nand", "Orya", "Sinh", "Telu", "Tirh", "Tutg"],
    [⟨0x1CF2, 0x1CF2, 1⟩]),
   (["Deva", "Gran"],
    [⟨0x1CF3, 0x1CF3, 1⟩, ⟨0x1CF8, 0x1CF9, 1⟩]),
   (["Deva", "Gran", "Knda", "Tutg"],
    [⟨0x1CF4, 0x1CF4, 1⟩]),
   (["Beng"],
    [⟨0x1CF7, 0x1CF7, 1⟩]),
   (["Nand"],
    [⟨0x1CFA, 0x1CFA, 1⟩]),
   (["Cyrl", "Latn", "Syrc"],
    [⟨0x1DF8, 0x1DF8, 1⟩]),
   (["Syrc"],
    [⟨0x1DFA, 0x1DFA, 1⟩]),
   (["Latn", "Mong", "Phag"],
    [⟨0x202F, 0x202F, 1⟩]),
   (["Adlm", "Arab"],
    [⟨0x204F, 0x204F, 1⟩]),
   (["Cari", "Geor", "Glag", "Hung", "Lyci", "Orkh"],
    [⟨0x205A, 0x205A, 1⟩]),
   (["Cari", "Grek", "Hung", "Mero"],
    [⟨0x205D, 0x205D, 1⟩]),
   (["Deva", "Gran", "Latn"],
    [⟨0x20F0, 0x20F0, 1⟩]),
   (["Copt", "Latn"],
    [⟨0x2E17, 0x2E17, 1⟩]),
   (["Avst", "Orkh"],
    [⟨0x2E30, 0x2E30, 1⟩]),
   (["Avst", "Cari", "Geor", "Hung", "Kthi", "Lydi", "Samr"],
    [⟨0x2E31, 0x2E31, 1⟩]),
   (["Dupl"],
    [⟨0x2E3C, 0x2E3C, 1⟩, ⟨0x1BCA0, 0x1BCA3, 1⟩]),
   (["Adlm", "Arab", "Hung"],
    [⟨0x2E41, 0x2E41, 1⟩]),
   (["Hani", "Tang"],
    [⟨0x2FF0, 0x2FFF, 1⟩, ⟨0x31EF, 0x31EF, 1⟩]),
   (["Bopo", "Hang", "Hani", "Hira", "Kana", "Mong", "Yiii"],
    [⟨0x3001, 0x3001, 1⟩]),
   (["Bopo", "Hang", "Hani", "Hira", "Kana", "Mong", "Phag", "Yiii"],
    [⟨0x3002, 0x3002, 1⟩]),
   (["Bopo", "Hang", "Hani", "Hira", "Kana"],
    [⟨0x3003, 0x3003, 1⟩, ⟨0x3013, 0x3013, 1⟩, ⟨0x301C, 0x301F, 1⟩, ⟨0x3030, 0x3030, 1⟩,
     ⟨0x3037, 0x3037, 1⟩, ⟨0xFE45, 0xFE46, 1⟩]),
   (["Hani"],
    [⟨0x3006, 0x3006, 1⟩, ⟨0x303E, 0x303F, 1⟩, ⟨0x3190, 0x319F, 1⟩, ⟨0x31C0, 0x31E5, 1⟩,
     ⟨0x3220, 0x3247, 1⟩, ⟨0x3280, 0x32B0, 1⟩, ⟨0x32C0, 0x32CB, 1⟩, ⟨0x32FF, 0x32FF, 1⟩,
     ⟨0x3358, 0x3370, 1⟩, ⟨0x337B, 0x337F, 1⟩, ⟨0x33E0, 0x33FE, 1⟩, ⟨0x1D360, 0x1D371, 1⟩,
     ⟨0x1F250, 0x1F251, 1⟩]),
   (["Bopo", "Hang", "Hani", "Hira", "Kana", "Mong", "Tibt", "Yiii"],
    [⟨0x3008, 0x3009, 1⟩]),
   (["Bopo", "Hang", "Hani", "Hira", "Kana", "Lisu", "Mong", "Tibt", "Yiii"],
    [⟨0x300A, 0x300B, 1⟩]),
   (["Bopo", "Hang", "Hani", "Hira", "Kana", "Yiii"],
    [⟨0x300C, 0x3011, 1⟩, ⟨0x3014, 0x301B, 1⟩, ⟨0x30FB, 0x30FB, 1⟩, ⟨0xFF61, 0xFF65, 1⟩]),
   (["Bopo", "Hani"],
    [⟨0x302A, 0x302D, 1⟩]),
   (["Hira", "Kana"],
    [⟨0x3031, 0x3035, 1⟩, ⟨0x3099, 0x309C, 1⟩, ⟨0x30A0, 0x30A0, 1⟩, ⟨0x30FC, 0x30FC, 1⟩,
     ⟨0xFF70, 0xFF70, 1⟩, ⟨0xFF9E, 0xFF9F, 1⟩]),
   (["Hani", "Hira", "Kana"],
    [⟨0x303C, 0x303D, 1⟩]),
   (["Hani", "Latn"],
    [⟨0xA700, 0xA707, 1⟩]),
   (["Deva", "Dogr", "Gujr", "Guru", "Khoj", "Knda", "Kthi", "Mahj", "Mlym", "Modi", "Nand",
     "Shrd", "Sind", "Takr", "Tirh", "Tutg"],
    [⟨0xA830, 0xA832, 1⟩]),
   (["Deva", "Dogr", "Gujr", "Guru", "Khoj", "Knda", "Kthi", "Mahj", "Modi", "Nand", "Shrd",
     "Sind", "Takr", "Tirh", "Tutg"],
    [⟨0xA833, 0xA835, 1⟩]),
   (["Deva", "Dogr", "Gujr", "Guru", "Khoj", "Kthi", "Mahj", "Modi", "Sind", "Takr", "Tirh"],
    [⟨0xA836, 0xA837, 1⟩, ⟨0xA839, 0xA839, 1⟩]),
   (["Deva", "Dogr", "Gujr", "Guru", "Khoj", "Kthi", "Mahj", "Modi", "Shrd", "Sind", "Takr",
     "Tirh"],
    [⟨0xA838, 0xA838, 1⟩]),
   (["Beng", "Deva", "Tutg"],
    [⟨0xA8F1, 0xA8F1, 1⟩]),
   (["Deva", "Taml"],
    [⟨0xA8F3, 0xA8F3, 1⟩]),
   (["Kali", "Latn", "Mymr"],
    [⟨0xA92E, 0xA92E, 1⟩]),
   (["Bugi", "Java"],
    [⟨0xA9CF, 0xA9CF, 1⟩]),
   (["Arab", "Nkoo"],
    [⟨0xFD3E, 0xFD3F, 1⟩]),
   (["Arab", "Thaa"],
    [⟨0xFDF2, 0xFDF2, 1⟩, ⟨0xFDFD, 0xFDFD, 1⟩]),
   (["Cpmn", "Cprt", "Linb"],
    [⟨0x10100, 0x10101, 1⟩]),
   (["Cprt", "Linb"],
    [⟨0x10102, 0x10102, 1⟩, ⟨0x10137, 0x1013F, 1⟩]),
   (["Cprt", "Lina", "Linb"],
    [⟨0x10107, 0x10133, 1⟩]),
   (["Arab", "Copt"],
    [⟨0x102E0, 0x102FB, 1⟩]),
   (["Mani", "Ougr"],
    [⟨0x10AF2, 0x10AF2, 1⟩])]

/-- The characters that are used with a script: its own, unless they are listed with the scripts
they are used with, and those listed with it. -/
def extension (s : Script) : CharSet :=
  (s.chars.diff (.ofSpans (shared.flatMap Prod.snd))).union
    (.ofSpans ((shared.filter fun (codes, _) ↦ codes.any s.names.contains).flatMap Prod.snd))

end DataBinding.Pattern.Script
