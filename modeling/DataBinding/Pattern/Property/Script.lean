import DataBinding.Pattern.Repertoire

namespace DataBinding.Pattern

open Text

/-- A script by its long and short names. Of the characters that belong to a script, its spans hold
its own and no others. -/
structure Script where
  names : List String
  spans : List Span
deriving DecidableEq, Repr

namespace Script

def all : List Script :=
  [⟨["Adlam", "Adlm"], [⟨0x1E900, 0x1E95F, 1⟩]⟩,
   ⟨["Ahom"], [⟨0x11700, 0x11746, 1⟩]⟩,
   ⟨["Anatolian_Hieroglyphs", "Hluw"], [⟨0x14400, 0x14646, 1⟩]⟩,
   ⟨["Arabic", "Arab"],
    [⟨0x600, 0x604, 1⟩, ⟨0x606, 0x60B, 1⟩, ⟨0x60D, 0x61A, 1⟩, ⟨0x61C, 0x61E, 1⟩,
     ⟨0x620, 0x63F, 1⟩, ⟨0x641, 0x64A, 1⟩, ⟨0x656, 0x66F, 1⟩, ⟨0x671, 0x6DC, 1⟩,
     ⟨0x6DE, 0x6FF, 1⟩, ⟨0x750, 0x77F, 1⟩, ⟨0x870, 0x8E1, 1⟩, ⟨0x8E3, 0x8FF, 1⟩,
     ⟨0xFB50, 0xFD3D, 1⟩, ⟨0xFD40, 0xFDFF, 1⟩, ⟨0xFE70, 0xFEFC, 1⟩, ⟨0x10E60, 0x10E7E, 1⟩,
     ⟨0x10EC2, 0x10EFF, 1⟩, ⟨0x1EE00, 0x1EEF1, 1⟩]⟩,
   ⟨["Armenian", "Armn"], [⟨0x531, 0x58F, 1⟩, ⟨0xFB13, 0xFB17, 1⟩]⟩,
   ⟨["Avestan", "Avst"], [⟨0x10B00, 0x10B3F, 1⟩]⟩,
   ⟨["Balinese", "Bali"], [⟨0x1B00, 0x1B7F, 1⟩]⟩,
   ⟨["Bamum", "Bamu"], [⟨0xA6A0, 0xA6F7, 1⟩, ⟨0x16800, 0x16A38, 1⟩]⟩,
   ⟨["Bassa_Vah", "Bass"], [⟨0x16AD0, 0x16AF5, 1⟩]⟩,
   ⟨["Batak", "Batk"], [⟨0x1BC0, 0x1BFF, 1⟩]⟩,
   ⟨["Bengali", "Beng"], [⟨0x980, 0x9FE, 1⟩]⟩,
   ⟨["Bhaiksuki", "Bhks"], [⟨0x11C00, 0x11C6C, 1⟩]⟩,
   ⟨["Bopomofo", "Bopo"],
    [⟨0x2EA, 0x2EB, 1⟩, ⟨0x3105, 0x312F, 1⟩, ⟨0x31A0, 0x31BF, 1⟩]⟩,
   ⟨["Brahmi", "Brah"], [⟨0x11000, 0x1107F, 1⟩]⟩,
   ⟨["Braille", "Brai"], [⟨0x2800, 0x28FF, 1⟩]⟩,
   ⟨["Buginese", "Bugi"], [⟨0x1A00, 0x1A1F, 1⟩]⟩,
   ⟨["Buhid", "Buhd"], [⟨0x1740, 0x1753, 1⟩]⟩,
   ⟨["Canadian_Aboriginal", "Cans"],
    [⟨0x1400, 0x167F, 1⟩, ⟨0x18B0, 0x18F5, 1⟩, ⟨0x11AB0, 0x11ABF, 1⟩]⟩,
   ⟨["Carian", "Cari"], [⟨0x102A0, 0x102D0, 1⟩]⟩,
   ⟨["Caucasian_Albanian", "Aghb"], [⟨0x10530, 0x1056F, 1⟩]⟩,
   ⟨["Chakma", "Cakm"], [⟨0x11100, 0x11147, 1⟩]⟩,
   ⟨["Cham"], [⟨0xAA00, 0xAA5F, 1⟩]⟩,
   ⟨["Cherokee", "Cher"], [⟨0x13A0, 0x13FD, 1⟩, ⟨0xAB70, 0xABBF, 1⟩]⟩,
   ⟨["Chorasmian", "Chrs"], [⟨0x10FB0, 0x10FCB, 1⟩]⟩,
   ⟨["Common", "Zyyy"],
    [⟨0x0, 0x40, 1⟩, ⟨0x5B, 0x60, 1⟩, ⟨0x7B, 0xA9, 1⟩, ⟨0xAB, 0xB9, 1⟩, ⟨0xBB, 0xBF, 1⟩,
     ⟨0xD7, 0xD7, 1⟩, ⟨0xF7, 0xF7, 1⟩, ⟨0x2B9, 0x2DF, 1⟩, ⟨0x2E5, 0x2E9, 1⟩, ⟨0x2EC, 0x2FF, 1⟩,
     ⟨0x374, 0x374, 1⟩, ⟨0x37E, 0x37E, 1⟩, ⟨0x385, 0x385, 1⟩, ⟨0x387, 0x387, 1⟩,
     ⟨0x605, 0x605, 1⟩, ⟨0x60C, 0x60C, 1⟩, ⟨0x61B, 0x61B, 1⟩, ⟨0x61F, 0x61F, 1⟩,
     ⟨0x640, 0x640, 1⟩, ⟨0x6DD, 0x6DD, 1⟩, ⟨0x8E2, 0x8E2, 1⟩, ⟨0x964, 0x965, 1⟩,
     ⟨0xE3F, 0xE3F, 1⟩, ⟨0xFD5, 0xFD8, 1⟩, ⟨0x10FB, 0x10FB, 1⟩, ⟨0x16EB, 0x16ED, 1⟩,
     ⟨0x1735, 0x1736, 1⟩, ⟨0x1802, 0x1803, 1⟩, ⟨0x1805, 0x1805, 1⟩, ⟨0x1CD3, 0x1CD3, 1⟩,
     ⟨0x1CE1, 0x1CE1, 1⟩, ⟨0x1CE9, 0x1CEC, 1⟩, ⟨0x1CEE, 0x1CF3, 1⟩, ⟨0x1CF5, 0x1CF7, 1⟩,
     ⟨0x1CFA, 0x1CFA, 1⟩, ⟨0x2000, 0x200B, 1⟩, ⟨0x200E, 0x2070, 1⟩, ⟨0x2074, 0x207E, 1⟩,
     ⟨0x2080, 0x208E, 1⟩, ⟨0x20A0, 0x20C0, 1⟩, ⟨0x2100, 0x2125, 1⟩, ⟨0x2127, 0x2129, 1⟩,
     ⟨0x212C, 0x2131, 1⟩, ⟨0x2133, 0x214D, 1⟩, ⟨0x214F, 0x215F, 1⟩, ⟨0x2189, 0x27FF, 1⟩,
     ⟨0x2900, 0x2BFF, 1⟩, ⟨0x2E00, 0x2E5D, 1⟩, ⟨0x2FF0, 0x3004, 1⟩, ⟨0x3006, 0x3006, 1⟩,
     ⟨0x3008, 0x3020, 1⟩, ⟨0x3030, 0x3037, 1⟩, ⟨0x303C, 0x303F, 1⟩, ⟨0x309B, 0x309C, 1⟩,
     ⟨0x30A0, 0x30A0, 1⟩, ⟨0x30FB, 0x30FC, 1⟩, ⟨0x3190, 0x319F, 1⟩, ⟨0x31C0, 0x31EF, 1⟩,
     ⟨0x3220, 0x325F, 1⟩, ⟨0x327F, 0x32CF, 1⟩, ⟨0x32FF, 0x32FF, 1⟩, ⟨0x3358, 0x33FF, 1⟩,
     ⟨0x4DC0, 0x4DFF, 1⟩, ⟨0xA700, 0xA721, 1⟩, ⟨0xA788, 0xA78A, 1⟩, ⟨0xA830, 0xA839, 1⟩,
     ⟨0xA92E, 0xA92E, 1⟩, ⟨0xA9CF, 0xA9CF, 1⟩, ⟨0xAB5B, 0xAB5B, 1⟩, ⟨0xAB6A, 0xAB6B, 1⟩,
     ⟨0xFD3E, 0xFD3F, 1⟩, ⟨0xFE10, 0xFE19, 1⟩, ⟨0xFE30, 0xFE6B, 1⟩, ⟨0xFEFF, 0xFF20, 1⟩,
     ⟨0xFF3B, 0xFF40, 1⟩, ⟨0xFF5B, 0xFF65, 1⟩, ⟨0xFF70, 0xFF70, 1⟩, ⟨0xFF9E, 0xFF9F, 1⟩,
     ⟨0xFFE0, 0xFFFD, 1⟩, ⟨0x10100, 0x1013F, 1⟩, ⟨0x10190, 0x1019C, 1⟩, ⟨0x101D0, 0x101FC, 1⟩,
     ⟨0x102E1, 0x102FB, 1⟩, ⟨0x1BCA0, 0x1CEB3, 1⟩, ⟨0x1CF50, 0x1D166, 1⟩, ⟨0x1D16A, 0x1D17A, 1⟩,
     ⟨0x1D183, 0x1D184, 1⟩, ⟨0x1D18C, 0x1D1A9, 1⟩, ⟨0x1D1AE, 0x1D1EA, 1⟩, ⟨0x1D2C0, 0x1D7FF, 1⟩,
     ⟨0x1EC71, 0x1ED3D, 1⟩, ⟨0x1F000, 0x1F1FF, 1⟩, ⟨0x1F201, 0x1FBF9, 1⟩, ⟨0xE0001, 0xE007F, 1⟩]⟩,
   ⟨["Coptic", "Copt", "Qaac"], [⟨0x3E2, 0x3EF, 1⟩, ⟨0x2C80, 0x2CFF, 1⟩]⟩,
   ⟨["Cuneiform", "Xsux"], [⟨0x12000, 0x12543, 1⟩]⟩,
   ⟨["Cypriot", "Cprt"], [⟨0x10800, 0x1083F, 1⟩]⟩,
   ⟨["Cypro_Minoan", "Cpmn"], [⟨0x12F90, 0x12FF2, 1⟩]⟩,
   ⟨["Cyrillic", "Cyrl"],
    [⟨0x400, 0x484, 1⟩, ⟨0x487, 0x52F, 1⟩, ⟨0x1C80, 0x1C8A, 1⟩, ⟨0x1D2B, 0x1D2B, 1⟩,
     ⟨0x1D78, 0x1D78, 1⟩, ⟨0x2DE0, 0x2DFF, 1⟩, ⟨0xA640, 0xA69F, 1⟩, ⟨0xFE2E, 0xFE2F, 1⟩,
     ⟨0x1E030, 0x1E08F, 1⟩]⟩,
   ⟨["Deseret", "Dsrt"], [⟨0x10400, 0x1044F, 1⟩]⟩,
   ⟨["Devanagari", "Deva"],
    [⟨0x900, 0x950, 1⟩, ⟨0x955, 0x963, 1⟩, ⟨0x966, 0x97F, 1⟩, ⟨0xA8E0, 0xA8FF, 1⟩,
     ⟨0x11B00, 0x11B09, 1⟩]⟩,
   ⟨["Dives_Akuru", "Diak"], [⟨0x11900, 0x11959, 1⟩]⟩,
   ⟨["Dogra", "Dogr"], [⟨0x11800, 0x1183B, 1⟩]⟩,
   ⟨["Duployan", "Dupl"], [⟨0x1BC00, 0x1BC9F, 1⟩]⟩,
   ⟨["Egyptian_Hieroglyphs", "Egyp"], [⟨0x13000, 0x143FA, 1⟩]⟩,
   ⟨["Elbasan", "Elba"], [⟨0x10500, 0x10527, 1⟩]⟩,
   ⟨["Elymaic", "Elym"], [⟨0x10FE0, 0x10FF6, 1⟩]⟩,
   ⟨["Ethiopic", "Ethi"],
    [⟨0x1200, 0x1399, 1⟩, ⟨0x2D80, 0x2DDE, 1⟩, ⟨0xAB01, 0xAB2E, 1⟩, ⟨0x1E7E0, 0x1E7FE, 1⟩]⟩,
   ⟨["Garay", "Gara"], [⟨0x10D40, 0x10D8F, 1⟩]⟩,
   ⟨["Georgian", "Geor"],
    [⟨0x10A0, 0x10FA, 1⟩, ⟨0x10FC, 0x10FF, 1⟩, ⟨0x1C90, 0x1CBF, 1⟩, ⟨0x2D00, 0x2D2D, 1⟩]⟩,
   ⟨["Glagolitic", "Glag"], [⟨0x2C00, 0x2C5F, 1⟩, ⟨0x1E000, 0x1E02A, 1⟩]⟩,
   ⟨["Gothic", "Goth"], [⟨0x10330, 0x1034A, 1⟩]⟩,
   ⟨["Grantha", "Gran"], [⟨0x11300, 0x11339, 1⟩, ⟨0x1133C, 0x11374, 1⟩]⟩,
   ⟨["Greek", "Grek"],
    [⟨0x370, 0x373, 1⟩, ⟨0x375, 0x37D, 1⟩, ⟨0x37F, 0x384, 1⟩, ⟨0x386, 0x386, 1⟩,
     ⟨0x388, 0x3E1, 1⟩, ⟨0x3F0, 0x3FF, 1⟩, ⟨0x1D26, 0x1D2A, 1⟩, ⟨0x1D5D, 0x1D61, 1⟩,
     ⟨0x1D66, 0x1D6A, 1⟩, ⟨0x1DBF, 0x1DBF, 1⟩, ⟨0x1F00, 0x1FFE, 1⟩, ⟨0x2126, 0x2126, 1⟩,
     ⟨0xAB65, 0xAB65, 1⟩, ⟨0x10140, 0x1018E, 1⟩, ⟨0x101A0, 0x101A0, 1⟩, ⟨0x1D200, 0x1D245, 1⟩]⟩,
   ⟨["Gujarati", "Gujr"], [⟨0xA81, 0xAFF, 1⟩]⟩,
   ⟨["Gunjala_Gondi", "Gong"], [⟨0x11D60, 0x11DA9, 1⟩]⟩,
   ⟨["Gurmukhi", "Guru"], [⟨0xA01, 0xA76, 1⟩]⟩,
   ⟨["Gurung_Khema", "Gukh"], [⟨0x16100, 0x16139, 1⟩]⟩,
   ⟨["Han", "Hani"],
    [⟨0x2E80, 0x2FD5, 1⟩, ⟨0x3005, 0x3005, 1⟩, ⟨0x3007, 0x3007, 1⟩, ⟨0x3021, 0x3029, 1⟩,
     ⟨0x3038, 0x303B, 1⟩, ⟨0x3400, 0x4DBF, 1⟩, ⟨0x4E00, 0x9FFF, 1⟩, ⟨0xF900, 0xFAD9, 1⟩,
     ⟨0x16FE2, 0x16FE3, 1⟩, ⟨0x16FF0, 0x16FF1, 1⟩, ⟨0x20000, 0x323AF, 1⟩]⟩,
   ⟨["Hangul", "Hang"],
    [⟨0x1100, 0x11FF, 1⟩, ⟨0x302E, 0x302F, 1⟩, ⟨0x3131, 0x318E, 1⟩, ⟨0x3200, 0x321E, 1⟩,
     ⟨0x3260, 0x327E, 1⟩, ⟨0xA960, 0xA97C, 1⟩, ⟨0xAC00, 0xD7FB, 1⟩, ⟨0xFFA0, 0xFFDC, 1⟩]⟩,
   ⟨["Hanifi_Rohingya", "Rohg"], [⟨0x10D00, 0x10D39, 1⟩]⟩,
   ⟨["Hanunoo", "Hano"], [⟨0x1720, 0x1734, 1⟩]⟩,
   ⟨["Hatran", "Hatr"], [⟨0x108E0, 0x108FF, 1⟩]⟩,
   ⟨["Hebrew", "Hebr"], [⟨0x591, 0x5F4, 1⟩, ⟨0xFB1D, 0xFB4F, 1⟩]⟩,
   ⟨["Hiragana", "Hira"],
    [⟨0x3041, 0x3096, 1⟩, ⟨0x309D, 0x309F, 1⟩, ⟨0x1B001, 0x1B11F, 1⟩, ⟨0x1B132, 0x1B152, 1⟩,
     ⟨0x1F200, 0x1F200, 1⟩]⟩,
   ⟨["Imperial_Aramaic", "Armi"], [⟨0x10840, 0x1085F, 1⟩]⟩,
   ⟨["Inherited", "Zinh", "Qaai"],
    [⟨0x300, 0x36F, 1⟩, ⟨0x485, 0x486, 1⟩, ⟨0x64B, 0x655, 1⟩, ⟨0x670, 0x670, 1⟩,
     ⟨0x951, 0x954, 1⟩, ⟨0x1AB0, 0x1ACE, 1⟩, ⟨0x1CD0, 0x1CD2, 1⟩, ⟨0x1CD4, 0x1CE0, 1⟩,
     ⟨0x1CE2, 0x1CE8, 1⟩, ⟨0x1CED, 0x1CED, 1⟩, ⟨0x1CF4, 0x1CF4, 1⟩, ⟨0x1CF8, 0x1CF9, 1⟩,
     ⟨0x1DC0, 0x1DFF, 1⟩, ⟨0x200C, 0x200D, 1⟩, ⟨0x20D0, 0x20F0, 1⟩, ⟨0x302A, 0x302D, 1⟩,
     ⟨0x3099, 0x309A, 1⟩, ⟨0xFE00, 0xFE0F, 1⟩, ⟨0xFE20, 0xFE2D, 1⟩, ⟨0x101FD, 0x101FD, 1⟩,
     ⟨0x102E0, 0x102E0, 1⟩, ⟨0x1133B, 0x1133B, 1⟩, ⟨0x1CF00, 0x1CF46, 1⟩, ⟨0x1D167, 0x1D169, 1⟩,
     ⟨0x1D17B, 0x1D182, 1⟩, ⟨0x1D185, 0x1D18B, 1⟩, ⟨0x1D1AA, 0x1D1AD, 1⟩, ⟨0xE0100, 0xE01EF, 1⟩]⟩,
   ⟨["Inscriptional_Pahlavi", "Phli"], [⟨0x10B60, 0x10B7F, 1⟩]⟩,
   ⟨["Inscriptional_Parthian", "Prti"], [⟨0x10B40, 0x10B5F, 1⟩]⟩,
   ⟨["Javanese", "Java"], [⟨0xA980, 0xA9CD, 1⟩, ⟨0xA9D0, 0xA9DF, 1⟩]⟩,
   ⟨["Kaithi", "Kthi"], [⟨0x11080, 0x110CD, 1⟩]⟩,
   ⟨["Kannada", "Knda"], [⟨0xC80, 0xCF3, 1⟩]⟩,
   ⟨["Katakana", "Kana"],
    [⟨0x30A1, 0x30FA, 1⟩, ⟨0x30FD, 0x30FF, 1⟩, ⟨0x31F0, 0x31FF, 1⟩, ⟨0x32D0, 0x32FE, 1⟩,
     ⟨0x3300, 0x3357, 1⟩, ⟨0xFF66, 0xFF6F, 1⟩, ⟨0xFF71, 0xFF9D, 1⟩, ⟨0x1AFF0, 0x1B000, 1⟩,
     ⟨0x1B120, 0x1B122, 1⟩, ⟨0x1B155, 0x1B167, 1⟩]⟩,
   ⟨["Kawi"], [⟨0x11F00, 0x11F5A, 1⟩]⟩,
   ⟨["Kayah_Li", "Kali"], [⟨0xA900, 0xA92D, 1⟩, ⟨0xA92F, 0xA92F, 1⟩]⟩,
   ⟨["Kharoshthi", "Khar"], [⟨0x10A00, 0x10A58, 1⟩]⟩,
   ⟨["Khitan_Small_Script", "Kits"], [⟨0x16FE4, 0x16FE4, 1⟩, ⟨0x18B00, 0x18CFF, 1⟩]⟩,
   ⟨["Khmer", "Khmr"], [⟨0x1780, 0x17F9, 1⟩, ⟨0x19E0, 0x19FF, 1⟩]⟩,
   ⟨["Khojki", "Khoj"], [⟨0x11200, 0x11241, 1⟩]⟩,
   ⟨["Khudawadi", "Sind"], [⟨0x112B0, 0x112F9, 1⟩]⟩,
   ⟨["Kirat_Rai", "Krai"], [⟨0x16D40, 0x16D79, 1⟩]⟩,
   ⟨["Lao", "Laoo"], [⟨0xE81, 0xEDF, 1⟩]⟩,
   ⟨["Latin", "Latn"],
    [⟨0x41, 0x5A, 1⟩, ⟨0x61, 0x7A, 1⟩, ⟨0xAA, 0xAA, 1⟩, ⟨0xBA, 0xBA, 1⟩, ⟨0xC0, 0xD6, 1⟩,
     ⟨0xD8, 0xF6, 1⟩, ⟨0xF8, 0x2B8, 1⟩, ⟨0x2E0, 0x2E4, 1⟩, ⟨0x1D00, 0x1D25, 1⟩,
     ⟨0x1D2C, 0x1D5C, 1⟩, ⟨0x1D62, 0x1D65, 1⟩, ⟨0x1D6B, 0x1D77, 1⟩, ⟨0x1D79, 0x1DBE, 1⟩,
     ⟨0x1E00, 0x1EFF, 1⟩, ⟨0x2071, 0x2071, 1⟩, ⟨0x207F, 0x207F, 1⟩, ⟨0x2090, 0x209C, 1⟩,
     ⟨0x212A, 0x212B, 1⟩, ⟨0x2132, 0x2132, 1⟩, ⟨0x214E, 0x214E, 1⟩, ⟨0x2160, 0x2188, 1⟩,
     ⟨0x2C60, 0x2C7F, 1⟩, ⟨0xA722, 0xA787, 1⟩, ⟨0xA78B, 0xA7FF, 1⟩, ⟨0xAB30, 0xAB5A, 1⟩,
     ⟨0xAB5C, 0xAB64, 1⟩, ⟨0xAB66, 0xAB69, 1⟩, ⟨0xFB00, 0xFB06, 1⟩, ⟨0xFF21, 0xFF3A, 1⟩,
     ⟨0xFF41, 0xFF5A, 1⟩, ⟨0x10780, 0x107BA, 1⟩, ⟨0x1DF00, 0x1DF2A, 1⟩]⟩,
   ⟨["Lepcha", "Lepc"], [⟨0x1C00, 0x1C4F, 1⟩]⟩,
   ⟨["Limbu", "Limb"], [⟨0x1900, 0x194F, 1⟩]⟩,
   ⟨["Linear_A", "Lina"], [⟨0x10600, 0x10767, 1⟩]⟩,
   ⟨["Linear_B", "Linb"], [⟨0x10000, 0x100FA, 1⟩]⟩,
   ⟨["Lisu"], [⟨0xA4D0, 0xA4FF, 1⟩, ⟨0x11FB0, 0x11FB0, 1⟩]⟩,
   ⟨["Lycian", "Lyci"], [⟨0x10280, 0x1029C, 1⟩]⟩,
   ⟨["Lydian", "Lydi"], [⟨0x10920, 0x1093F, 1⟩]⟩,
   ⟨["Mahajani", "Mahj"], [⟨0x11150, 0x11176, 1⟩]⟩,
   ⟨["Makasar", "Maka"], [⟨0x11EE0, 0x11EF8, 1⟩]⟩,
   ⟨["Malayalam", "Mlym"], [⟨0xD00, 0xD7F, 1⟩]⟩,
   ⟨["Mandaic", "Mand"], [⟨0x840, 0x85E, 1⟩]⟩,
   ⟨["Manichaean", "Mani"], [⟨0x10AC0, 0x10AF6, 1⟩]⟩,
   ⟨["Marchen", "Marc"], [⟨0x11C70, 0x11CB6, 1⟩]⟩,
   ⟨["Masaram_Gondi", "Gonm"], [⟨0x11D00, 0x11D59, 1⟩]⟩,
   ⟨["Medefaidrin", "Medf"], [⟨0x16E40, 0x16E9A, 1⟩]⟩,
   ⟨["Meetei_Mayek", "Mtei"], [⟨0xAAE0, 0xAAF6, 1⟩, ⟨0xABC0, 0xABF9, 1⟩]⟩,
   ⟨["Mende_Kikakui", "Mend"], [⟨0x1E800, 0x1E8D6, 1⟩]⟩,
   ⟨["Meroitic_Cursive", "Merc"], [⟨0x109A0, 0x109FF, 1⟩]⟩,
   ⟨["Meroitic_Hieroglyphs", "Mero"], [⟨0x10980, 0x1099F, 1⟩]⟩,
   ⟨["Miao", "Plrd"], [⟨0x16F00, 0x16F9F, 1⟩]⟩,
   ⟨["Modi"], [⟨0x11600, 0x11659, 1⟩]⟩,
   ⟨["Mongolian", "Mong"],
    [⟨0x1800, 0x1801, 1⟩, ⟨0x1804, 0x1804, 1⟩, ⟨0x1806, 0x18AA, 1⟩, ⟨0x11660, 0x1166C, 1⟩]⟩,
   ⟨["Mro", "Mroo"], [⟨0x16A40, 0x16A6F, 1⟩]⟩,
   ⟨["Multani", "Mult"], [⟨0x11280, 0x112A9, 1⟩]⟩,
   ⟨["Myanmar", "Mymr"],
    [⟨0x1000, 0x109F, 1⟩, ⟨0xA9E0, 0xA9FE, 1⟩, ⟨0xAA60, 0xAA7F, 1⟩, ⟨0x116D0, 0x116E3, 1⟩]⟩,
   ⟨["Nabataean", "Nbat"], [⟨0x10880, 0x108AF, 1⟩]⟩,
   ⟨["Nag_Mundari", "Nagm"], [⟨0x1E4D0, 0x1E4F9, 1⟩]⟩,
   ⟨["Nandinagari", "Nand"], [⟨0x119A0, 0x119E4, 1⟩]⟩,
   ⟨["New_Tai_Lue", "Talu"], [⟨0x1980, 0x19DF, 1⟩]⟩,
   ⟨["Newa"], [⟨0x11400, 0x11461, 1⟩]⟩,
   ⟨["Nko", "Nkoo"], [⟨0x7C0, 0x7FF, 1⟩]⟩,
   ⟨["Nushu", "Nshu"], [⟨0x16FE1, 0x16FE1, 1⟩, ⟨0x1B170, 0x1B2FB, 1⟩]⟩,
   ⟨["Nyiakeng_Puachue_Hmong", "Hmnp"], [⟨0x1E100, 0x1E14F, 1⟩]⟩,
   ⟨["Ogham", "Ogam"], [⟨0x1680, 0x169C, 1⟩]⟩,
   ⟨["Ol_Chiki", "Olck"], [⟨0x1C50, 0x1C7F, 1⟩]⟩,
   ⟨["Ol_Onal", "Onao"], [⟨0x1E5D0, 0x1E5FF, 1⟩]⟩,
   ⟨["Old_Hungarian", "Hung"], [⟨0x10C80, 0x10CFF, 1⟩]⟩,
   ⟨["Old_Italic", "Ital"], [⟨0x10300, 0x1032F, 1⟩]⟩,
   ⟨["Old_North_Arabian", "Narb"], [⟨0x10A80, 0x10A9F, 1⟩]⟩,
   ⟨["Old_Permic", "Perm"], [⟨0x10350, 0x1037A, 1⟩]⟩,
   ⟨["Old_Persian", "Xpeo"], [⟨0x103A0, 0x103D5, 1⟩]⟩,
   ⟨["Old_Sogdian", "Sogo"], [⟨0x10F00, 0x10F27, 1⟩]⟩,
   ⟨["Old_South_Arabian", "Sarb"], [⟨0x10A60, 0x10A7F, 1⟩]⟩,
   ⟨["Old_Turkic", "Orkh"], [⟨0x10C00, 0x10C48, 1⟩]⟩,
   ⟨["Old_Uyghur", "Ougr"], [⟨0x10F70, 0x10F89, 1⟩]⟩,
   ⟨["Oriya", "Orya"], [⟨0xB01, 0xB77, 1⟩]⟩,
   ⟨["Osage", "Osge"], [⟨0x104B0, 0x104FB, 1⟩]⟩,
   ⟨["Osmanya", "Osma"], [⟨0x10480, 0x104A9, 1⟩]⟩,
   ⟨["Pahawh_Hmong", "Hmng"], [⟨0x16B00, 0x16B8F, 1⟩]⟩,
   ⟨["Palmyrene", "Palm"], [⟨0x10860, 0x1087F, 1⟩]⟩,
   ⟨["Pau_Cin_Hau", "Pauc"], [⟨0x11AC0, 0x11AF8, 1⟩]⟩,
   ⟨["Phags_Pa", "Phag"], [⟨0xA840, 0xA877, 1⟩]⟩,
   ⟨["Phoenician", "Phnx"], [⟨0x10900, 0x1091F, 1⟩]⟩,
   ⟨["Psalter_Pahlavi", "Phlp"], [⟨0x10B80, 0x10BAF, 1⟩]⟩,
   ⟨["Rejang", "Rjng"], [⟨0xA930, 0xA95F, 1⟩]⟩,
   ⟨["Runic", "Runr"], [⟨0x16A0, 0x16EA, 1⟩, ⟨0x16EE, 0x16F8, 1⟩]⟩,
   ⟨["Samaritan", "Samr"], [⟨0x800, 0x83E, 1⟩]⟩,
   ⟨["Saurashtra", "Saur"], [⟨0xA880, 0xA8D9, 1⟩]⟩,
   ⟨["Sharada", "Shrd"], [⟨0x11180, 0x111DF, 1⟩]⟩,
   ⟨["Shavian", "Shaw"], [⟨0x10450, 0x1047F, 1⟩]⟩,
   ⟨["Siddham", "Sidd"], [⟨0x11580, 0x115DD, 1⟩]⟩,
   ⟨["SignWriting", "Sgnw"], [⟨0x1D800, 0x1DAAF, 1⟩]⟩,
   ⟨["Sinhala", "Sinh"], [⟨0xD81, 0xDF4, 1⟩, ⟨0x111E1, 0x111F4, 1⟩]⟩,
   ⟨["Sogdian", "Sogd"], [⟨0x10F30, 0x10F59, 1⟩]⟩,
   ⟨["Sora_Sompeng", "Sora"], [⟨0x110D0, 0x110F9, 1⟩]⟩,
   ⟨["Soyombo", "Soyo"], [⟨0x11A50, 0x11AA2, 1⟩]⟩,
   ⟨["Sundanese", "Sund"], [⟨0x1B80, 0x1BBF, 1⟩, ⟨0x1CC0, 0x1CC7, 1⟩]⟩,
   ⟨["Sunuwar", "Sunu"], [⟨0x11BC0, 0x11BF9, 1⟩]⟩,
   ⟨["Syloti_Nagri", "Sylo"], [⟨0xA800, 0xA82C, 1⟩]⟩,
   ⟨["Syriac", "Syrc"], [⟨0x700, 0x74F, 1⟩, ⟨0x860, 0x86A, 1⟩]⟩,
   ⟨["Tagalog", "Tglg"], [⟨0x1700, 0x171F, 1⟩]⟩,
   ⟨["Tagbanwa", "Tagb"], [⟨0x1760, 0x1773, 1⟩]⟩,
   ⟨["Tai_Le", "Tale"], [⟨0x1950, 0x1974, 1⟩]⟩,
   ⟨["Tai_Tham", "Lana"], [⟨0x1A20, 0x1AAD, 1⟩]⟩,
   ⟨["Tai_Viet", "Tavt"], [⟨0xAA80, 0xAADF, 1⟩]⟩,
   ⟨["Takri", "Takr"], [⟨0x11680, 0x116C9, 1⟩]⟩,
   ⟨["Tamil", "Taml"], [⟨0xB82, 0xBFA, 1⟩, ⟨0x11FC0, 0x11FFF, 1⟩]⟩,
   ⟨["Tangsa", "Tnsa"], [⟨0x16A70, 0x16AC9, 1⟩]⟩,
   ⟨["Tangut", "Tang"],
    [⟨0x16FE0, 0x16FE0, 1⟩, ⟨0x17000, 0x18AFF, 1⟩, ⟨0x18D00, 0x18D08, 1⟩]⟩,
   ⟨["Telugu", "Telu"], [⟨0xC00, 0xC7F, 1⟩]⟩,
   ⟨["Thaana", "Thaa"], [⟨0x780, 0x7B1, 1⟩]⟩,
   ⟨["Thai"], [⟨0xE01, 0xE3A, 1⟩, ⟨0xE40, 0xE5B, 1⟩]⟩,
   ⟨["Tibetan", "Tibt"], [⟨0xF00, 0xFD4, 1⟩, ⟨0xFD9, 0xFDA, 1⟩]⟩,
   ⟨["Tifinagh", "Tfng"], [⟨0x2D30, 0x2D7F, 1⟩]⟩,
   ⟨["Tirhuta", "Tirh"], [⟨0x11480, 0x114D9, 1⟩]⟩,
   ⟨["Todhri", "Todr"], [⟨0x105C0, 0x105F3, 1⟩]⟩,
   ⟨["Toto"], [⟨0x1E290, 0x1E2AE, 1⟩]⟩,
   ⟨["Tulu_Tigalari", "Tutg"], [⟨0x11380, 0x113E2, 1⟩]⟩,
   ⟨["Ugaritic", "Ugar"], [⟨0x10380, 0x1039F, 1⟩]⟩,
   ⟨["Vai", "Vaii"], [⟨0xA500, 0xA62B, 1⟩]⟩,
   ⟨["Vithkuqi", "Vith"], [⟨0x10570, 0x105BC, 1⟩]⟩,
   ⟨["Wancho", "Wcho"], [⟨0x1E2C0, 0x1E2FF, 1⟩]⟩,
   ⟨["Warang_Citi", "Wara"], [⟨0x118A0, 0x118FF, 1⟩]⟩,
   ⟨["Yezidi", "Yezi"], [⟨0x10E80, 0x10EB1, 1⟩]⟩,
   ⟨["Yi", "Yiii"], [⟨0xA000, 0xA4C6, 1⟩]⟩,
   ⟨["Zanabazar_Square", "Zanb"], [⟨0x11A00, 0x11A47, 1⟩]⟩]

/-- Every character that belongs to a script, to one of its own or to a common one. -/
def written : CharSet := Repertoire.assigned.diff Repertoire.privateUse

def chars (s : Script) : CharSet := (CharSet.ofSpans s.spans).inter written

end Script

end DataBinding.Pattern
