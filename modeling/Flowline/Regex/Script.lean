/-!
# Scripts

Which characters belong to the values of the Unicode property `Script`.
The ranges are written in the base 16, each as its distance from the end of the
range before it and, behind a plus sign, how many characters follow its first.
-/

namespace Flowline.Regex

/-- The names of every script and its ranges. -/
def scripts : List (List String × String) := [
  (["Adlm", "Adlam"],
    "1E900+4B 5+9 5+1"),
  (["Aghb", "Caucasian_Albanian"],
    "10530+33 C"),
  (["Ahom"],
    "11700+1A 3+E 5+16"),
  (["Arab", "Arabic"],
    "600+4 2+5 2+D 2+2 2+1F 2+9 C+19 2+6B 2+21 51+2F F1+21 6+4A 2+1C F251+1ED 3+8F 21+F
    71+4 2+86 F64+1E 44+5 9+8 22+5 DF01+3 2+1A 2+1 2 3 2+9 2+3 2 2 7 5 2 2 2+2 2+1 2 3
    2 2 2 2 2+1 2 3+3 2+6 2+3 2+3 2 2+9 2+10 6+2 2+4 2+10 35+1"),
  (["Armi", "Imperial_Aramaic"],
    "10840+15 2+8"),
  (["Armn", "Armenian"],
    "531+25 3+31 3+2 F584+4"),
  (["Avst", "Avestan"],
    "10B00+35 4+6"),
  (["Bali", "Balinese"],
    "1B00+4C 2+31"),
  (["Bamu", "Bamum"],
    "A6A0+57 C109+238"),
  (["Bass", "Bassa_Vah"],
    "16AD0+1D 3+5"),
  (["Batk", "Batak"],
    "1BC0+33 9+3"),
  (["Beng", "Bengali"],
    "980+3 2+7 3+1 3+15 2+6 2 4+3 3+8 3+1 3+3 9 5+1 2+4 3+18"),
  (["Bhks", "Bhaiksuki"],
    "11C00+8 2+2C 2+D B+1C"),
  (["Bopo", "Bopomofo"],
    "2EA+1 2E1A+2A 71+1F"),
  (["Brah", "Brahmi"],
    "11000+4D 5+23 A"),
  (["Brai", "Braille"],
    "2800+FF"),
  (["Bugi", "Buginese"],
    "1A00+1B 3+1"),
  (["Buhd", "Buhid"],
    "1740+13"),
  (["Cakm", "Chakma"],
    "11100+34 2+11"),
  (["Cans", "Canadian_Aboriginal"],
    "1400+27F 231+45 101BB+F"),
  (["Cari", "Carian"],
    "102A0+30"),
  (["Cham"],
    "AA00+36 A+D 3+9 3+3"),
  (["Cher", "Cherokee"],
    "13A0+55 3+5 9773+4F"),
  (["Chrs", "Chorasmian"],
    "10FB0+1B"),
  (["Copt", "Coptic", "Qaac"],
    "3E2+D 2891+73 6+6"),
  (["Cpmn", "Cypro_Minoan"],
    "12F90+62"),
  (["Cprt", "Cypriot"],
    "10800+5 3 2+2B 2+1 4 3"),
  (["Cyrl", "Cyrillic"],
    "400+84 3+A8 1751+A A1 4D 1068+1F 7841+5F 578F+1 E201+3D 22"),
  (["Deva", "Devanagari"],
    "900+50 5+E 3+19 9F61+1F 7201+9"),
  (["Diak", "Dives_Akuru"],
    "11900+6 3 3+7 2+1 2+1D 2+1 3+B A+9"),
  (["Dogr", "Dogra"],
    "11800+3B"),
  (["Dsrt", "Deseret"],
    "10400+4F"),
  (["Dupl", "Duployan"],
    "1BC00+6A 6+C 4+8 8+9 3+3"),
  (["Egyp", "Egyptian_Hieroglyphs"],
    "13000+455 B+F9A"),
  (["Elba", "Elbasan"],
    "10500+27"),
  (["Elym", "Elymaic"],
    "10FE0+16"),
  (["Ethi", "Ethiopic"],
    "1200+48 2+3 3+6 2 2+3 3+28 2+3 3+20 2+3 3+6 2 2+3 3+E 2+38 2+3 3+42 3+1F 4+19
    19E7+16 A+6 2+6 2+6 2+6 2+6 2+6 2+6 2+6 7D23+5 3+5 3+5 A+6 2+6 13CB2+6 2+3 2+1 2+E"),
  (["Geor", "Georgian"],
    "10A0+25 2 6 3+2A 2+3 B91+2A 3+2 1041+25 2 6"),
  (["Glag", "Glagolitic"],
    "2C00+5F 1B3A1+6 2+10 3+6 2+1 2+4"),
  (["Gong", "Gunjala_Gondi"],
    "11D60+5 2+1 2+24 2+1 2+5 8+9"),
  (["Gonm", "Masaram_Gondi"],
    "11D00+6 2+1 2+2B 4 2+1 2+8 9+9"),
  (["Goth", "Gothic"],
    "10330+1A"),
  (["Gran", "Grantha"],
    "11300+3 2+7 3+1 3+15 2+6 2+1 2+4 3+8 3+1 3+2 3 7 6+6 3+6 4+4"),
  (["Grek", "Greek"],
    "370+3 2+2 3+3 2 5 2 2+2 2 2+13 2+3E F+F 1927+4 33+4 5+4 55 141+15 3+5 3+25 3+5 3+7
    2 2 2 2+1E 3+34 2+E 2+D 3+5 2+12 3+2 2+8 128 8A3F 55DB+4E 12 D060+45"),
  (["Gujr", "Gujarati"],
    "A81+2 2+8 2+2 2+15 2+6 2+1 2+4 3+9 2+2 2+2 3 10+3 3+B 8+6"),
  (["Guru", "Gurmukhi"],
    "A01+2 2+5 5+1 3+15 2+6 2+1 2+1 2+1 3 2+4 5+1 3+2 4 8+3 2 8+10"),
  (["Hang", "Hangul"],
    "1100+FF 1E2F+1 102+5D 72+1E 42+1E 76E2+1C 284+2BA3 D+16 5+30 27A5+1E 4+5 3+5 3+5
    3+2"),
  (["Hani", "Han"],
    "2E80+19 2+58 D+D5 30 2 1A+8 F+3 3C5+19BF 41+51FF 5901+16D 3+69 7509+1 D+6 900A+A6DF
    21+111D 3+168D 3+1D30 10+26D 9A3+21D 5E3+134A 6+2129"),
  (["Hano", "Hanunoo"],
    "1720+14"),
  (["Hatr", "Hatran"],
    "108E0+12 2+1 6+4"),
  (["Hebr", "Hebrew"],
    "591+36 9+1A 5+5 F529+19 2+4 2 2+1 2+1 2+9"),
  (["Hira", "Hiragana"],
    "3041+55 7+2 17F62+11E 13 1E+2 40AE"),
  (["Hluw", "Anatolian_Hieroglyphs"],
    "14400+246"),
  (["Hmng", "Pahawh_Hmong"],
    "16B00+45 B+9 2+6 2+14 6+12"),
  (["Hmnp", "Nyiakeng_Puachue_Hmong"],
    "1E100+2C 4+D 3+9 5+1"),
  (["Hung", "Old_Hungarian"],
    "10C80+32 E+32 8+5"),
  (["Ital", "Old_Italic"],
    "10300+23 A+2"),
  (["Java", "Javanese"],
    "A980+4D 3+9 5+1"),
  (["Kali", "Kayah_Li"],
    "A900+2D 2"),
  (["Kana", "Katakana"],
    "30A1+59 3+2 F1+F D1+2E 2+57 CC0F+9 2+2C B053+3 2+6 2+1 2 120+2 33 F+3"),
  (["Kawi"],
    "11F00+10 2+28 4+1C"),
  (["Khar", "Kharoshthi"],
    "10A00+3 2+1 6+7 2+2 2+1C 3+2 5+9 8+8"),
  (["Khmr", "Khmer"],
    "1780+5D 3+9 7+9 1E7+1F"),
  (["Khoj", "Khojki"],
    "11200+11 2+2E"),
  (["Kits", "Khitan_Small_Script"],
    "16FE4 1B1C+1D5 2A"),
  (["Knda", "Kannada"],
    "C80+C 2+2 2+16 2+9 2+4 3+8 2+2 2+3 8+1 6+2 2+3 3+9 2+2"),
  (["Kthi", "Kaithi"],
    "11080+42 B"),
  (["Lana", "Tai_Tham"],
    "1A20+3E 2+1C 3+A 7+9 7+D"),
  (["Laoo", "Lao"],
    "E81+1 2 2+4 2+17 2 2+16 3+4 2 2+6 2+9 3+3"),
  (["Latn", "Latin"],
    "41+19 7+19 30 10 6+16 2+1E 2+1C0 28+4 1A1C+25 7+30 6+3 6+C 2+45 42+FF 172 E 11+C
    8E+1 7 1C 12+28 AD8+1F 7AA3+65 4+51 15+E 331+2A 2+8 2+3 4F97+6 41B+19 7+19 826+5
    2+29 2+8 D746+1E 7+5"),
  (["Lepc", "Lepcha"],
    "1C00+37 4+E 4+2"),
  (["Limb", "Limbu"],
    "1900+1E 2+B 5+B 5 4+B"),
  (["Lina", "Linear_A"],
    "10600+136 A+15 B+7"),
  (["Linb", "Linear_B"],
    "10000+B 2+19 2+12 2+1 2+E 3+D 23+7A"),
  (["Lisu"],
    "A4D0+2F 7AB1"),
  (["Lyci", "Lycian"],
    "10280+1C"),
  (["Lydi", "Lydian"],
    "10920+19 6"),
  (["Mahj", "Mahajani"],
    "11150+26"),
  (["Maka", "Makasar"],
    "11EE0+18"),
  (["Mand", "Mandaic"],
    "840+1B 3"),
  (["Mani", "Manichaean"],
    "10AC0+26 5+B"),
  (["Marc", "Marchen"],
    "11C70+1F 3+15 2+D"),
  (["Medf", "Medefaidrin"],
    "16E40+5A"),
  (["Mend", "Mende_Kikakui"],
    "1E800+C4 3+F"),
  (["Merc", "Meroitic_Cursive"],
    "109A0+17 5+13 3+2D"),
  (["Mero", "Meroitic_Hieroglyphs"],
    "10980+1F"),
  (["Mlym", "Malayalam"],
    "D00+C 2+2 2+32 2+2 2+5 5+F 3+19"),
  (["Modi"],
    "11600+44 C+9"),
  (["Mong", "Mongolian"],
    "1800+1 3 2+13 7+58 8+2A FDB6+C"),
  (["Mroo", "Mro"],
    "16A40+1E 2+9 5+1"),
  (["Mtei", "Meetei_Mayek"],
    "AAE0+16 CA+2D 3+9"),
  (["Mult", "Multani"],
    "11280+6 2 2+3 2+E 2+A"),
  (["Mymr", "Myanmar"],
    "1000+9F 9941+1E 62+1F 6C51+13"),
  (["Nagm", "Nag_Mundari"],
    "1E4D0+29"),
  (["Nand", "Nandinagari"],
    "119A0+7 3+2D 3+A"),
  (["Narb", "Old_North_Arabian"],
    "10A80+1F"),
  (["Nbat", "Nabataean"],
    "10880+1E 9+8"),
  (["Newa"],
    "11400+5B 2+4"),
  (["Nkoo", "Nko"],
    "7C0+3A 3+2"),
  (["Nshu", "Nushu"],
    "16FE1 418F+18B"),
  (["Ogam", "Ogham"],
    "1680+1C"),
  (["Olck", "Ol_Chiki"],
    "1C50+2F"),
  (["Orkh", "Old_Turkic"],
    "10C00+48"),
  (["Orya", "Oriya"],
    "B01+2 2+7 3+1 3+15 2+6 2+1 2+4 3+8 3+1 3+2 8+2 5+1 2+4 3+11"),
  (["Osge", "Osage"],
    "104B0+23 5+23"),
  (["Osma", "Osmanya"],
    "10480+1D 3+9"),
  (["Ougr", "Old_Uyghur"],
    "10F70+19"),
  (["Palm", "Palmyrene"],
    "10860+1F"),
  (["Pauc", "Pau_Cin_Hau"],
    "11AC0+38"),
  (["Perm", "Old_Permic"],
    "10350+2A"),
  (["Phag", "Phags_Pa"],
    "A840+37"),
  (["Phli", "Inscriptional_Pahlavi"],
    "10B60+12 6+7"),
  (["Phlp", "Psalter_Pahlavi"],
    "10B80+11 8+3 D+6"),
  (["Phnx", "Phoenician"],
    "10900+1B 4"),
  (["Plrd", "Miao"],
    "16F00+4A 5+38 8+10"),
  (["Prti", "Inscriptional_Parthian"],
    "10B40+15 3+7"),
  (["Rjng", "Rejang"],
    "A930+23 C"),
  (["Rohg", "Hanifi_Rohingya"],
    "10D00+27 9+9"),
  (["Runr", "Runic"],
    "16A0+4A 4+A"),
  (["Samr", "Samaritan"],
    "800+2D 3+E"),
  (["Sarb", "Old_South_Arabian"],
    "10A60+1F"),
  (["Saur", "Saurashtra"],
    "A880+45 9+B"),
  (["Sgnw", "SignWriting"],
    "1D800+28B 10+4 2+E"),
  (["Shaw", "Shavian"],
    "10450+2F"),
  (["Shrd", "Sharada"],
    "11180+5F 981+7"),
  (["Sidd", "Siddham"],
    "11580+35 3+25"),
  (["Sind", "Khudawadi"],
    "112B0+3A 6+9"),
  (["Sinh", "Sinhala"],
    "D81+2 2+11 4+17 2+8 2 3+6 4 5+5 2 2+7 7+9 3+2 103ED+13"),
  (["Sogd", "Sogdian"],
    "10F30+29"),
  (["Sogo", "Old_Sogdian"],
    "10F00+27"),
  (["Sora", "Sora_Sompeng"],
    "110D0+18 8+9"),
  (["Soyo", "Soyombo"],
    "11A50+52"),
  (["Sund", "Sundanese"],
    "1B80+3F 101+7"),
  (["Sylo", "Syloti_Nagri"],
    "A800+2C"),
  (["Syrc", "Syriac"],
    "700+D 2+3B 3+2 111+A"),
  (["Tagb", "Tagbanwa"],
    "1760+C 2+2 2+1"),
  (["Takr", "Takri"],
    "11680+39 7+9"),
  (["Tale", "Tai_Le"],
    "1950+1D 3+4"),
  (["Talu", "New_Tai_Lue"],
    "1980+2B 5+19 7+A 4+1"),
  (["Taml", "Tamil"],
    "B82+1 2+5 4+2 2+3 4+1 2 2+1 4+1 4+2 4+B 5+4 4+2 2+3 3 7 F+14 113C6+31 E"),
  (["Tang", "Tangut"],
    "16FE0 20+1AFF 201+1E 62+72"),
  (["Tavt", "Tai_Viet"],
    "AA80+42 19+4"),
  (["Telu", "Telugu"],
    "C00+C 2+2 2+16 2+F 3+8 2+2 2+3 8+1 2+2 2+1 3+3 3+9 8+8"),
  (["Tfng", "Tifinagh"],
    "2D30+37 8+1 F"),
  (["Tglg", "Tagalog"],
    "1700+15 A"),
  (["Thaa", "Thaana"],
    "780+31"),
  (["Thai"],
    "E01+39 6+1B"),
  (["Tibt", "Tibetan"],
    "F00+47 2+23 5+26 2+23 2+E 2+6 5+1"),
  (["Tirh", "Tirhuta"],
    "11480+47 9+9"),
  (["Tnsa", "Tangsa"],
    "16A70+4E 2+9"),
  (["Toto"],
    "1E290+1E"),
  (["Ugar", "Ugaritic"],
    "10380+1D 2"),
  (["Vaii", "Vai"],
    "A500+12B"),
  (["Vith", "Vithkuqi"],
    "10570+A 2+E 2+6 2+1 2+A 2+E 2+6 2+1"),
  (["Wara", "Warang_Citi"],
    "118A0+52 D"),
  (["Wcho", "Wancho"],
    "1E2C0+39 6"),
  (["Xpeo", "Old_Persian"],
    "103A0+23 5+D"),
  (["Xsux", "Cuneiform"],
    "12000+399 67+6E 2+4 C+C3"),
  (["Yezi", "Yezidi"],
    "10E80+29 2+2 3+1"),
  (["Yiii", "Yi"],
    "A000+48C 4+36"),
  (["Zanb", "Zanabazar_Square"],
    "11A00+47"),
  (["Zinh", "Inherited", "Qaai"],
    "300+6F 116+1 1C5+A 1B 2E1+3 115C+2D 3+B 1E5+2 2+C 2+6 5 7 4+1 C7+3F 20D+1 C3+20
    F3A+3 6C+1 CD66+F 11+D 3D0 E3 105B BBC5+2D 3+16 221+2 12+7 3+6 1F+3 C2F53+EF"),
  (["Zyyy", "Common"],
    "0+40 1B+5 1B+2E 2+E 2+4 18 20 1C2+26 6+4 3+13 75 A 7 2 27E 7 F 4 21 9D 205 82+1 4DA
    196+3 123 5F0+2 48+1 CC+1 2 4CE E 8+3 2+5 2+2 3 306+B 3+56 2+A 4+A 2+E 12+21 3F+25
    2+2 3+5 2+1A 2+10 2A+2 5+299 17+A 16+39F 101+273 3+89 201+5D 193+14 2 2+18 10+7 5+3
    5C+1 4 5B+1 94+F 21+25 A 31+3F 20+50 30 59+A7 19C1+3F 5901+21 67+2 A6+9 F5 A1 18C
    F+1 51D3+1 D1+9 17+22 2+12 2+3 94 2+1F 1B+5 1B+A B 2E+1 41+6 2+6 B+4 103+2 5+2C 4+8
    51+C 34+2C E5+1A B9A5+3 F5D+FC 4+1B3 7+16 10+10 60+73 3D+F5 B+26 3+3D 4+10 9+1 8+1D
    5+3C D6+13 D+13 D+56 A+18 88+54 2+46 2+1 3 3+1 3+3 2+B 2 2+6 2+40 2+3 3+7 2+6 2+1B
    2+3 2+4 2 4+6 2+153 3+123 3+31 1472+43 4D+3C 2C3+2B 5+63 D+E 3+E 2+E 2+24 B+AD
    39+19 2+1 E+2B 5+8 8+1 F+5 9B+3D8 4+10 4+C 4+D9 7+B 5 10+B 5+37 9+9 7+27 9+1D 3+B
    5+1 F+8 28+157 9+D 3+C 4+A 4+38 2 5+F 3+B 5+9 8+92 2+66 C0407 1F+5F"),
  (["Zzzz", "Unknown"],
    "378+1 7+3 8 2 15 18E 27+1 33+1 4 38+7 1C+3 7+A 10F 3D+1 66+D 3C+1 32+1 10 1D+1 2
    C+4 23+4 EE 9+1 3+1 17 8 2+2 5+1 A+1 3+1 5+7 2+3 3 6+1 1A+1 4 7+3 3+1 17 8 3 3 3+1
    2 6+3 3+1 4+2 2+6 5 2+6 12+9 4 A 4 17 8 3 6+1 B 4 4+1 2+E 5+1 D+6 8 4 9+1 3+1 17 8
    3 6+1 A+1 3+1 4+6 4+3 3 6+1 13+9 3 7+2 4 5+2 3 2 3+2 3+2 4+2 D+3 6+2 4 5+1 2+5 2+D
    16+4 E 4 18 11+1 A 4 5+6 3 4 3+1 5+1 B+6 17 4 18 B 6+1 A 4 5+6 3+4 4 5+1 B 4+B E 4
    34 4 7+3 11+1 1B 4 13+2 19 A 2+1 8+2 2+3 7 2 9+5 B+1 4+B 3B+3 1E+24 3 2 6 19 2 18+1
    6 2 8 B+1 5+1F 49 25+3 28 25 10 E+24 C7 2+4 2+1 17A 5+1 8 2 5+1 2A 5+1 22 5+1 8 2
    5+1 10 3A 5+1 44+1 21+2 1B+5 57+1 7+1 29E+2 5A+6 17+8 19+8 15+B E 4 3+B 5F+1 B+5
    B+5 1B+5 5A+6 2C+4 47+9 20 D+3 D+3 2+2 2B+1 6+A 2D+3 1B+5 C+2 3F+1 42 1E+1 C+5 B+5
    F+1 2F+1 D+13 4E A7+7 3D+2 10+2 3F+4 2C+1 C+7 2C+4 217+1 7+1 27+1 7+1 9 2 2 2 20+1
    36 10 F+1 7 14+1 4 A 66 D+1 1C E+2 23+D 22+E 8D+3 29B+15 C+14 715+1 17F+4 2E 2+4
    2+1 39+6 3+D 19+8 8 8 8 8 8 8 8 8 7F+21 1B 5A+B D7+19 51 57+1 68+4 2C 5F 57+8 31
    726E+2 38+8 15D+13 B9+7 DE+13 3D+2 B+5 39+7 47+7 D+5 75+A 1F+2 4F C+3 22 38+8 F+1
    B+1 68+17 1D+9 7+1 7+1 7+8 8 8 3D+3 7F+1 B+5 2BA5+B 18+3 32+3 801+18FF 16F+1 6B+25
    8+B 6+4 1B 6 2 3 3 28B+1F 2B+5 34 14 5+3 6 88+1 2 BF+2 7+1 7+1 7+1 4+2 8 8+9 6+1 D
    1B 14 3 10+1 F+21 7C+4 4+3 2E+2 59 E+2 2+2E 2F+81 1E+2 32+E 1D+3 25+8 1F+4 2C+4 1F
    26+3 F+29 9F+1 B+5 25+3 25+3 29+7 35+A D 10 8 3 C 10 8 3+2 35+B 138+8 17+9 9+17 7
    2B A+44 7+1 2 2D 3+2 2+1 18 49+7 A+2F 14 3+4 22+2 1C+4 1C+25 39+3 15+1 33 3+4 9 4
    1E+1 4+3 B+6 A+6 41+1F 28+3 D+8 37+2 1E+1 1C+4 1B+6 5+B 8+4F 4A+36 34+C 34+6 2F+7
    B+5 27+2 1E+7 3+CF 20 2B 4+1 3+F 7+7 A+20 2F+7 2B+15 1B+25 1D+13 18+8 4F+3 25+8
    45+9 2+1 1A+6 B+5 36 13+7 28+8 61 15+A 13 30+3D 8 2 5 10 C+5 3C+4 B+5 5 9+1 3+1 17
    8 3 6 B+1 3+1 4+1 2+5 2+4 8+1 8+2 6+A B 2+1 2 27 B 2+1 2 5 B 3+7 3+1C 5D 6+1D 49+7
    B+A5 37+1 27+21 46+A B+5 E+12 3B+5 B+5 15+1B 1C+1 10+3 18+B8 3D+63 54+B 9+1 2+1 9 3
    1F 3+1 D+8 B+45 9+1 2F+1 C+1A 49+7 54+C 4A+6 B+55 9+57 23+D B+5 A 2E F+9 1E+2 21+1
    17 F+48 8 3 2D+2 2 3 A+7 B+5 7 3 26 3 7+6 B+5 2D+3 B+F5 1A+6 12 2A+2 1E+54 2+E 33+C
    39C+65 70 6+A C5+A4B 64+C 457+9 F9C+4 248+1AB8 3B+6C5 23A+6 20 B+3 52 B+5 1F+1 7+9
    47+9 B 8 16+4 14+1AF 3B+C5 5C+4 1A+1 1A+2B 4C+3 3A+6 12+3F 6+A 8+8 1CD7+28 21+60
    74+21FC 5 8 3 124+E 2+1C 4+1 2+D 5+7 18D+903 6C+4 E+2 A+6 B+1 9+F5B FE+2 1B5+5 18+E
    12+E 2F+1 18+8 75+3B F7+9 28+1 C3+14 47+79 15+B 15+B 58+8 1A+86 56 48 3+1 2+1 3+1 5
    D 2 8 42 5+1 9 8 1D 5 6 2+2 8 155+1 125+1 2BF+E 6 10+44F 20+5 7+D4 8 12+1 8 3 6+4
    3F+20 2+6F 2E+2 F+1 B+3 3+13F 20+10 3B+4 2+1CF 2B+D5 2C+3 2+BF 20 17+7 3+DF 8 5 3
    10 C6+1 11+28 4D+3 B+3 3+310 45+4B 3E+C1 5 1C 3 2+1 2 B 5 2 2+5 2+3 2 2 2 4 3 2+1 2
    2 2 2 2 3 2+1 5 8 5 5 2 B 12+4 4 6 12+33 3+10D 2D+3 65+B 10+1 10 10 26+9 AF+37 1E+C
    2D+3 A+6 3+D 7+99 3DA+2 12+2 E+2 DB+5 D+3 2+E D+3 39+7 B+5 29+7 1F+1 D+3 3+D A+26
    159+7 F+1 E+2 C+2 3A 2+3 11+1 D+3 B+6 94 68+404 A6E1+1F 111F+1 168F+1 1D32+E
    26F+9A1 21F+5E1 134C+4 212B+ACB86 2+1D 61+7F F1+2FE0F"),
  (["Gara", "Garay"],
    "10D40+25 4+1C 9+1"),
  (["Gukh", "Gurung_Khema"],
    "16100+39"),
  (["Krai", "Kirat_Rai"],
    "16D40+39"),
  (["Onao", "Ol_Onal"],
    "1E5D0+2A 5"),
  (["Sunu", "Sunuwar"],
    "11BC0+21 F+9"),
  (["Todr", "Todhri"],
    "105C0+33"),
  (["Tutg", "Tulu_Tigalari"],
    "11380+9 2 3 2+25 2+9 2 3 2+3 2+9 2+1 9+1")]

end Flowline.Regex
