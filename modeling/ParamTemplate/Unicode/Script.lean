/-
**Scripts.**

The script of every character, version 17 of the character database.  Two names are known that
have no set: no character has an unknown script here, and none has the merged kana script.
-/

import ParamTemplate.Unicode.NamedSet

set_option autoImplicit false

namespace ParamTemplate.Unicode

/-- The sets of the scripts. -/
def scripts : List NamedSet := [
  ⟨["adlm", "adlam"], some
    "1e900 4b 3 9 3 1 "⟩,
  ⟨["ahom"], some
    "11700 1a 1 e 3 16 "⟩,
  ⟨["hluw", "anatolianhieroglyphs"], some
    "14400 246 "⟩,
  ⟨["arab", "arabic"], some
    "600 4 0 5 0 d 0 2 0 1f 0 9 a 19 0 6b 0 21 4f 2f ef 21 4 4a 0 1c f24f 1ed 1 8f 1f f 6f 4 0
86 f62 1e 42 5 7 8 20 5 deff 3 0 1a 0 1 0 0 1 0 0 9 0 3 0 0 0 0 5 0 3 0 0 0 0 0 0 2 0 1 0 0 1 0 0
0 0 0 0 0 0 0 0 1 0 0 1 3 0 6 0 3 0 3 0 0 0 9 0 10 4 2 0 4 0 10 33 1 "⟩,
  ⟨["armn", "armenian"], some
    "531 25 1 31 1 2 f582 4 "⟩,
  ⟨["avst", "avestan"], some
    "10b00 35 2 6 "⟩,
  ⟨["bali", "balinese"], some
    "1b00 4c 0 31 "⟩,
  ⟨["bamu", "bamum"], some
    "a6a0 57 c107 238 "⟩,
  ⟨["bass", "bassavah"], some
    "16ad0 1d 1 5 "⟩,
  ⟨["batk", "batak"], some
    "1bc0 33 7 3 "⟩,
  ⟨["beng", "bengali"], some
    "980 3 0 7 1 1 1 15 0 6 0 0 2 3 1 8 1 1 1 3 7 0 3 1 0 4 1 18 "⟩,
  ⟨["berf", "beriaerfe"], some
    "16ea0 18 1 18 "⟩,
  ⟨["bhks", "bhaiksuki"], some
    "11c00 8 0 2c 0 d 9 1c "⟩,
  ⟨["bopo", "bopomofo"], some
    "2ea 1 2e18 2a 6f 1f "⟩,
  ⟨["brah", "brahmi"], some
    "11000 4d 3 23 8 0 "⟩,
  ⟨["brai", "braille"], some
    "2800 ff "⟩,
  ⟨["bugi", "buginese"], some
    "1a00 1b 1 1 "⟩,
  ⟨["buhd", "buhid"], some
    "1740 13 "⟩,
  ⟨["cans", "canadianaboriginal"], some
    "1400 27f 22f 45 101b9 f "⟩,
  ⟨["cari", "carian"], some
    "102a0 30 "⟩,
  ⟨["aghb", "caucasianalbanian"], some
    "10530 33 a 0 "⟩,
  ⟨["cakm", "chakma"], some
    "11100 34 0 11 "⟩,
  ⟨["cham"], some
    "aa00 36 8 d 1 9 1 3 "⟩,
  ⟨["cher", "cherokee"], some
    "13a0 55 1 5 9771 4f "⟩,
  ⟨["chrs", "chorasmian"], some
    "10fb0 1b "⟩,
  ⟨["zyyy", "common"], some
    "0 40 19 5 19 2e 0 e 0 4 16 0 1e 0 1c0 26 4 4 1 13 73 0 8 0 5 0 0 0 27c 0 5 0 d 0 2 0 1f 0
9b 0 203 0 80 1 4d8 0 194 3 121 0 5ee 2 46 1 ca 1 0 0 4cc 0 c 0 6 3 0 5 0 2 1 0 304 b 1 56 0 a 2 a
0 e 10 21 3d 25 0 2 1 5 0 1a 0 10 28 2 3 299 15 a 14 39f ff 273 1 89 1ff 5d 191 14 0 0 0 18 e 7 3
3 5a 1 2 0 59 1 92 f 1f 25 8 0 2f 3f 1e 50 2e 0 57 a7 19bf 3f 58ff 21 65 2 a4 9 f3 0 9f 0 18a 0 d
1 51d1 1 cf 9 15 22 0 12 0 3 92 0 0 1f 19 5 19 a 9 0 2c 1 3f 6 0 6 9 4 101 2 3 2c 2 8 4f c 32 2c
e3 1a b9a3 3 f5b fc 2 1b3 5 16 e 10 5e 73 3b f5 9 26 1 3d 2 10 7 1 6 1d 3 3c d4 13 b 13 b 56 8 18
86 54 0 46 0 1 1 0 1 1 1 3 0 b 0 0 0 6 0 40 0 3 1 7 0 6 0 1b 0 3 0 4 0 0 2 6 0 153 1 123 1 31 1470
43 4b 3c 2c1 2b 3 63 b e 1 e 0 e 0 24 9 ad 37 19 0 1 c 2b 3 8 6 1 d 5 99 3d8 2 10 2 c 2 d9 5 b 3 0
e b 3 37 7 9 5 27 7 1d 1 b 3 1 d 8 26 157 7 d 1 c 2 a 2 38 0 0 3 f 1 b 3 9 6 92 0 66 c0405 0 1d 5f "⟩,
  ⟨["copt", "coptic", "qaac"], some
    "3e2 d 288f 73 4 6 "⟩,
  ⟨["xsux", "cuneiform"], some
    "12000 399 65 6e 0 4 a c3 "⟩,
  ⟨["cprt", "cypriot"], some
    "10800 5 1 0 0 2b 0 1 2 0 1 0 "⟩,
  ⟨["cpmn", "cyprominoan"], some
    "12f90 62 "⟩,
  ⟨["cyrl", "cyrillic"], some
    "400 84 1 a8 174f a 9f 0 4b 0 1066 1f 783f 5f 578d 1 e1ff 3d 20 0 "⟩,
  ⟨["dsrt", "deseret"], some
    "10400 4f "⟩,
  ⟨["deva", "devanagari"], some
    "900 50 3 e 1 19 9f5f 1f 71ff 9 "⟩,
  ⟨["diak", "divesakuru"], some
    "11900 6 1 0 1 7 0 1 0 1d 0 1 1 b 8 9 "⟩,
  ⟨["dogr", "dogra"], some
    "11800 3b "⟩,
  ⟨["dupl", "duployan"], some
    "1bc00 6a 4 c 2 8 6 9 1 3 "⟩,
  ⟨["egyp", "egyptianhieroglyphs"], some
    "13000 455 9 f9a "⟩,
  ⟨["elba", "elbasan"], some
    "10500 27 "⟩,
  ⟨["elym", "elymaic"], some
    "10fe0 16 "⟩,
  ⟨["ethi", "ethiopic"], some
    "1200 48 0 3 1 6 0 0 0 3 1 28 0 3 1 20 0 3 1 6 0 0 0 3 1 e 0 38 0 3 1 42 1 1f 2 19 19e5 16 8
6 0 6 0 6 0 6 0 6 0 6 0 6 0 6 7d21 5 1 5 1 5 8 6 0 6 13cb0 6 0 3 0 1 0 e "⟩,
  ⟨["gara", "garay"], some
    "10d40 25 2 1c 7 1 "⟩,
  ⟨["geor", "georgian"], some
    "10a0 25 0 0 4 0 1 2a 0 3 b8f 2a 1 2 103f 25 0 0 4 0 "⟩,
  ⟨["glag", "glagolitic"], some
    "2c00 5f 1b39f 6 0 10 1 6 0 1 0 4 "⟩,
  ⟨["goth", "gothic"], some
    "10330 1a "⟩,
  ⟨["gran", "grantha"], some
    "11300 3 0 7 1 1 1 15 0 6 0 1 0 4 1 8 1 1 1 2 1 0 5 0 4 6 1 6 2 4 "⟩,
  ⟨["grek", "greek"], some
    "370 3 0 2 1 3 0 0 3 0 0 0 0 2 0 0 0 13 0 3e d f 1925 4 31 4 3 4 53 0 13f 15 1 5 1 25 1 5 1
7 0 0 0 0 0 0 0 1e 1 34 0 e 0 d 1 5 0 12 1 2 0 8 126 0 8a3d 0 55d9 4e 10 0 d05e 45 "⟩,
  ⟨["gujr", "gujarati"], some
    "a81 2 0 8 0 2 0 15 0 6 0 1 0 4 1 9 0 2 0 2 1 0 e 3 1 b 6 6 "⟩,
  ⟨["gong", "gunjalagondi"], some
    "11d60 5 0 1 0 24 0 1 0 5 6 9 "⟩,
  ⟨["guru", "gurmukhi"], some
    "a01 2 0 5 3 1 1 15 0 6 0 1 0 1 0 1 1 0 0 4 3 1 1 2 2 0 6 3 0 0 6 10 "⟩,
  ⟨["gukh", "gurungkhema"], some
    "16100 39 "⟩,
  ⟨["hani", "han"], some
    "2e80 19 0 58 b d5 2e 0 0 0 18 8 d 3 3c3 19bf 3f 51ff 58ff 16d 1 69 7507 1 b 6 9008 a6df 1f
111d 1 168d 1 1d30 e 26d 9a1 21d 5e1 134a 4 2129 "⟩,
  ⟨["hang", "hangul"], some
    "1100 ff 1e2d 1 100 5d 70 1e 40 1e 76e0 1c 282 2ba3 b 16 3 30 27a3 1e 2 5 1 5 1 5 1 2 "⟩,
  ⟨["rohg", "hanifirohingya"], some
    "10d00 27 7 9 "⟩,
  ⟨["hano", "hanunoo"], some
    "1720 14 "⟩,
  ⟨["hatr", "hatran"], some
    "108e0 12 0 1 4 4 "⟩,
  ⟨["hebr", "hebrew"], some
    "591 36 7 1a 3 5 f527 19 0 4 0 0 0 1 0 1 0 9 "⟩,
  ⟨["hira", "hiragana"], some
    "3041 55 5 2 17f60 11e 11 0 1c 2 40ac 0 "⟩,
  ⟨["armi", "imperialaramaic"], some
    "10840 15 0 8 "⟩,
  ⟨["zinh", "inherited", "qaai"], some
    "300 6f 114 1 1c3 a 19 0 2df 3 115a 2d 1 b 1e3 2 0 c 0 6 3 0 5 0 2 1 c5 3f 20b 1 c1 20 f38 3
6a 1 cd64 f f d 3ce 0 e1 0 1059 0 bbc3 2d 1 16 21f 2 10 7 1 6 1d 3 c2f51 ef "⟩,
  ⟨["phli", "inscriptionalpahlavi"], some
    "10b60 12 4 7 "⟩,
  ⟨["prti", "inscriptionalparthian"], some
    "10b40 15 1 7 "⟩,
  ⟨["java", "javanese"], some
    "a980 4d 1 9 3 1 "⟩,
  ⟨["kthi", "kaithi"], some
    "11080 42 9 0 "⟩,
  ⟨["knda", "kannada"], some
    "c80 c 0 2 0 16 0 9 0 4 1 8 0 2 0 3 6 1 4 2 0 3 1 9 0 2 "⟩,
  ⟨["kana", "katakana"], some
    "30a1 59 1 2 ef f cf 2e 0 57 cc0d 9 0 2c b051 3 0 6 0 1 0 0 11e 2 31 0 d 3 "⟩,
  ⟨["hrkt", "katakanaorhiragana"], none⟩,
  ⟨["kawi"], some
    "11f00 10 0 28 2 1c "⟩,
  ⟨["kali", "kayahli"], some
    "a900 2d 0 0 "⟩,
  ⟨["khar", "kharoshthi"], some
    "10a00 3 0 1 4 7 0 2 0 1c 1 2 3 9 6 8 "⟩,
  ⟨["kits", "khitansmallscript"], some
    "16fe4 0 1b1a 1d5 28 0 "⟩,
  ⟨["khmr", "khmer"], some
    "1780 5d 1 9 5 9 1e5 1f "⟩,
  ⟨["khoj", "khojki"], some
    "11200 11 0 2e "⟩,
  ⟨["sind", "khudawadi"], some
    "112b0 3a 4 9 "⟩,
  ⟨["krai", "kiratrai"], some
    "16d40 39 "⟩,
  ⟨["laoo", "lao"], some
    "e81 1 0 0 0 4 0 17 0 0 0 16 1 4 0 0 0 6 0 9 1 3 "⟩,
  ⟨["latn", "latin"], some
    "41 19 5 19 2e 0 e 0 4 16 0 1e 0 1c0 26 4 1a1a 25 5 30 4 3 4 c 0 45 40 ff 170 0 c 0 f c 8c 1
5 0 1a 0 10 28 ad6 1f 7aa1 65 2 51 13 e 32f 2a 0 8 0 3 4f95 6 419 19 5 19 824 5 0 29 0 8 d744 1e 5
5 "⟩,
  ⟨["lepc", "lepcha"], some
    "1c00 37 2 e 2 2 "⟩,
  ⟨["limb", "limbu"], some
    "1900 1e 0 b 3 b 3 0 2 b "⟩,
  ⟨["lina", "lineara"], some
    "10600 136 8 15 9 7 "⟩,
  ⟨["linb", "linearb"], some
    "10000 b 0 19 0 12 0 1 0 e 1 d 21 7a "⟩,
  ⟨["lisu"], some
    "a4d0 2f 7aaf 0 "⟩,
  ⟨["lyci", "lycian"], some
    "10280 1c "⟩,
  ⟨["lydi", "lydian"], some
    "10920 19 4 0 "⟩,
  ⟨["mahj", "mahajani"], some
    "11150 26 "⟩,
  ⟨["maka", "makasar"], some
    "11ee0 18 "⟩,
  ⟨["mlym", "malayalam"], some
    "d00 c 0 2 0 32 0 2 0 5 3 f 1 19 "⟩,
  ⟨["mand", "mandaic"], some
    "840 1b 1 0 "⟩,
  ⟨["mani", "manichaean"], some
    "10ac0 26 3 b "⟩,
  ⟨["marc", "marchen"], some
    "11c70 1f 1 15 0 d "⟩,
  ⟨["gonm", "masaramgondi"], some
    "11d00 6 0 1 0 2b 2 0 0 1 0 8 7 9 "⟩,
  ⟨["medf", "medefaidrin"], some
    "16e40 5a "⟩,
  ⟨["mtei", "meeteimayek"], some
    "aae0 16 c8 2d 1 9 "⟩,
  ⟨["mend", "mendekikakui"], some
    "1e800 c4 1 f "⟩,
  ⟨["merc", "meroiticcursive"], some
    "109a0 17 3 13 1 2d "⟩,
  ⟨["mero", "meroitichieroglyphs"], some
    "10980 1f "⟩,
  ⟨["plrd", "miao"], some
    "16f00 4a 3 38 6 10 "⟩,
  ⟨["modi"], some
    "11600 44 a 9 "⟩,
  ⟨["mong", "mongolian"], some
    "1800 1 1 0 0 13 5 58 6 2a fdb4 c "⟩,
  ⟨["mroo", "mro"], some
    "16a40 1e 0 9 3 1 "⟩,
  ⟨["mult", "multani"], some
    "11280 6 0 0 0 3 0 e 0 a "⟩,
  ⟨["mymr", "myanmar"], some
    "1000 9f 993f 1e 60 1f 6c4f 13 "⟩,
  ⟨["nbat", "nabataean"], some
    "10880 1e 7 8 "⟩,
  ⟨["nagm", "nagmundari"], some
    "1e4d0 29 "⟩,
  ⟨["nand", "nandinagari"], some
    "119a0 7 1 2d 1 a "⟩,
  ⟨["talu", "newtailue"], some
    "1980 2b 3 19 5 a 2 1 "⟩,
  ⟨["newa"], some
    "11400 5b 0 4 "⟩,
  ⟨["nkoo", "nko"], some
    "7c0 3a 1 2 "⟩,
  ⟨["nshu", "nushu"], some
    "16fe1 0 418d 18b "⟩,
  ⟨["hmnp", "nyiakengpuachuehmong"], some
    "1e100 2c 2 d 1 9 3 1 "⟩,
  ⟨["ogam", "ogham"], some
    "1680 1c "⟩,
  ⟨["olck", "olchiki"], some
    "1c50 2f "⟩,
  ⟨["onao", "olonal"], some
    "1e5d0 2a 3 0 "⟩,
  ⟨["hung", "oldhungarian"], some
    "10c80 32 c 32 6 5 "⟩,
  ⟨["ital", "olditalic"], some
    "10300 23 8 2 "⟩,
  ⟨["narb", "oldnortharabian"], some
    "10a80 1f "⟩,
  ⟨["perm", "oldpermic"], some
    "10350 2a "⟩,
  ⟨["xpeo", "oldpersian"], some
    "103a0 23 3 d "⟩,
  ⟨["sogo", "oldsogdian"], some
    "10f00 27 "⟩,
  ⟨["sarb", "oldsoutharabian"], some
    "10a60 1f "⟩,
  ⟨["orkh", "oldturkic"], some
    "10c00 48 "⟩,
  ⟨["ougr", "olduyghur"], some
    "10f70 19 "⟩,
  ⟨["orya", "oriya"], some
    "b01 2 0 7 1 1 1 15 0 6 0 1 0 4 1 8 1 1 1 2 6 2 3 1 0 4 1 11 "⟩,
  ⟨["osge", "osage"], some
    "104b0 23 3 23 "⟩,
  ⟨["osma", "osmanya"], some
    "10480 1d 1 9 "⟩,
  ⟨["hmng", "pahawhhmong"], some
    "16b00 45 9 9 0 6 0 14 4 12 "⟩,
  ⟨["palm", "palmyrene"], some
    "10860 1f "⟩,
  ⟨["pauc", "paucinhau"], some
    "11ac0 38 "⟩,
  ⟨["phag", "phagspa"], some
    "a840 37 "⟩,
  ⟨["phnx", "phoenician"], some
    "10900 1b 2 0 "⟩,
  ⟨["phlp", "psalterpahlavi"], some
    "10b80 11 6 3 b 6 "⟩,
  ⟨["rjng", "rejang"], some
    "a930 23 a 0 "⟩,
  ⟨["runr", "runic"], some
    "16a0 4a 2 a "⟩,
  ⟨["samr", "samaritan"], some
    "800 2d 1 e "⟩,
  ⟨["saur", "saurashtra"], some
    "a880 45 7 b "⟩,
  ⟨["shrd", "sharada"], some
    "11180 5f 97f 7 "⟩,
  ⟨["shaw", "shavian"], some
    "10450 2f "⟩,
  ⟨["sidd", "siddham"], some
    "11580 35 1 25 "⟩,
  ⟨["sidt", "sidetic"], some
    "10940 19 "⟩,
  ⟨["sgnw", "signwriting"], some
    "1d800 28b e 4 0 e "⟩,
  ⟨["sinh", "sinhala"], some
    "d81 2 0 11 2 17 0 8 0 0 1 6 2 0 3 5 0 0 0 7 5 9 1 2 103eb 13 "⟩,
  ⟨["sogd", "sogdian"], some
    "10f30 29 "⟩,
  ⟨["sora", "sorasompeng"], some
    "110d0 18 6 9 "⟩,
  ⟨["soyo", "soyombo"], some
    "11a50 52 "⟩,
  ⟨["sund", "sundanese"], some
    "1b80 3f ff 7 "⟩,
  ⟨["sunu", "sunuwar"], some
    "11bc0 21 d 9 "⟩,
  ⟨["sylo", "sylotinagri"], some
    "a800 2c "⟩,
  ⟨["syrc", "syriac"], some
    "700 d 0 3b 1 2 10f a "⟩,
  ⟨["tglg", "tagalog"], some
    "1700 15 8 0 "⟩,
  ⟨["tagb", "tagbanwa"], some
    "1760 c 0 2 0 1 "⟩,
  ⟨["tale", "taile"], some
    "1950 1d 1 4 "⟩,
  ⟨["lana", "taitham"], some
    "1a20 3e 0 1c 1 a 5 9 5 d "⟩,
  ⟨["tavt", "taiviet"], some
    "aa80 42 17 4 "⟩,
  ⟨["tayo", "taiyo"], some
    "1e6c0 1e 0 15 7 1 "⟩,
  ⟨["takr", "takri"], some
    "11680 39 5 9 "⟩,
  ⟨["taml", "tamil"], some
    "b82 1 0 5 2 2 0 3 2 1 0 0 0 1 2 1 2 2 2 b 3 4 2 2 0 3 1 0 5 0 d 14 113c4 31 c 0 "⟩,
  ⟨["tnsa", "tangsa"], some
    "16a70 4e 0 9 "⟩,
  ⟨["tang", "tangut"], some
    "16fe0 0 1e 1aff 1ff 1e 60 72 "⟩,
  ⟨["telu", "telugu"], some
    "c00 c 0 2 0 16 0 f 1 8 0 2 0 3 6 1 0 2 0 1 1 3 1 9 6 8 "⟩,
  ⟨["thaa", "thaana"], some
    "780 31 "⟩,
  ⟨["thai"], some
    "e01 39 4 1b "⟩,
  ⟨["tibt", "tibetan"], some
    "f00 47 0 23 3 26 0 23 0 e 0 6 3 1 "⟩,
  ⟨["tfng", "tifinagh"], some
    "2d30 37 6 1 d 0 "⟩,
  ⟨["tirh", "tirhuta"], some
    "11480 47 7 9 "⟩,
  ⟨["todr", "todhri"], some
    "105c0 33 "⟩,
  ⟨["tols", "tolongsiki"], some
    "11db0 2b 3 9 "⟩,
  ⟨["toto"], some
    "1e290 1e "⟩,
  ⟨["tutg", "tulutigalari"], some
    "11380 9 0 0 1 0 0 25 0 9 0 0 1 0 0 3 0 9 0 1 7 1 "⟩,
  ⟨["ugar", "ugaritic"], some
    "10380 1d 0 0 "⟩,
  ⟨["zzzz", "unknown"], none⟩,
  ⟨["vaii", "vai"], some
    "a500 12b "⟩,
  ⟨["vith", "vithkuqi"], some
    "10570 a 0 e 0 6 0 1 0 a 0 e 0 6 0 1 "⟩,
  ⟨["wcho", "wancho"], some
    "1e2c0 39 4 0 "⟩,
  ⟨["wara", "warangciti"], some
    "118a0 52 b 0 "⟩,
  ⟨["yezi", "yezidi"], some
    "10e80 29 0 2 1 1 "⟩,
  ⟨["yiii", "yi"], some
    "a000 48c 2 36 "⟩,
  ⟨["zanb", "zanabazarsquare"], some
    "11a00 47 "⟩]

end ParamTemplate.Unicode
