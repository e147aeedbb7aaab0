/-
**Script extensions.**

The characters used with a script, where they are others than the characters of the script itself;
version 17 of the character database.
-/

import ParamTemplate.Unicode.NamedSet

set_option autoImplicit false

namespace ParamTemplate.Unicode

/-- The sets of the script extensions that differ from the script. -/
def scriptExtensions : List NamedSet := [
  ⟨["adlm", "adlam"], some
    "61f 0 1f 0 1a0d 0 df0 0 1babd 4b 3 9 3 1 "⟩,
  ⟨["arab", "arabic"], some
    "600 4 0 d6 0 21 4f 2f ef 21 4 4a 0 1c 174e 0 df0 0 cd0d 27f 1f f 6f 4 0 86 3e2 1b b63 1e 42
5 7 8 20 5 deff 3 0 1a 0 1 0 0 1 0 0 9 0 3 0 0 0 0 5 0 3 0 0 0 0 0 0 2 0 1 0 0 1 0 0 0 0 0 0 0 0 0
0 1 0 0 1 3 0 6 0 3 0 3 0 0 0 9 0 10 4 2 0 4 0 10 33 1 "⟩,
  ⟨["armn", "armenian"], some
    "308 0 227 25 1 31 1 2 f582 4 "⟩,
  ⟨["avst", "avestan"], some
    "b7 0 2d77 1 dccd 35 2 6 "⟩,
  ⟨["beng", "bengali"], some
    "2bc 0 693 1 10 1 19 3 0 7 1 1 1 15 0 6 0 0 2 3 1 8 1 1 1 3 7 0 3 1 0 4 1 18 12d0 0 0 0 1 1
0 0 7 0 7 0 1 0 3 0 1 2 8bf8 0 "⟩,
  ⟨["bopo", "bopomofo"], some
    "2c7 0 0 2 c 0 f 1 2d14 2 3 9 0 c 9 3 1 0 5 0 c2 0 8 2a 6f 1f cc84 1 119 4 "⟩,
  ⟨["bugi", "buginese"], some
    "1a00 1b 1 1 8fae 0 "⟩,
  ⟨["buhd", "buhid"], some
    "1735 1 8 13 "⟩,
  ⟨["cari", "carian"], some
    "b7 0 1fa1 0 1 0 dd2 0 d46d 30 "⟩,
  ⟨["aghb", "caucasianalbanian"], some
    "304 0 2b 0 2b 0 101d0 33 a 0 "⟩,
  ⟨["cakm", "chakma"], some
    "9e6 9 64f 9 100b5 34 0 11 "⟩,
  ⟨["cher", "cherokee"], some
    "300 2 0 0 5 1 15 1 a 1 106d 55 1 5 9771 4f "⟩,
  ⟨["zyyy", "common"], some
    "0 40 19 5 19 2e 0 b 0 1 0 4 16 0 1e 0 1c0 2 0 9 0 0 2 0 0 8 0 0 0 5 4 4 1 13 7d 0 5 0 0 0
27c 0 d6 0 203 0 55b 0 194 3 1026 b 1 20 0 1e 0 9 0 1 0 6 0 a 2 a 0 e 10 21 3d 25 0 2 1 5 0 1a 0
10 28 2 3 299 15 a 14 39f ff 273 1 89 1ff 16 0 17 1 9 0 3 0 0 0 19 1a1 0 2 0 c 0 c 0 14 0 210 17
1e 0 30 e b 3 a0 9 4 5f 1e 0 19bf 3f 5907 19 65 2 3cf 0 d 1 52a3 9 15 14 1 b 0 12 0 3 92 0 0 1f 19
5 19 5 7e 6 0 6 9 4 191 c 32 2c ca02 fc 2 1b3 5 16 e 10 5e 73 3b f5 9 26 1 3d 2 10 7 1 6 1d 3 3c
d4 13 b 13 b 56 1a 6 86 54 0 46 0 1 1 0 1 1 1 3 0 b 0 0 0 6 0 40 0 3 1 7 0 6 0 1b 0 3 0 4 0 0 2 6
0 153 1 123 1 31 1470 43 4b 3c 2c1 2b 3 63 b e 1 e 0 e 0 24 9 ad 37 19 0 1 c 2b 3 8 16 5 99 3d8 2
10 2 c 2 d9 5 b 3 0 e b 3 37 7 9 5 27 7 1d 1 b 3 1 d 8 26 157 7 d 1 c 2 a 2 38 0 0 3 f 1 b 3 9 6
92 0 66 c0405 0 1d 5f "⟩,
  ⟨["copt", "coptic", "qaac"], some
    "b7 0 247 0 2 1 0 0 6b 1 6b d 288f 73 4 6 116 0 d4c7 1b "⟩,
  ⟨["cprt", "cypriot"], some
    "10100 2 3 2c 2 8 6bf 5 1 0 0 2b 0 1 2 0 1 0 "⟩,
  ⟨["cpmn", "cyprominoan"], some
    "10100 1 2e8d 62 "⟩,
  ⟨["cyrl", "cyrillic"], some
    "2bc 0 42 2 0 0 0 0 0 0 1 0 4 0 ed 12f 174f a 9f 0 4b 0 7e 0 fe6 1f 42 0 77fb 5f 578d 1 e1ff
3d 20 0 "⟩,
  ⟨["deva", "devanagari"], some
    "2bc 0 642 52 1 2a 134f 26 0 1 3f5 0 873e 9 a5 1f 71ff 9 "⟩,
  ⟨["dogr", "dogra"], some
    "964 b 9ebf 9 6fc5 3b "⟩,
  ⟨["dupl", "duployan"], some
    "b7 0 24e 1 0 0 17 1 2b16 0 18dc2 6a 4 c 2 8 6 9 1 7 "⟩,
  ⟨["elba", "elbasan"], some
    "b7 0 24c 0 101f9 27 "⟩,
  ⟨["ethi", "ethiopic"], some
    "30e 0 ef0 48 0 3 1 6 0 0 0 3 1 28 0 3 1 20 0 3 1 6 0 0 0 3 1 e 0 38 0 3 1 42 1 1f 2 19 19e5
16 8 6 0 6 0 6 0 6 0 6 0 6 0 6 0 6 7d21 5 1 5 1 5 8 6 0 6 13cb0 6 0 3 0 1 0 e "⟩,
  ⟨["gara", "garay"], some
    "60c 0 d 0 2 0 1071f 25 2 1c 7 1 "⟩,
  ⟨["geor", "georgian"], some
    "b7 0 4d0 0 b15 25 0 0 4 0 1 2f b8f 2a 1 2 399 0 ca4 25 0 0 4 0 102 0 "⟩,
  ⟨["glag", "glagolitic"], some
    "b7 0 24a 0 0 0 17d 0 1 0 100 0 b70 0 f5d 0 ba4 5f 1e2 0 782a 0 1398f 6 0 10 1 6 0 1 0 4 "⟩,
  ⟨["goth", "gothic"], some
    "b7 0 24b 1 1 0 27 0 fffd 1a "⟩,
  ⟨["gran", "grantha"], some
    "951 1 10 1 27f d 10db 0 0 1 1d 2 2 1 3f5 0 f20e 3 0 7 1 1 1 15 0 6 0 1 0 4 0 9 1 1 1 2 1 0
5 0 4 6 1 6 2 4 c5a 1 0 0 "⟩,
  ⟨["grek", "greek"], some
    "b7 0 247 1 1 0 0 0 0 0 9 0 2d 0 1 0 29 7 1 3 0 0 3 0 0 0 0 2 0 0 0 13 0 3e d f 1925 4 31 4
3 4 53 2 13d 15 1 5 1 25 1 5 1 7 0 0 0 0 0 0 0 1e 1 34 0 e 0 d 1 5 0 12 1 2 0 8 5d 0 c7 0 8a3d 0
55d9 4e 10 0 d05e 45 "⟩,
  ⟨["gujr", "gujarati"], some
    "951 1 10 1 11a 2 0 8 0 2 0 15 0 6 0 1 0 4 1 9 0 2 0 2 1 0 e 3 1 b 6 6 9d2f 9 "⟩,
  ⟨["gong", "gunjalagondi"], some
    "b7 0 8ab 1 113f9 5 0 1 0 24 0 1 0 5 6 9 "⟩,
  ⟨["guru", "gurmukhi"], some
    "951 1 10 1 9a 2 0 5 3 1 1 15 0 6 0 1 0 1 0 1 1 0 0 4 3 1 1 2 2 0 6 3 0 0 6 10 9db8 9 "⟩,
  ⟨["gukh", "gurungkhema"], some
    "965 0 15799 39 "⟩,
  ⟨["hani", "han"], some
    "b7 0 2dc7 19 0 58 b d5 19 f 0 2 0 c 0 c 0 c 1 0 5 8 ba 0 93 f 1f 25 8 0 2f 27 37 30 e b 32
0 57 18 9 4 5f 1e 0 19bf 3f 51ff 6ff 7 51f7 16d 1 69 36a 1 119 4 707b 1 b 6 6368 11 1edd 1 dad
a6df 1f 111d 1 168d 1 1d30 e 26d 9a1 21d 5e1 134a 4 2129 "⟩,
  ⟨["hang", "hangul"], some
    "1100 ff 1e00 2 3 9 0 c d 2 5 0 c2 0 34 5d 70 1e 40 1e 76e0 1c 282 2ba3 b 16 3 30 2648 1 119
4 39 1e 2 5 1 5 1 5 1 2 "⟩,
  ⟨["rohg", "hanifirohingya"], some
    "60c 0 d 0 2 0 1f 0 92 0 1062a 27 7 9 "⟩,
  ⟨["hano", "hanunoo"], some
    "1720 16 "⟩,
  ⟨["hebr", "hebrew"], some
    "307 1 287 36 7 1a 3 5 f527 19 0 4 0 0 0 1 0 1 0 9 "⟩,
  ⟨["hira", "hiragana"], some
    "3001 2 3 9 0 c f 5 0 0 3 1 2 55 1 7 59 1 cd47 1 119 4 9 0 2c 1 b060 11e 11 0 1c 2 40ac 0 "⟩,
  ⟨["zinh", "inherited", "qaai"], some
    "30f 0 1 0 0 e 2 6 1 0 1 f 0 1 0 11 0 4 0 3 5ef 1 115a 2d 1 b 2d5 35 0 0 0 4 20b 1 c1 1f
dd0f f f d 3ce 0 cd01 2d 1 16 21f 2 10 7 1 6 1d 3 c2f51 ef "⟩,
  ⟨["java", "javanese"], some
    "a980 4d 0 a 3 1 "⟩,
  ⟨["kthi", "kaithi"], some
    "966 9 24c0 0 79fd 9 6845 42 9 0 "⟩,
  ⟨["knda", "kannada"], some
    "951 1 10 1 319 c 0 2 0 16 0 9 0 4 1 8 0 2 0 3 6 1 4 2 0 3 1 9 0 2 fdb 0 0 1 5 0 16 0 0 0
8b3a 5 "⟩,
  ⟨["kana", "katakana"], some
    "305 0 1c 0 2cdc 2 3 9 0 c f 5 0 0 3 1 5a 3 2 5f ef f cf 2e 0 57 caec 1 119 3e b04f 3 0 6 0
1 0 0 11e 2 31 0 d 3 "⟩,
  ⟨["hrkt", "katakanaorhiragana"], none⟩,
  ⟨["kali", "kayahli"], some
    "a900 2f "⟩,
  ⟨["khoj", "khojki"], some
    "ae6 9 9d3f 9 69c5 11 0 2e "⟩,
  ⟨["sind", "khudawadi"], some
    "964 1 9ec9 9 6a75 3a 4 9 "⟩,
  ⟨["latn", "latin"], some
    "41 19 5 19 2e 0 b 0 1 0 4 16 0 1e 0 1c0 2 0 9 0 0 2 0 0 8 0 0 0 5 4 1a e 0 1 0 0 e 2 6 1 0
1 25 0 4 0 3 c 114 1 4c9 1 7a7 0 c03 25 5 30 4 3 4 c 0 45 38 0 6 ff 12e 0 40 0 c 0 f c 52 0 38 1 5
0 1a 0 10 28 ad6 1f 196 0 78e7 7 19 65 2 51 13 e 12d 0 200 2a 0 8 0 3 4f95 6 419 19 5 19 824 5 0
29 0 8 d744 1e 5 5 "⟩,
  ⟨["limb", "limbu"], some
    "965 0 f99 1e 0 b 3 b 3 0 2 b "⟩,
  ⟨["lina", "lineara"], some
    "10107 2c 4cb 136 8 15 9 7 "⟩,
  ⟨["linb", "linearb"], some
    "10000 b 0 19 0 12 0 1 0 e 1 d 21 7a 4 2 3 2c 2 8 "⟩,
  ⟨["lisu"], some
    "2bc 0 f 0 2d3b 1 74c3 2f 7aaf 0 "⟩,
  ⟨["lyci", "lycian"], some
    "205a 0 e224 1c "⟩,
  ⟨["lydi", "lydian"], some
    "b7 0 2d78 0 daed 19 4 0 "⟩,
  ⟨["mahj", "mahajani"], some
    "b7 0 8ab b 9ebf 9 6915 26 "⟩,
  ⟨["mlym", "malayalam"], some
    "951 1 10 1 399 c 0 2 0 32 0 2 0 5 3 f 1 19 f59 0 16 0 8b3c 2 "⟩,
  ⟨["mand", "mandaic"], some
    "640 0 1fe 1b 1 0 "⟩,
  ⟨["mani", "manichaean"], some
    "640 0 1047e 26 3 b "⟩,
  ⟨["gonm", "masaramgondi"], some
    "964 1 11399 6 0 1 0 2b 2 0 0 1 0 8 7 9 "⟩,
  ⟨["mero", "meroitichieroglyphs"], some
    "205d 0 e921 1f "⟩,
  ⟨["modi"], some
    "a830 9 6dc5 44 a 9 "⟩,
  ⟨["mong", "mongolian"], some
    "1800 19 5 58 6 2a 783 0 fd0 1 4 3 e653 c "⟩,
  ⟨["mult", "multani"], some
    "a66 9 1080f 6 0 0 0 3 0 e 0 a "⟩,
  ⟨["mymr", "myanmar"], some
    "1000 9f 988d 0 b0 1e 60 1f 6c4f 13 "⟩,
  ⟨["nand", "nandinagari"], some
    "951 0 11 1 37f 9 ff8 0 7 0 6 0 8b34 5 7169 7 1 2d 1 a "⟩,
  ⟨["newa"], some
    "951 1 1381 0 0 1 8 0 5 0 0 0 0 0 f711 5b 0 4 "⟩,
  ⟨["nkoo", "nko"], some
    "60c 0 d 0 2 0 19f 3a 1 2 f53d 1 "⟩,
  ⟨["onao", "olonal"], some
    "964 1 1dc69 2a 3 0 "⟩,
  ⟨["hung", "oldhungarian"], some
    "205a 0 1 0 dd2 0 e 0 de3d 32 c 32 6 5 "⟩,
  ⟨["perm", "oldpermic"], some
    "b7 0 247 0 4 2 9 0 16e 0 fecb 2a "⟩,
  ⟨["orkh", "oldturkic"], some
    "205a 0 dd4 0 ddce 48 "⟩,
  ⟨["ougr", "olduyghur"], some
    "640 0 104b0 0 47c 19 "⟩,
  ⟨["orya", "oriya"], some
    "951 1 10 1 19a 2 0 7 1 1 1 15 0 6 0 1 0 4 1 8 1 1 1 2 6 2 3 1 0 4 1 11 1161 0 16 0 "⟩,
  ⟨["osge", "osage"], some
    "301 0 1 0 5 0 4b 0 10156 23 3 23 "⟩,
  ⟨["phag", "phagspa"], some
    "1802 1 0 0 828 0 fd1 0 783c 37 "⟩,
  ⟨["phlp", "psalterpahlavi"], some
    "640 0 1053e 11 6 3 b 6 "⟩,
  ⟨["runr", "runic"], some
    "16a0 58 "⟩,
  ⟨["samr", "samaritan"], some
    "800 2d 1 e 25f1 0 "⟩,
  ⟨["shrd", "sharada"], some
    "951 0 1384 0 0 0 1 1 1 0 8 0 1 0 8b41 5 1 0 6946 5f 97f 7 "⟩,
  ⟨["shaw", "shavian"], some
    "b7 0 10397 2f "⟩,
  ⟨["sinh", "sinhala"], some
    "964 1 41a 2 0 11 2 17 0 8 0 0 1 6 2 0 3 5 0 0 0 7 5 9 1 2 efc 0 f4ed 13 "⟩,
  ⟨["sogd", "sogdian"], some
    "640 0 108ee 29 "⟩,
  ⟨["sunu", "sunuwar"], some
    "300 1 0 0 8 0 1 0 1b 0 2 0 1188d 21 d 9 "⟩,
  ⟨["sylo", "sylotinagri"], some
    "964 1 7f 9 9e0f 2c "⟩,
  ⟨["syrc", "syriac"], some
    "303 1 1 1 0 0 17 2 6 1 0 1 2d9 0 d 1 1 0 1f 0 9 a 19 0 8e d 0 3b 1 2 10f a 158c 0 0 0 "⟩,
  ⟨["tglg", "tagalog"], some
    "1700 15 8 0 14 1 "⟩,
  ⟨["tagb", "tagbanwa"], some
    "1735 1 28 c 0 2 0 1 "⟩,
  ⟨["tale", "taile"], some
    "300 1 4 1 2 0 d32 9 905 1d 1 4 "⟩,
  ⟨["takr", "takri"], some
    "964 1 9ec9 9 6e45 39 5 9 "⟩,
  ⟨["taml", "tamil"], some
    "951 1 10 1 21b 1 0 5 2 2 0 3 2 1 0 0 0 1 2 1 2 2 2 b 3 4 2 2 0 3 1 0 5 0 d 14 10de 0 8c17 0
6a0c 0 0 0 36 1 c82 31 c 0 "⟩,
  ⟨["tang", "tangut"], some
    "2ff0 f 1ee 0 13def 0 1e 1aff 1ff 1e 60 72 "⟩,
  ⟨["telu", "telugu"], some
    "951 1 10 1 299 c 0 2 0 16 0 f 1 8 0 2 0 3 6 1 0 2 0 1 1 3 1 9 6 8 1054 1 0 0 0 0 16 0 "⟩,
  ⟨["thaa", "thaana"], some
    "60c 0 d 1 1 0 3f 9 115 31 f63f 0 9 0 "⟩,
  ⟨["thai"], some
    "2bc 0 19 0 2a 0 2c 0 ace 39 4 1b "⟩,
  ⟨["tibt", "tibetan"], some
    "f00 47 0 23 3 26 0 23 0 e 0 6 3 1 202c 3 "⟩,
  ⟨["tfng", "tifinagh"], some
    "302 0 0 0 0 3 18 0 2a0b 37 6 1 d 0 "⟩,
  ⟨["tirh", "tirhuta"], some
    "951 1 10 1 136e 0 b 0 e 0 8b3c 9 6c45 47 7 9 "⟩,
  ⟨["todr", "todhri"], some
    "301 0 1 0 1 0 8 0 0 0 49 0 10260 33 "⟩,
  ⟨["toto"], some
    "2bc 0 1dfd2 1e "⟩,
  ⟨["tutg", "tulutigalari"], some
    "ce6 9 1001 0 0 0 8b3a 5 ba 0 6a8d 9 0 0 1 0 0 25 0 9 0 0 1 0 0 3 0 9 0 1 7 1 "⟩,
  ⟨["zzzz", "unknown"], none⟩,
  ⟨["yezi", "yezidi"], some
    "60c 0 d 0 2 0 3f 9 10815 29 0 2 1 1 "⟩,
  ⟨["yiii", "yi"], some
    "3001 1 4 9 1 7 de 0 6f03 48c 2 36 5a99 4 "⟩]

end ParamTemplate.Unicode
