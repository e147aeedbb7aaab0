/-
**The three classes that expressions name by one letter, and letters and blanks.**

Decimal digits, blanks and word characters, version 17 of the character database; besides them the
letters and the numbers, which may stand in the names of groups.

Main definitions:

* `Unicode.digits`, `Unicode.blanks`, `Unicode.words` — the three classes;
* `Unicode.isBlank` — the blanks again, as a test on characters;
* `Unicode.isAlphabetic`, `Unicode.isAlphanumeric` — letters, and letters with numbers.
-/

import ParamTemplate.Text.CharSet

set_option autoImplicit false

namespace ParamTemplate.Unicode

/-- The decimal digits of all scripts. -/
def digits : CharSet := CharSet.decode
    "30 9 625 9 85 9 c5 9 19b 9 75 9 75 9 75 9 75 9 75 9 75 9 75 9 75 9 75 9 5f 9 75 9 45 9 115
9 45 9 745 9 25 9 12b 9 7f 9 a5 9 5 9 b5 9 55 9 85 9 5 9 89c5 9 2a5 9 25 9 c5 9 15 9 55 9 195 9
5315 9 585 9 885 9 5 9 31b 9 7f 9 3b 9 8f 9 115 9 155 9 75 9 175 9 65 9 5 13 4b 9 1a5 9 65 9 295 9
55 9 f5 9 45 9 35 9 165 9 41d5 9 925 9 55 9 85 9 215 9 5f75 9 ad3 31 93f 9 1a5 9 1f5 9 f6 9 354 9
1295 9 "

/-- The blanks: the characters with the property White_Space. -/
def blanks : CharSet := CharSet.decode
    "9 4 11 0 63 0 19 0 15de 0 97e a 1c 1 4 0 2e 0 f9f 0 "

/-- The word characters: letters, marks, decimal digits, connecting punctuation and the two
joiners. -/
def words : CharSet := CharSet.decode
    "30 9 6 19 3 0 0 19 2e 0 9 0 3 0 4 16 0 1e 0 1c9 3 b d 4 6 0 0 0 10 74 0 1 1 3 0 0 5 0 0 2 0
0 0 13 0 52 0 8a 0 ac 0 25 1 0 5 28 7 2c 0 0 0 1 0 1 0 0 7 1a 3 3 1c a 4 49 3 65 0 7 1 9 0 12 1 0
f 3a 1 64 d 35 3 0 1 0 1 2d 11 1b 3 a 4 17 0 6 6 4a 0 80 1 9 0 12 0 7 1 1 1 15 0 6 0 0 2 3 1 8 1 1
1 3 7 0 3 1 0 4 1 b 9 0 0 0 1 2 0 5 3 1 1 15 0 6 0 1 0 1 0 1 1 0 0 4 3 1 1 2 2 0 6 3 0 0 6 f a 2 0
8 0 2 0 15 0 6 0 1 0 4 1 9 0 2 0 2 1 0 e 3 1 9 8 6 0 2 0 7 1 1 1 15 0 6 0 1 0 4 1 8 1 1 1 2 6 2 3
1 0 4 1 9 0 0 f 1 0 5 2 2 0 3 2 1 0 0 0 1 2 1 2 2 2 b 3 4 2 2 0 3 1 0 5 0 d 9 f c 0 2 0 16 0 f 1 8
0 2 0 3 6 1 0 2 0 1 1 3 1 9 f 3 0 7 0 2 0 16 0 9 0 4 1 8 0 2 0 3 6 1 4 2 0 3 1 9 0 2 b c 0 2 0 32
0 2 0 4 4 3 6 4 1 9 9 5 0 2 0 11 2 17 0 8 0 0 1 6 2 0 3 5 0 0 0 7 5 9 1 1 c 39 4 e 0 9 26 1 0 0 0
4 0 17 0 0 0 16 1 4 0 0 0 6 0 9 1 3 1f 0 16 1 5 9 a 0 0 0 0 0 3 9 0 23 3 13 0 11 0 23 8 0 38 49 5
4d 1 25 0 0 4 0 1 2a 0 14c 0 3 1 6 0 0 0 3 1 28 0 3 1 20 0 3 1 6 0 0 0 3 1 e 0 38 0 3 1 42 1 2 1f
f f 55 1 5 2 26b 1 10 0 19 4 4a 2 a 6 15 8 15 a 13 b c 0 2 0 1 b 53 2 0 3 1 1 9 20 2 0 a 5 58 6 2a
4 45 9 1e 0 b 3 b 9 27 1 4 a 2b 3 19 5 9 25 1b 3 3e 0 1c 1 a 5 9 c 0 7 2d 1 b 13 4c 2 9 10 8 b 73
b 37 7 9 2 30 1 a 4 2a 1 2 f 2 0 26 4 215 1 5 1 25 1 5 1 7 0 0 0 0 0 0 0 1e 1 34 0 6 0 0 2 2 0 6 2
3 1 5 3 c 4 2 0 6 e 1 30 1 12 0 1b 0 c 0 f c 32 20 10 0 3 0 1 9 0 0 2 4 5 0 0 0 0 0 0 3 0 a 1 3 4
4 3 0 10 28 32c 33 715 e4 5 8 b 25 0 0 4 0 1 37 6 0 e 17 8 6 0 6 0 6 0 6 0 6 0 6 0 6 0 6 0 1f 2e 0
1d4 2 18 e 0 4 1 4 3 55 1 1 1 2 0 59 0 3 4 2a 0 5d 10 1f 2f f 1ff 19bf 3f 568c 42 2d 1 10c 2 1b 13
32 0 9 0 72 24 8 1 66 1 51 13 36 3 0 12 33 b 45 9 9 5 17 2 0 0 30 1 23 b 1c 2 40 d a 5 1e 0 36 8 d
1 9 5 16 2 48 17 2 1 f 1 4 9 5 1 5 1 5 8 6 0 6 0 2a 0 d 5 7a 0 1 1 9 5 2ba3 b 16 3 30 2103 16d 1
69 25 6 b 4 4 b 0 c 0 4 0 0 0 1 0 1 0 6b 20 16a 11 3f 1 35 27 b 3 f f f 2 1 17 2 1f 4 0 86 12 9 6
19 3 0 0 19 a 58 2 5 1 5 1 5 1 2 22 b 0 19 0 12 0 1 0 e 1 d 21 7a 44 34 87 0 81 1c 2 30 e 0 1e 1f
c 1d 4 2a 4 1d 1 23 3 7 0 4 29 9d 1 9 5 23 3 23 3 27 7 33 b a 0 e 0 6 0 1 0 a 0 e 0 6 0 1 2 33 b
136 8 15 9 7 17 5 0 29 0 8 44 5 1 0 0 2b 0 1 2 0 1 16 9 16 8 1e 40 12 0 1 9 15 9 19 5 19 25 37 5 1
3f 3 0 1 4 7 0 2 0 1c 1 2 3 0 1f 1c 2 1c 22 7 0 1d 18 35 9 15 9 12 c 11 6d 48 36 32 c 32 c 27 7 9
5 25 2 4 0 16 f9 29 0 1 2 1 f 5 31 22 9 0 7 20 1e 15 29 14 1a 16 8 46 1e f 8 3b 6 0 c 18 6 9 5 34
0 9 3 3 7 23 1 0 8 44 3 3 0 c 0 0 22 11 0 24 5 3 3d 6 0 0 0 3 0 e 0 9 6 3a 4 9 5 3 0 7 1 1 1 15 0
6 0 1 0 4 0 9 1 1 1 2 1 0 5 0 4 6 1 6 2 4 a 9 0 0 1 0 0 25 0 9 0 0 1 0 0 3 0 7 c 1 1c 4a 4 9 3 3
1d 45 0 0 7 9 a5 35 1 8 16 5 21 40 2 0 a 9 25 38 6 9 5 13 1b 1a 1 e 3 9 5 6 b8 3a 64 49 14 7 1 0 1
7 0 1 0 1d 0 1 1 8 b 9 45 7 1 2d 1 7 0 1 1a 3e 7 0 7 49 2 0 11 48 66 7 57 20 e 9 5 8 0 2c 0 8 e 9
17 1d 1 15 0 d 48 6 0 1 0 2b 2 0 0 1 0 8 7 9 5 5 0 1 0 24 0 1 0 5 6 9 5 2b 3 9 f5 16 8 10 0 28 2 4
c a 54 0 4e 399 65 6e 10 c3 a4b 60 e 42f f 15 9 f9a 4 246 1ab8 39 6c5 238 6 1e 0 9 5 4e 0 9 5 1d 1
4 a 36 8 3 b 9 8 14 4 12 1af 2c 2 9 c5 3f 1f 18 1 18 2b 4a 3 38 6 10 3f 1 0 1 a 6 8 1cd5 28 1f 60
72 21fc 3 0 6 0 1 0 122 e 0 1c 2 1 0 d 3 7 18b 903 6a 4 c 2 8 6 9 2 1 1050 9 205 2d 1 16 21d 4 2 5
7 7 1 6 1d 3 93 2 1ba 54 0 46 0 1 1 0 1 1 1 3 0 b 0 0 0 6 0 40 0 3 1 7 0 6 0 1b 0 3 0 4 0 0 2 6 0
153 1 18 0 18 0 1e 0 18 0 1e 0 18 0 1e 0 18 0 1e 0 18 0 7 1 31 1ff 36 3 31 7 0 d 0 15 4 0 e 44f 1e
5 5 d4 6 0 10 1 6 0 1 0 4 4 3d 20 0 6f 2c 2 d 1 9 3 0 140 1e 10 39 1d5 29 d5 2a c4 1e 0 15 7 1 df
6 0 3 0 1 0 e 0 c4 a 6 28 4b 3 9 4a5 3 0 1a 0 1 0 0 1 0 0 9 0 3 0 0 0 0 5 0 3 0 0 0 0 0 0 2 0 1 0
0 1 0 0 0 0 0 0 0 0 0 0 1 0 0 1 3 0 6 0 3 0 3 0 0 0 9 0 10 4 2 0 4 0 10 273 19 5 19 5 19 a65 9 405
a6df 1f 111d 1 168d 1 1d30 e 26d 9a1 21d 5e1 134a 4 2129 acc85 ef "

/-- The characters with the property Alphabetic. -/
def letters : CharSet := CharSet.decode
    "41 19 5 19 2e 0 9 0 3 0 4 16 0 1e 0 1c9 3 b d 4 6 0 0 0 55 0 1c 11 0 1 1 3 0 0 5 0 0 2 0 0
0 13 0 52 0 8a 7 a5 0 25 1 0 5 28 26 d 0 0 0 1 0 1 0 0 7 1a 3 3 1c a 4 37 0 6 d 65 0 7 3 7 3 2 9 2
1 0 f 2f c 64 17 20 8 1 3 0 4 17 1 12 12 18 6 a 4 17 0 6 6 0 7 29 9 b 2 6 5 4b 0 f 0 2 3 e c 12 0
7 1 1 1 15 0 6 0 0 2 3 2 7 1 1 1 1 0 0 7 0 3 1 0 4 b 1 9 0 3 2 0 5 3 1 1 15 0 6 0 1 0 1 0 1 3 4 3
1 1 1 3 0 6 3 0 0 10 5 a 2 0 8 0 2 0 15 0 6 0 1 0 4 2 8 0 2 0 1 2 0 e 3 14 3 3 2 0 7 1 1 1 15 0 6
0 1 0 4 2 7 1 1 1 1 8 1 3 1 0 4 c 0 f 1 0 5 2 2 0 3 2 1 0 0 0 1 2 1 2 2 2 b 3 4 2 2 0 2 2 0 5 0 27
c 0 2 0 16 0 f 2 7 0 2 0 2 7 1 0 2 0 1 1 3 1b 3 0 7 0 2 0 16 0 9 0 4 2 7 0 2 0 2 7 1 4 2 0 3 c 2 b
c 0 2 0 28 1 7 0 2 0 2 0 0 4 3 6 4 15 5 0 2 0 11 2 17 0 8 0 0 1 6 7 5 0 0 0 7 11 1 c 39 4 6 5 0 32
1 0 0 0 4 0 17 0 0 0 12 0 2 1 4 0 0 5 0 d 3 1f 0 3e 7 0 23 3 12 3 f 0 23 42 36 0 0 1 4 f 3f 9 3 1
25 0 0 4 0 1 2a 0 14c 0 3 1 6 0 0 0 3 1 28 0 3 1 20 0 3 1 6 0 0 0 3 1 e 0 38 0 3 1 42 24 f f 55 1
5 2 26b 1 10 0 19 4 4a 2 a 6 13 a 14 b 13 b c 0 2 0 1 b 33 1 12 d 0 3 0 42 58 6 2a 4 45 9 1e 0 b 3
8 16 1d 1 4 a 2b 3 19 35 1b 3 3e 1 13 31 0 16 1 a 2 30 33 0 e 0 7 32 29 1 3 9 2b 0 a d 36 15 2 9
23 1 a 4 2a 1 2 28 3 0 5 0 1 2 0 4 bf 12 21 a 115 1 5 1 25 1 5 1 7 0 0 0 0 0 0 0 1e 1 34 0 6 0 0 2
2 0 6 2 3 1 5 3 c 4 2 0 6 73 0 c 0 f c 64 0 3 0 1 9 0 0 2 4 5 0 0 0 0 0 0 3 0 a 1 3 4 4 3 0 10 28
32c 33 715 e4 5 3 2 1 b 25 0 0 4 0 1 37 6 0 f 16 8 6 0 6 0 6 0 6 0 6 0 6 0 6 0 6 0 1f 2e 0 1d4 2
18 8 6 4 1 4 3 55 5 2 0 59 0 3 4 2a 0 5d 10 1f 2f f 1ff 19bf 3f 568c 42 2d 1 10c 2 f 9 1 13 2e 4 7
2 70 26 8 1 66 1 51 13 14 0 20 17 33 b 43 0 0 2b 5 2 0 0 2 9 20 4 22 c 1c 2 32 0 b e 0 f f 9 4 0
36 8 d 11 16 2 44 0 0 0 0 17 2 1 f 1 3 a 5 1 5 1 5 8 6 0 6 0 2a 0 d 5 7a 14 2ba3 b 16 3 30 2103
16d 1 69 25 6 b 4 4 b 0 c 0 4 0 0 0 1 0 1 0 6b 20 16a 11 3f 1 35 27 b 73 4 0 86 23 19 5 19 a 58 2
5 1 5 1 5 1 2 22 b 0 19 0 12 0 1 0 e 1 d 21 7a 44 34 10a 1c 2 30 2e 1f c 1d 4 2a 4 1d 1 23 3 7 0 4
29 9d 11 23 3 23 3 27 7 33 b a 0 e 0 6 0 1 0 a 0 e 0 6 0 1 2 33 b 136 8 15 9 7 17 5 0 29 0 8 44 5
1 0 0 2b 0 1 2 0 1 16 9 16 8 1e 40 12 0 1 9 15 9 19 5 19 25 37 5 1 3f 3 0 1 4 7 0 2 0 1c 29 1c 2
1c 22 7 0 1b 1a 35 9 15 9 12 c 11 6d 48 36 32 c 32 c 27 21 1b 2 0 4 16 f9 29 0 1 2 1 f 5 31 2 2 1c
9 0 7 15 29 11 2d 14 1a 16 8 45 2a 4 9 38 8 0 c 18 16 32 10 3 7 22 2 0 8 3f 0 3 8 1 9 0 0 0 22 11
0 21 1 0 5 3 3d 6 0 0 0 3 0 e 0 9 6 38 16 3 0 7 1 1 1 15 0 6 0 1 0 4 2 7 1 1 1 1 2 0 5 0 4 6 1b 9
0 0 1 0 0 25 0 9 0 0 1 0 0 3 0 1 2 0 0 0 2b 41 0 2 0 3 13 2 1d 41 1 1 0 0 b7 35 1 6 18 5 21 3e 0 0
2 0 3a 35 1 0 46 1a 1 d 14 6 b8 38 66 3f 1e 7 1 0 1 7 0 1 0 1d 0 1 1 1 1 3 5c 7 1 2d 1 5 0 0 0 1
1a 32 1 9 10 47 4 0 11 48 66 7 57 20 1e 8 0 2c 0 6 0 0 30 1d 1 15 0 d 48 6 0 1 0 2b 2 0 0 1 0 2 0
0 1 1 17 5 0 1 0 24 0 1 0 3 0 0 16 2b 103 16 8 10 0 28 2 2 6e 0 4e 399 65 6e 10 c3 a4b 60 e 42f 10
5 18 f9a 4 246 1ab8 2e 6d0 238 6 1e 10 4e 10 1d 11 2f f 3 1e 14 4 12 1af 2c d2 3f 1f 18 1 18 2b 4a
3 38 6 10 3f 1 0 0 b 6 8 1cd5 28 1f 60 72 21fc 3 0 6 0 1 0 122 e 0 1c 2 1 0 d 3 7 18b 903 6a 4 c 2
8 6 9 3 0 1760 54 0 46 0 1 1 0 1 1 1 3 0 b 0 0 0 6 0 40 0 3 1 7 0 6 0 1b 0 3 0 4 0 0 2 6 0 153 1
18 0 18 0 1e 0 18 0 1e 0 18 0 1e 0 18 0 1e 0 18 0 7 733 1e 5 5 d4 6 0 10 1 6 0 1 0 4 4 3d 20 0 6f
2c 9 6 f 0 140 1d 11 2b 1e3 1b e3 1d 1 0 ce 1e 0 15 7 1 df 6 0 3 0 1 0 e 0 c4 3a 43 2 0 2 0 4b3 3
0 1a 0 1 0 0 1 0 0 9 0 3 0 0 0 0 5 0 3 0 0 0 0 0 0 2 0 1 0 0 1 0 0 0 0 0 0 0 0 0 0 1 0 0 1 3 0 6 0
3 0 3 0 0 0 9 0 10 4 2 0 4 0 10 273 19 5 19 5 19 e75 a6df 1f 111d 1 168d 1 1d30 e 26d 9a1 21d 5e1
134a 4 2129 "

/-- The characters whose category is a number. -/
def numbers : CharSet := CharSet.decode
    "30 9 77 1 4 0 1 2 5a0 9 85 9 c5 9 19b 9 75 9 3 5 6b 9 75 9 75 9 1 5 6d c 72 9 7 6 66 9 67 6
6 12 6c 9 5f 9 75 9 45 13 10b 9 45 9 2ce 13 370 2 ee 9 5 9 15 9 12b 9 7f a a4 9 5 9 b5 9 55 9 85 9
5 9 415 0 2 5 5 9 c5 32 1 4 2d5 3b 4d 15 275 1d 568 0 308 0 18 8 d 2 156 3 89 9 1d 7 0 e 1f 9 26 e
735f 9 bb 9 13f 5 99 9 25 9 c5 9 15 9 55 9 195 9 5315 9 1ec 2c b 38 10 1 154 1a 23 3 1c 0 7 0 85 4
c9 9 3ad 7 18 6 26 8 4a 4 15 5 9f 1 1 f 1 2d 3f 8 33 1 1d 2 4a 4 67 7 17 7 28 6 149 5 2f 9 5 9 115
1e 9d 9 29 3 6f 6 85 1d 7f 9 3b 9 8f 9 6 13 fa 9 155 9 75 9 175 9 65 9 5 13 4b b 1a3 12 5c 9 295 9
55 1c e2 9 45 9 35 9 165 9 65 14 42a 6e 3cc0 9 925 9 55 9 85 9 0 6 20d 9 105 16 15c 2 5cf8 9 5c5
13 b 13 6b 18 454 31 93f 9 1a5 9 1f5 9 f6 9 2cb 8 7f 9 316 3a 0 2 0 3 4b 2c 0 e 3c1 c ae2 9 "

/-- Whether a character is a blank. -/
def isBlank (c : Char) : Bool :=
  c.toNat = 0x20 || (0x9 ≤ c.toNat && c.toNat ≤ 0xD) || c.toNat = 0x85 || c.toNat = 0xA0 ||
    c.toNat = 0x1680 || (0x2000 ≤ c.toNat && c.toNat ≤ 0x200A) || c.toNat = 0x2028 ||
    c.toNat = 0x2029 || c.toNat = 0x202F || c.toNat = 0x205F || c.toNat = 0x3000

/-- Whether a character is a letter. -/
def isAlphabetic (c : Char) : Bool := letters.contains c

/-- Whether a character is a letter or a number. -/
def isAlphanumeric (c : Char) : Bool := letters.contains c || numbers.contains c

end ParamTemplate.Unicode
