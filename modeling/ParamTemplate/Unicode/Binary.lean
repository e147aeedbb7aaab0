/-
**Binary properties.**

The properties that a character has or has not, version 17 of the character database.
-/

import ParamTemplate.Unicode.NamedSet

set_option autoImplicit false

namespace ParamTemplate.Unicode

/-- The sets of the binary properties. -/
def binaryProperties : List NamedSet := [
  ⟨["ahex", "asciihexdigit"], some
    "30 9 6 5 19 5 "⟩,
  ⟨["alpha", "alphabetic"], some
    "41 19 5 19 2e 0 9 0 3 0 4 16 0 1e 0 1c9 3 b d 4 6 0 0 0 55 0 1c 11 0 1 1 3 0 0 5 0 0 2 0 0
0 13 0 52 0 8a 7 a5 0 25 1 0 5 28 26 d 0 0 0 1 0 1 0 0 7 1a 3 3 1c a 4 37 0 6 d 65 0 7 3 7 3 2 9 2
1 0 f 2f c 64 17 20 8 1 3 0 4 17 1 12 12 18 6 a 4 17 0 6 6 0 7 29 9 b 2 6 5 4b 0 f 0 2 3 e c 12 0
7 1 1 1 15 0 6 0 0 2 3 2 7 1 1 1 1 0 0 7 0 3 1 0 4 b 1 9 0 3 2 0 5 3 1 1 15 0 6 0 1 0 1 0 1 3 4 3
1 1 1 3 0 6 3 0 0 10 5 a 2 0 8 0 2 0 15 0 6 0 1 0 4 2 8 0 2 0 1 2 0 e 3 14 3 3 2 0 7 1 1 1 15 0 6
0 1 0 4 2 7 1 1 1 1 8 1 3 1 0 4 c 0 f 1 0 5 2 2 0 3 2 1 0 0 0 1 2 1 2 2 2 b 3 4 2 2 0 2 2 0 5 0 27
c 0 2 0 16 0 f 2 7 0 2 0 2 7 1 0 2 0 1 1 3 1b 3 0 7 0 2 0 16 0 9 0 4 2 7 0 2 0 2 7 1 4 2 0 3 c 2 b
c 0 2 0 28 1 7 0 2 0 2 0 0 4 3 6 4 15 5 0 2 0 11 2 17 0 8 0 0 1 6 7 5 0 0 0 7 11 1 c 39 4 6 5 0 32
1 0 0 0 4 0 17 0 0 0 12 0 2 1 4 0 0 5 0 d 3 1f 0 3e 7 0 23 3 12 3 f 0 23 42 36 0 0 1 4 f 3f 9 3 1
25 0 0 4 0 1 2a 0 14c 0 3 1 6 0 0 0 3 1 28 0 3 1 20 0 3 1 6 0 0 0 3 1 e 0 38 0 3 1 42 24 f f 55 1
5 2 26b 1 10 0 19 4 4a 2 a 6 13 a 14 b 13 b c 0 2 0 1 b 33 1 12 d 0 3 0 42 58 6 2a 4 45 9 1e 0 b 3
8 16 1d 1 4 a 2b 3 19 35 1b 3 3e 1 13 31 0 16 1 a 2 30 33 0 e 0 7 32 29 1 3 9 2b 0 a d 36 15 2 9
23 1 a 4 2a 1 2 28 3 0 5 0 1 2 0 4 bf 12 21 a 115 1 5 1 25 1 5 1 7 0 0 0 0 0 0 0 1e 1 34 0 6 0 0 2
2 0 6 2 3 1 5 3 c 4 2 0 6 73 0 c 0 f c 64 0 3 0 1 9 0 0 2 4 5 0 0 0 0 0 0 3 0 a 1 3 4 4 3 0 10 28
32c 33 715 e4 5 3 2 1 b 25 0 0 4 0 1 37 6 0 f 16 8 6 0 6 0 6 0 6 0 6 0 6 0 6 0 6 0 1f 2e 0 1d4 2
18 8 6 4 1 4 3 55 5 2 0 59 0 3 4 2a 0 5d 10 1f 2f f 1ff 19bf 3f 568c 42 2d 1 10c 2 f 9 1 13 2e 4 7
2 70 26 8 1 66 1 51 13 14 0 20 17 33 b 43 0 0 2b 5 2 0 0 2 9 20 4 22 c 1c 2 32 0 b e 0 f f 9 4 0
36 8 d 11 16 2 44 0 0 0 0 17 2 1 f 1 3 a 5 1 5 1 5 8 6 0 6 0 2a 0 d 5 7a 14 2ba3 b 16 3 30 2103
16d 1 69 25 6 b 4 4 b 0 c 0 4 0 0 0 1 0 1 0 6b 20 16a 11 3f 1 35 27 b 73 4 0 86 23 19 5 19 a 58 2
5 1 5 1 5 1 2 22 b 0 19 0 12 0 1 0 e 1 d 21 7a 44 34 10a 1c 2 30 2e 1f c 1d 4 2a 4 1d 1 23 3 7 0 4
29 9d 11 23 3 23 3 27 7 33 b a 0 e 0 6 0 1 0 a 0 e 0 6 0 1 2 33 b 136 8 15 9 7 17 5 0 29 0 8 44 5
1 0 0 2b 0 1 2 0 1 16 9 16 8 1e 40 12 0 1 9 15 9 19 5 19 25 37 5 1 3f 3 0 1 4 7 0 2 0 1c 29 1c 2
1c 22 7 0 1b 1a 35 9 15 9 12 c 11 6d 48 36 32 c 32 c 27 21 1b 2 0 4 16 f9 29 0 1 2 1 f 5 31 2 2 1c
9 0 7 15 29 11 2d 14 1a 16 8 45 2a 4 9 38 8 0 c 18 16 32 10 3 7 22 2 0 8 3f 0 3 8 1 9 0 0 0 22 11
0 21 1 0 5 3 3d 6 0 0 0 3 0 e 0 9 6 38 16 3 0 7 1 1 1 15 0 6 0 1 0 4 2 7 1 1 1 1 2 0 5 0 4 6 1b 9
0 0 1 0 0 25 0 9 0 0 1 0 0 3 0 1 2 0 0 0 2b 41 0 2 0 3 13 2 1d 41 1 1 0 0 b7 35 1 6 18 5 21 3e 0 0
2 0 3a 35 1 0 46 1a 1 d 14 6 b8 38 66 3f 1e 7 1 0 1 7 0 1 0 1d 0 1 1 1 1 3 5c 7 1 2d 1 5 0 0 0 1
1a 32 1 9 10 47 4 0 11 48 66 7 57 20 1e 8 0 2c 0 6 0 0 30 1d 1 15 0 d 48 6 0 1 0 2b 2 0 0 1 0 2 0
0 1 1 17 5 0 1 0 24 0 1 0 3 0 0 16 2b 103 16 8 10 0 28 2 2 6e 0 4e 399 65 6e 10 c3 a4b 60 e 42f 10
5 18 f9a 4 246 1ab8 2e 6d0 238 6 1e 10 4e 10 1d 11 2f f 3 1e 14 4 12 1af 2c d2 3f 1f 18 1 18 2b 4a
3 38 6 10 3f 1 0 0 b 6 8 1cd5 28 1f 60 72 21fc 3 0 6 0 1 0 122 e 0 1c 2 1 0 d 3 7 18b 903 6a 4 c 2
8 6 9 3 0 1760 54 0 46 0 1 1 0 1 1 1 3 0 b 0 0 0 6 0 40 0 3 1 7 0 6 0 1b 0 3 0 4 0 0 2 6 0 153 1
18 0 18 0 1e 0 18 0 1e 0 18 0 1e 0 18 0 1e 0 18 0 7 733 1e 5 5 d4 6 0 10 1 6 0 1 0 4 4 3d 20 0 6f
2c 9 6 f 0 140 1d 11 2b 1e3 1b e3 1d 1 0 ce 1e 0 15 7 1 df 6 0 3 0 1 0 e 0 c4 3a 43 2 0 2 0 4b3 3
0 1a 0 1 0 0 1 0 0 9 0 3 0 0 0 0 5 0 3 0 0 0 0 0 0 2 0 1 0 0 1 0 0 0 0 0 0 0 0 0 0 1 0 0 1 3 0 6 0
3 0 3 0 0 0 9 0 10 4 2 0 4 0 10 273 19 5 19 5 19 e75 a6df 1f 111d 1 168d 1 1d30 e 26d 9a1 21d 5e1
134a 4 2129 "⟩,
  ⟨["bidic", "bidicontrol"], some
    "61c 0 19f0 1 19 4 36 3 "⟩,
  ⟨["bidim", "bidimirrored"], some
    "28 1 11 0 0 0 1b 0 0 0 1c 0 0 0 2c 0 e 0 e7d 3 75c 1 99b 1 9 1 35 1 d 1 b0 0 bf 3 2 5 2 0 2
1 2 3 0 3 0 0 0 0 3 8 4 0 0 11 4 3 8 1 0 0 0 7 0 1f 1 3 4 0 8 1 1 12 4 1 8 4 1 1 3 17 1 f 7 3 13 1
6 1 43c d 49 0 1 3 0 1 0 2 4 3 4 2 2 d 192 15 1 5 0 d 7 0 6 5 2 0 3 4 0 1 1 4 3 0 0 2 1 1 9 5 1 1
b 12 0 3 1 0 0 0 1 0 0 3 4 1 5 2 17 1 a 1 3 3 0 1 1 1 3 2a 1 7 0 27 4 0 0 0 2 4 4 2 3 0 2 4 0 0 ff
0 202 3 2 1 0 1 d 1 1 9 2a 7 1aa 9 1 7 ce3c 5 4 1 a1 1 11 0 0 0 1b 0 0 0 1c 0 0 0 0 1 0 1 d776 0
38 0 38 0 38 0 38 0 "⟩,
  ⟨["ci", "caseignorable"], some
    "27 0 5 0 a 0 22 0 0 0 46 0 3 0 0 0 3 0 1 1 1f6 bf 3 1 3 0 8 1 0 0 fa 6 ce 0 4 0 30 2c 0 0 0
1 0 1 0 0 2b 0 a 5 9 a 0 0 22 0 9 14 f 0 64 7 0 9 0 3 20 0 0 0 1d 1a 5a a 39 a 3 0 1 0 17 17 2a 2
2b 0 6 1 4 8 28 39 36 0 0 0 3 7 3 0 2 6 9 1 c 0 e 0 39 0 3 3 7 0 13 1 19 0 1 1 38 0 3 1 3 1 1 2 2
0 1d 1 2 0 a 1 38 0 3 4 0 1 3 0 13 1 15 5 0 0 39 0 1 0 0 3 7 0 6 1 a 1 1d 0 3c 0 b 0 31 0 2 0 36 0
0 2 4 2 0 3 6 1 a 1 1c 0 39 0 1 0 5 0 4 1 13 1 1b 1 38 1 3 3 7 0 13 1 1c 0 47 0 6 2 0 0 59 0 1 6 a
8 61 0 1 8 8 0 0 6 48 1 1a 0 0 0 0 0 36 d 0 4 0 1 4 a 0 23 8 0 65 3 0 5 0 1 1 1 18 1 3 2 f 3 c 0 1
1 5 0 e 0 5d 0 25f 2 3b1 2 1c 1 1d 1 1d 1 3f 1 0 6 7 0 1 a 2 0 4 0 2c 4 32 0 40 1 21 0 75 2 3 1 8
0 5 2 da 1 1 0 39 0 0 6 0 0 0 0 1 7 5 9 1 0 26 0 7 2d 1 b 13 3 2f 0 0 4 0 0 4 0 27 8 b 1 1f 3 1 1
0 2 37 0 0 1 2 0 0 2 39 7 1 1 3f 5 51 2 0 c 0 6 3 0 5 0 2 1 31 3e c 0 21 64 1bc 0 0 2 a 2 c 2 c 2
c 1 b 4 7 1 9 0 1 0 1 4 30 4 0 9 0 0 c 0 f c 32 20 b8a 1 70 2 7c 0 e 0 5f 1f 2e 0 1d4 0 23 3 2 4 4
0 5c 5 5c 2 6f15 0 4e1 5 10d 0 61 3 0 9 0 0 1b 3 4f 1 d 21 4d 0 16 2 65 3 2 1 7 0 2 0 3 0 18 1 4 0
96 1 19 11 c 0 25 7 18 a 2d 2 2f 0 1 3 1 1 10 0 14 1 41 5 1 1 1 1 b 0 7 0 22 0 a 0 32 0 0 2 1 1 4
1 0 0 1a 0 d 1 4 1 0 0 63 4 8 2 78 0 1 0 3 0 4f2f 0 92 10 23c f 2 0 b f 21 0 1 0 a8 0 6 0 5 0 a 0
22 0 0 0 2e 0 2c 1 42 0 14 2 200 0 e1 0 94 4 404 5 0 29 0 8 245 2 0 1 4 3 27 2 3 0 a4 1 23c 3 25 0
19 4 0 0 13a 1 17 0 33 5 45 a 30 3 7a 0 35 e 28 0 1 1 9 2 30 3 1 1 1 0 3 0 9 0 31 2 23 4 0 7 3d 0
b 1 33 8 9 3 1 0 5e 2 1 0 0 1 5 0 1 0 9c 0 2 7 14 1 38 1 2 0 24 6 2 4 45 5 c 0 0 0 0 0 d 1 54 7 1
2 0 0 16 0 53 5 0 0 3 1 0 1 ed 3 5 1 0 1 1a 1 54 7 1 0 0 1 69 0 0 0 1 5 0 0 64 0 0 0 1 3 0 4 102 8
0 1 ff 1 0 0 3 0 8f 3 1 1 3 0 1f 9 27 5 1 3 7 0 8 5 1 2 2d c 0 1 c5 0 0 2 0 0 c8 6 0 5 0 0 51 15 1
6 0 1 0 1 79 5 2 0 0 1 0 6 0 0 47 1 2 0 0 0 40 0 118 1 a 1 33 4 4 0 0 0 16 0 14d4 10 5 e 2cc7 b 2
2 9bf 4 3a 6 8 3 1fb 2 27 1 1e1 0 3e 10 3f 1 0 1 c 1 3ffb 3 0 6 0 1 c9d 1 0 3 125b 2d 1 16 21f 2 8
f 1 6 1d 3 93 2 7ba 36 3 31 7 0 d 0 15 4 0 e 54f 6 0 10 1 6 0 1 0 4 4 3d 20 0 9f d 16f 0 3c 3 1fa
4 fd 1 f2 0 1 0 6 1 4 0 8 0 1cf 6 6c 7 aae 4 c0c00 0 1d 5f 7f ef "⟩,
  ⟨["cased"], some
    "41 19 5 19 2e 0 9 0 3 0 4 16 0 1e 0 c2 0 3 3 cf 1 22 6 1 1d 4 5f 0 29 3 1 1 1 3 0 0 5 0 0 2
0 0 0 13 0 52 0 8a 7 a5 0 25 8 28 b16 25 0 0 4 0 1 2a 0 3 29f 55 1 5 881 a 4 2a 1 2 3f bf 3f 115 1
5 1 25 1 5 1 7 0 0 0 0 0 0 0 1e 1 34 0 6 0 0 2 2 0 6 2 3 1 5 3 c 4 2 0 6 73 0 c 0 f c 64 0 3 0 1 9
0 0 2 4 5 0 0 0 0 0 0 3 0 5 3 0 1 3 4 4 3 0 10 1f 2 1 330 33 715 e4 5 3 2 1 b 25 0 0 4 0 7911 2d
11 1d 83 65 2 3 0 4c 13 5 0 2 334 2a 0 d 5 4f 4f3f 6 b 4 408 19 5 19 4a4 4f 5f 23 3 23 73 a 0 e 0
6 0 1 0 a 0 e 0 6 0 1 1c2 0 1 2 0 29 0 8 4c4 32 c 32 5c 15 9 15 b19 3f 555f 3f 1f 18 1 18 652b 54
0 46 0 1 1 0 1 1 1 3 0 b 0 0 0 6 0 40 0 3 1 7 0 6 0 1b 0 3 0 4 0 0 2 6 0 153 1 18 0 18 0 1e 0 18 0
1e 0 18 0 1e 0 18 0 1e 0 18 0 7 733 9 0 13 5 5 104 3d 891 43 7eb 19 5 19 5 19 "⟩,
  ⟨["cwcf", "changeswhencasefolded"], some
    "41 19 59 0 9 16 0 7 1f 0 0 0 0 0 0 0 0 0 0 0 0 0 0 0 0 0 0 0 0 0 0 0 0 0 0 0 0 0 0 0 0 0 0
0 0 0 0 0 0 0 0 0 0 0 0 0 0 0 0 0 0 0 0 0 1 0 0 0 0 0 0 0 0 0 0 0 0 0 0 0 0 1 0 0 0 0 0 0 0 0 0 0
0 0 0 0 0 0 0 0 0 0 0 0 0 0 0 0 0 0 0 0 0 0 0 0 0 0 0 0 0 0 0 0 0 0 0 1 0 0 0 0 0 0 0 1 0 0 0 1 0
2 1 3 0 1 0 2 2 1 0 1 0 0 0 0 0 1 0 0 1 0 0 1 0 2 0 0 0 1 2 0 6 1 0 1 0 1 0 0 0 0 0 0 0 0 0 0 0 0
0 0 0 0 1 0 0 0 0 0 0 0 0 0 0 0 0 0 0 0 0 0 1 1 0 0 0 2 0 0 0 0 0 0 0 0 0 0 0 0 0 0 0 0 0 0 0 0 0
0 0 0 0 0 0 0 0 0 0 0 0 0 0 0 0 0 0 0 0 0 0 0 0 0 0 0 0 0 0 0 0 0 0 0 0 0 6 1 0 1 1 0 0 3 0 0 0 0
0 0 0 0 f5 0 29 0 0 0 2 0 7 0 5 0 0 2 0 0 0 1 0 10 0 8 15 0 b 2 2 1 0 0 0 0 0 0 0 0 0 0 0 0 0 0 0
0 0 0 0 0 0 0 0 0 0 1 1 1 0 0 0 1 1 32 2f 0 0 0 0 0 0 0 0 0 0 0 0 0 0 0 0 0 0 0 0 0 0 0 0 0 0 0 0
0 0 0 0 0 8 0 0 0 0 0 0 0 0 0 0 0 0 0 0 0 0 0 0 0 0 0 0 0 0 0 0 0 0 0 0 0 0 0 0 0 0 0 0 0 0 0 0 0
0 0 0 0 0 0 0 0 0 0 0 1 0 0 0 0 0 0 0 0 0 0 0 0 1 0 0 0 0 0 0 0 0 0 0 0 0 0 0 0 0 0 0 0 0 0 0 0 0
0 0 0 0 0 0 0 0 0 0 0 0 0 0 0 0 0 0 0 0 0 0 0 0 0 0 0 0 0 0 0 0 0 0 0 0 0 0 0 0 0 0 0 0 0 0 0 0 0
0 0 0 0 0 0 0 0 0 0 0 0 0 0 0 0 0 0 0 0 0 0 1 25 2f 0 b17 25 0 0 4 0 329 5 881 9 5 2a 1 2 13f 0 0
0 0 0 0 0 0 0 0 0 0 0 0 0 0 0 0 0 0 0 0 0 0 0 0 0 0 0 0 0 0 0 0 0 0 0 0 0 0 0 0 0 0 0 0 0 0 0 0 0
0 0 0 0 0 0 0 0 0 0 0 0 0 0 0 0 0 0 0 0 0 0 0 0 0 0 0 0 0 0 0 0 0 0 0 0 0 0 0 0 0 0 0 0 0 0 0 0 0
0 0 0 0 0 0 0 0 0 0 0 0 0 0 0 0 0 0 0 0 0 0 0 0 0 0 0 0 0 0 0 0 0 0 0 0 0 0 0 0 0 0 0 0 0 0 0 0 0
4 1 1 0 0 0 0 0 0 0 0 0 0 0 0 0 0 0 0 0 0 0 0 0 0 0 0 0 0 0 0 0 0 0 0 0 0 0 0 0 0 0 0 0 0 0 0 0 0
0 0 0 0 0 0 0 0 0 0 0 0 0 0 0 0 0 0 0 0 0 0 0 0 0 0 0 0 0 0 0 0 0 0 0 0 0 0 0 0 0 0 0 0 0 0 0 0 0
0 0 8 7 7 5 9 7 7 7 7 5 a 0 0 0 0 0 0 0 7 7 f 2f 1 2 1 5 4 2 1 5 a 3 b 4 4 2 1 5 128 0 2 1 5 0 2c
f 12 0 331 19 72f 2f 2f 0 0 2 1 0 0 0 0 0 0 3 0 0 1 0 7 2 0 0 0 0 0 0 0 0 0 0 0 0 0 0 0 0 0 0 0 0
0 0 0 0 0 0 0 0 0 0 0 0 0 0 0 0 0 0 0 0 0 0 0 0 0 0 0 0 0 0 0 0 0 0 0 0 0 0 0 0 0 0 0 0 0 0 0 0 0
0 0 0 0 0 0 0 0 0 0 0 0 0 0 0 0 0 0 0 0 0 0 0 0 0 0 0 0 0 7 0 0 0 3 0 794c 0 0 0 0 0 0 0 0 0 0 0 0
0 0 0 0 0 0 0 0 0 0 0 0 0 0 0 0 0 0 0 0 0 0 0 0 0 0 0 0 0 0 0 0 0 12 0 0 0 0 0 0 0 0 0 0 0 0 0 0 0
0 0 0 0 0 0 0 0 0 0 0 0 86 0 0 0 0 0 0 0 0 0 0 0 0 0 2 0 0 0 0 0 0 0 0 0 0 0 0 0 0 0 0 0 0 0 0 0 0
0 0 0 0 0 0 0 0 0 0 0 0 0 0 0 0 0 0 0 0 0 0 0 0 0 0 0 0 0 0 0 0 0 0 0 0 0 0 0 9 0 0 0 0 1 0 0 0 0
0 0 0 0 3 0 0 0 1 0 0 0 2 0 0 0 0 0 0 0 0 0 0 0 0 0 0 0 0 0 0 0 0 4 0 4 0 0 0 0 0 0 0 0 0 0 0 0 0
0 0 3 0 0 0 1 0 0 0 0 0 0 0 0 0 0 0 0 0 0 0 0 17 0 379 4f 4f3f 6 b 4 408 19 4c4 27 87 23 9b a 0 e
0 6 0 1 6e9 32 9c 15 b39 1f 557f 1f 3f 18 7a46 21 "⟩,
  ⟨["cwcm", "changeswhencasemapped"], some
    "41 19 5 19 39 0 9 16 0 1e 0 3f 0 53 0 1b 1 d 1 1 0 0 3 5c 0 11 5 1a 0 1 0 0 0 1 2 1 0 3 0 4
1 0 0 1 1 0 6 0 1 0 0 1 2 5 4 0 9 1 a5 0 29 3 1 1 2 2 0 0 5 0 0 2 0 0 0 13 0 2e 2 20 0 4 0 84 7 a5
0 25 9 26 b17 25 0 0 4 0 1 2a 1 2 29f 55 1 5 881 a 4 2a 1 2 b8 0 2 0 f 0 70 9b 1 0 0 75 1 5 1 25 1
5 1 7 0 0 0 0 0 0 0 1e 1 34 0 6 0 0 2 2 0 6 2 3 1 5 3 c 4 2 0 6 128 0 2 1 5 0 1a 0 10 1f 2 1 330
33 715 70 0 1 0 1 6 65 6 3 2 1 b 25 0 0 4 0 7911 2d 11 1b 85 d 1 3d 8 e 2 2 1 4 0 18 0 2c 17 1 35b
0 1b 4f 4f3f 6 b 4 408 19 5 19 4a4 4f 5f 23 3 23 73 a 0 e 0 6 0 1 0 a 0 e 0 6 0 1 6c2 32 c 32 5c
15 9 15 b19 3f 555f 3f 1f 18 1 18 7a2b 43 "⟩,
  ⟨["cwl", "changeswhenlowercased"], some
    "41 19 64 16 0 6 20 0 0 0 0 0 0 0 0 0 0 0 0 0 0 0 0 0 0 0 0 0 0 0 0 0 0 0 0 0 0 0 0 0 0 0 0
0 0 0 0 0 0 0 0 0 0 0 0 0 0 0 0 0 0 0 1 0 0 0 0 0 0 0 0 0 0 0 0 0 0 0 1 0 0 0 0 0 0 0 0 0 0 0 0 0
0 0 0 0 0 0 0 0 0 0 0 0 0 0 0 0 0 0 0 0 0 0 0 0 0 0 0 0 0 0 0 0 0 1 0 0 0 0 2 1 0 0 0 1 0 2 1 3 0
1 0 2 2 1 0 1 0 0 0 0 0 1 0 0 1 0 0 1 0 2 0 0 0 1 2 0 6 1 0 1 0 1 0 0 0 0 0 0 0 0 0 0 0 0 0 0 0 0
1 0 0 0 0 0 0 0 0 0 0 0 0 0 0 0 0 0 1 1 0 0 0 2 0 0 0 0 0 0 0 0 0 0 0 0 0 0 0 0 0 0 0 0 0 0 0 0 0
0 0 0 0 0 0 0 0 0 0 0 0 0 0 0 0 0 0 0 0 0 0 0 0 0 0 0 0 0 0 0 0 0 6 1 0 1 1 0 0 3 0 0 0 0 0 0 0 0
120 0 0 0 2 0 7 0 5 0 0 2 0 0 0 1 0 10 0 8 22 0 7 0 0 0 0 0 0 0 0 0 0 0 0 0 0 0 0 0 0 0 0 0 0 0 4
0 1 0 0 1 1 32 2f 0 0 0 0 0 0 0 0 0 0 0 0 0 0 0 0 0 0 0 0 0 0 0 0 0 0 0 0 0 0 0 0 0 8 0 0 0 0 0 0
0 0 0 0 0 0 0 0 0 0 0 0 0 0 0 0 0 0 0 0 0 0 0 0 0 0 0 0 0 0 0 0 0 0 0 0 0 0 0 0 0 0 0 0 0 0 0 0 1
0 0 0 0 0 0 0 0 0 0 0 0 1 0 0 0 0 0 0 0 0 0 0 0 0 0 0 0 0 0 0 0 0 0 0 0 0 0 0 0 0 0 0 0 0 0 0 0 0
0 0 0 0 0 0 0 0 0 0 0 0 0 0 0 0 0 0 0 0 0 0 0 0 0 0 0 0 0 0 0 0 0 0 0 0 0 0 0 0 0 0 0 0 0 0 0 0 0
0 0 0 0 0 0 0 0 0 0 1 25 b48 25 0 0 4 0 2d1 55 892 0 5 2a 1 2 13f 0 0 0 0 0 0 0 0 0 0 0 0 0 0 0 0
0 0 0 0 0 0 0 0 0 0 0 0 0 0 0 0 0 0 0 0 0 0 0 0 0 0 0 0 0 0 0 0 0 0 0 0 0 0 0 0 0 0 0 0 0 0 0 0 0
0 0 0 0 0 0 0 0 0 0 0 0 0 0 0 0 0 0 0 0 0 0 0 0 0 0 0 0 0 0 0 0 0 0 0 0 0 0 0 0 0 0 0 0 0 0 0 0 0
0 0 0 0 0 0 0 0 0 0 0 0 0 0 0 0 0 0 0 0 0 0 0 0 0 0 0 0 0 0 0 0 0 0 0 8 0 0 0 0 0 0 0 0 0 0 0 0 0
0 0 0 0 0 0 0 0 0 0 0 0 0 0 0 0 0 0 0 0 0 0 0 0 0 0 0 0 0 0 0 0 0 0 0 0 0 0 0 0 0 0 0 0 0 0 0 0 0
0 0 0 0 0 0 0 0 0 0 0 0 0 0 0 0 0 0 0 0 0 0 0 0 0 0 0 0 0 0 0 0 0 0 0 8 7 7 5 9 7 7 7 7 5 a 0 0 0
0 0 0 0 7 7 17 7 7 7 7 7 7 4 a 4 a 3 b 4 a 4 128 0 2 1 5 0 2c f 12 0 331 19 72f 2f 2f 0 0 2 1 0 0
0 0 0 0 3 0 0 1 0 7 2 0 0 0 0 0 0 0 0 0 0 0 0 0 0 0 0 0 0 0 0 0 0 0 0 0 0 0 0 0 0 0 0 0 0 0 0 0 0
0 0 0 0 0 0 0 0 0 0 0 0 0 0 0 0 0 0 0 0 0 0 0 0 0 0 0 0 0 0 0 0 0 0 0 0 0 0 0 0 0 0 0 0 0 0 0 0 0
0 0 0 0 0 0 0 0 0 0 0 7 0 0 0 3 0 794c 0 0 0 0 0 0 0 0 0 0 0 0 0 0 0 0 0 0 0 0 0 0 0 0 0 0 0 0 0 0
0 0 0 0 0 0 0 0 0 0 0 0 0 0 0 12 0 0 0 0 0 0 0 0 0 0 0 0 0 0 0 0 0 0 0 0 0 0 0 0 0 0 0 86 0 0 0 0
0 0 0 0 0 0 0 0 0 2 0 0 0 0 0 0 0 0 0 0 0 0 0 0 0 0 0 0 0 0 0 0 0 0 0 0 0 0 0 0 0 0 0 0 0 0 0 0 0
0 0 0 0 0 0 0 0 0 0 0 0 0 0 0 0 0 0 0 0 0 0 9 0 0 0 0 1 0 0 0 0 0 0 0 0 3 0 0 0 1 0 0 0 2 0 0 0 0
0 0 0 0 0 0 0 0 0 0 0 0 0 0 0 0 4 0 4 0 0 0 0 0 0 0 0 0 0 0 0 0 0 0 3 0 0 0 1 0 0 0 0 0 0 0 0 0 0
0 0 0 0 0 0 17 0 572a 19 4c4 27 87 23 9b a 0 e 0 6 0 1 6e9 32 9c 15 b39 1f 557f 1f 3f 18 7a46 21 "⟩,
  ⟨["cwt", "changeswhentitlecased"], some
    "61 19 39 0 28 17 0 7 0 0 0 0 0 0 0 0 0 0 0 0 0 0 0 0 0 0 0 0 0 0 0 0 0 0 0 0 0 0 0 0 0 0 0
0 0 0 0 0 0 0 0 0 0 0 0 0 0 0 0 0 0 0 0 0 1 0 0 0 0 0 0 0 0 0 0 0 0 0 0 1 0 0 0 0 0 0 0 0 0 0 0 0
0 0 0 0 0 0 0 0 0 0 0 0 0 0 0 0 0 0 0 0 0 0 0 0 0 0 0 0 0 0 0 0 0 0 1 0 0 0 0 2 1 0 0 0 1 0 2 0 4
0 1 0 2 2 1 0 1 0 0 0 0 0 1 0 3 0 1 0 2 0 0 0 1 0 2 0 0 0 3 0 0 1 0 1 0 0 0 0 0 0 0 0 0 0 0 0 0 0
0 0 0 1 0 0 0 0 0 0 0 0 0 0 0 0 0 0 0 0 0 2 0 0 0 0 2 0 0 0 0 0 0 0 0 0 0 0 0 0 0 0 0 0 0 0 0 0 0
0 0 0 0 0 0 0 0 0 0 0 0 0 0 0 0 0 2 0 0 0 0 0 0 0 0 0 0 0 0 0 0 0 0 0 7 0 1 1 0 0 3 0 0 0 0 0 0 0
0 5 0 1 0 0 0 1 2 1 0 3 0 4 1 0 0 1 1 0 6 0 1 0 0 1 2 5 4 0 9 1 a5 0 2a 0 0 0 2 0 2 2 11 0 1a 22 0
1 2 2 0 0 0 0 0 0 0 0 0 0 0 0 0 0 0 0 0 0 0 0 0 0 0 4 0 0 1 0 1 0 33 2f 0 0 0 0 0 0 0 0 0 0 0 0 0
0 0 0 0 0 0 0 0 0 0 0 0 0 0 0 0 0 0 0 0 0 8 0 0 0 0 0 0 0 0 0 0 0 0 0 0 0 0 0 0 0 0 0 0 0 0 0 0 0
0 0 0 0 0 0 0 0 0 0 0 0 0 0 0 0 0 0 0 0 0 0 0 0 0 0 1 0 0 0 0 0 0 0 0 0 0 0 0 1 0 0 0 0 0 0 0 0 0
0 0 0 0 0 0 0 0 0 0 0 0 0 0 0 0 0 0 0 0 0 0 0 0 0 0 0 0 0 0 0 0 0 0 0 0 0 0 0 0 0 0 0 0 0 0 0 0 0
0 0 0 0 0 0 0 0 0 0 0 0 0 0 0 0 0 0 0 0 0 0 0 0 0 0 0 0 0 0 0 0 0 0 0 0 0 0 30 26 e6f 5 881 8 0 0
ed 0 2 0 f 0 71 0 0 0 0 0 0 0 0 0 0 0 0 0 0 0 0 0 0 0 0 0 0 0 0 0 0 0 0 0 0 0 0 0 0 0 0 0 0 0 0 0
0 0 0 0 0 0 0 0 0 0 0 0 0 0 0 0 0 0 0 0 0 0 0 0 0 0 0 0 0 0 0 0 0 0 0 0 0 0 0 0 0 0 0 0 0 0 0 0 0
0 0 0 0 0 0 0 0 0 0 0 0 0 0 0 0 0 0 0 0 0 0 0 0 0 0 0 0 0 0 0 0 0 0 0 0 0 0 0 0 0 0 0 0 0 0 0 0 0
0 0 0 0 0 0 0 0 0 6 4 0 0 0 0 0 0 0 0 0 0 0 0 0 0 0 0 0 0 0 0 0 0 0 0 0 0 0 0 0 0 0 0 0 0 0 0 0 0
0 0 0 0 0 0 0 0 0 0 0 0 0 0 0 0 0 0 0 0 0 0 0 0 0 0 0 0 0 0 0 0 0 0 0 0 0 0 0 0 0 0 0 0 0 0 0 0 0
0 0 0 0 0 0 0 8 7 5 9 7 7 7 7 5 9 7 7 7 7 d 1 7 7 7 7 7 7 4 0 1 5 0 2 2 0 1 7 3 1 1 7 7 9 2 0 1
155 0 20 f 3 0 34a 19 745 2f 0 0 2 1 0 0 0 0 0 0 5 0 1 0 9 0 0 0 0 0 0 0 0 0 0 0 0 0 0 0 0 0 0 0 0
0 0 0 0 0 0 0 0 0 0 0 0 0 0 0 0 0 0 0 0 0 0 0 0 0 0 0 0 0 0 0 0 0 0 0 0 0 0 0 0 0 0 0 0 0 0 0 0 0
0 0 0 0 0 0 0 0 0 0 0 0 0 0 0 0 0 0 0 0 0 0 0 0 0 0 0 0 0 0 7 0 0 0 3 0 b 25 0 0 4 0 7912 0 0 0 0
0 0 0 0 0 0 0 0 0 0 0 0 0 0 0 0 0 0 0 0 0 0 0 0 0 0 0 0 0 0 0 0 0 0 0 0 0 0 0 0 0 12 0 0 0 0 0 0 0
0 0 0 0 0 0 0 0 0 0 0 0 0 0 0 0 0 0 0 0 86 0 0 0 0 0 0 0 0 0 0 0 0 0 2 0 0 0 0 0 0 0 0 0 0 0 0 0 0
0 0 0 0 0 0 0 0 0 0 0 0 0 0 0 0 0 0 0 0 0 0 0 0 0 0 0 0 0 0 0 0 0 0 0 0 0 0 0 0 0 0 0 0 0 0 0 9 0
0 0 1 0 0 0 0 0 0 0 0 0 3 0 3 0 0 1 1 0 0 0 0 0 0 0 0 0 0 0 0 0 0 0 0 0 0 0 a 0 0 0 0 0 0 0 0 0 0
0 0 0 0 0 3 0 0 0 1 0 0 0 0 0 0 0 0 0 0 0 0 0 0 0 19 0 35b 0 1b 4f 4f3f 6 b 4 428 19 4cc 27 87 23
9a a 0 e 0 6 0 1 702 32 7c 15 b39 1f 557f 1f 3a 18 7a4d 21 "⟩,
  ⟨["cwu", "changeswhenuppercased"], some
    "61 19 39 0 28 17 0 7 0 0 0 0 0 0 0 0 0 0 0 0 0 0 0 0 0 0 0 0 0 0 0 0 0 0 0 0 0 0 0 0 0 0 0
0 0 0 0 0 0 0 0 0 0 0 0 0 0 0 0 0 0 0 0 0 1 0 0 0 0 0 0 0 0 0 0 0 0 0 0 1 0 0 0 0 0 0 0 0 0 0 0 0
0 0 0 0 0 0 0 0 0 0 0 0 0 0 0 0 0 0 0 0 0 0 0 0 0 0 0 0 0 0 0 0 0 0 1 0 0 0 0 2 1 0 0 0 1 0 2 0 4
0 1 0 2 2 1 0 1 0 0 0 0 0 1 0 3 0 1 0 2 0 0 0 1 0 2 0 0 0 4 1 0 1 0 1 0 0 0 0 0 0 0 0 0 0 0 0 0 0
0 1 0 0 0 0 0 0 0 0 0 0 0 0 0 0 0 0 0 1 0 1 0 0 2 0 0 0 0 0 0 0 0 0 0 0 0 0 0 0 0 0 0 0 0 0 0 0 0
0 0 0 0 0 0 0 0 0 0 0 0 0 0 0 2 0 0 0 0 0 0 0 0 0 0 0 0 0 0 0 0 0 7 0 1 1 0 0 3 0 0 0 0 0 0 0 0 5
0 1 0 0 0 1 2 1 0 3 0 4 1 0 0 1 1 0 6 0 1 0 0 1 2 5 4 0 9 1 a5 0 2a 0 0 0 2 0 2 2 11 0 1a 22 0 1 2
2 0 0 0 0 0 0 0 0 0 0 0 0 0 0 0 0 0 0 0 0 0 0 0 4 0 0 1 0 1 0 33 2f 0 0 0 0 0 0 0 0 0 0 0 0 0 0 0
0 0 0 0 0 0 0 0 0 0 0 0 0 0 0 0 0 0 0 8 0 0 0 0 0 0 0 0 0 0 0 0 0 0 0 0 0 0 0 0 0 0 0 0 0 0 0 0 0
0 0 0 0 0 0 0 0 0 0 0 0 0 0 0 0 0 0 0 0 0 0 0 0 1 0 0 0 0 0 0 0 0 0 0 0 0 1 0 0 0 0 0 0 0 0 0 0 0
0 0 0 0 0 0 0 0 0 0 0 0 0 0 0 0 0 0 0 0 0 0 0 0 0 0 0 0 0 0 0 0 0 0 0 0 0 0 0 0 0 0 0 0 0 0 0 0 0
0 0 0 0 0 0 0 0 0 0 0 0 0 0 0 0 0 0 0 0 0 0 0 0 0 0 0 0 0 0 0 0 0 0 0 0 30 26 b47 2a 1 2 2f7 5 881
8 0 0 ed 0 2 0 f 0 71 0 0 0 0 0 0 0 0 0 0 0 0 0 0 0 0 0 0 0 0 0 0 0 0 0 0 0 0 0 0 0 0 0 0 0 0 0 0
0 0 0 0 0 0 0 0 0 0 0 0 0 0 0 0 0 0 0 0 0 0 0 0 0 0 0 0 0 0 0 0 0 0 0 0 0 0 0 0 0 0 0 0 0 0 0 0 0
0 0 0 0 0 0 0 0 0 0 0 0 0 0 0 0 0 0 0 0 0 0 0 0 0 0 0 0 0 0 0 0 0 0 0 0 0 0 0 0 0 0 0 0 0 0 0 0 0
0 0 0 0 0 0 0 0 0 0 0 0 6 4 0 0 0 0 0 0 0 0 0 0 0 0 0 0 0 0 0 0 0 0 0 0 0 0 0 0 0 0 0 0 0 0 0 0 0
0 0 0 0 0 0 0 0 0 0 0 0 0 0 0 0 0 0 0 0 0 0 0 0 0 0 0 0 0 0 0 0 0 0 0 0 0 0 0 0 0 0 0 0 0 0 0 0 0
0 0 0 0 0 0 0 0 0 0 8 7 5 9 7 7 7 7 5 9 7 7 7 7 d 1 34 0 1 3 0 0 0 2 2 0 1 3 0 2 3 1 1 7 7 9 2 0 1
3 0 150 0 20 f 3 0 34a 19 745 2f 0 0 2 1 0 0 0 0 0 0 5 0 1 0 9 0 0 0 0 0 0 0 0 0 0 0 0 0 0 0 0 0 0
0 0 0 0 0 0 0 0 0 0 0 0 0 0 0 0 0 0 0 0 0 0 0 0 0 0 0 0 0 0 0 0 0 0 0 0 0 0 0 0 0 0 0 0 0 0 0 0 0
0 0 0 0 0 0 0 0 0 0 0 0 0 0 0 0 0 0 0 0 0 0 0 0 0 0 0 0 0 0 0 0 7 0 0 0 3 0 b 25 0 0 4 0 7912 0 0
0 0 0 0 0 0 0 0 0 0 0 0 0 0 0 0 0 0 0 0 0 0 0 0 0 0 0 0 0 0 0 0 0 0 0 0 0 0 0 0 0 0 0 12 0 0 0 0 0
0 0 0 0 0 0 0 0 0 0 0 0 0 0 0 0 0 0 0 0 0 0 86 0 0 0 0 0 0 0 0 0 0 0 0 0 2 0 0 0 0 0 0 0 0 0 0 0 0
0 0 0 0 0 0 0 0 0 0 0 0 0 0 0 0 0 0 0 0 0 0 0 0 0 0 0 0 0 0 0 0 0 0 0 0 0 0 0 0 0 0 0 0 0 0 0 0 0
9 0 0 0 1 0 0 0 0 0 0 0 0 0 3 0 3 0 0 1 1 0 0 0 0 0 0 0 0 0 0 0 0 0 0 0 0 0 0 0 a 0 0 0 0 0 0 0 0
0 0 0 0 0 0 0 3 0 0 0 1 0 0 0 0 0 0 0 0 0 0 0 0 0 0 0 19 0 35b 0 1b 4f 4f3f 6 b 4 428 19 4cc 27 87
23 9a a 0 e 0 6 0 1 702 32 7c 15 b39 1f 557f 1f 3a 18 7a4d 21 "⟩,
  ⟨["dash"], some
    "2d 0 55b 0 32 0 e40 0 404 0 808 5 3c 0 26 0 e 0 185 0 c03 0 1 0 1e 1 3 0 1b 0 1bd 0 12 0 6e
0 cd8f 1 24 0 9 0 a8 0 e5f 0 13d 0 "⟩,
  ⟨["di", "defaultignorablecodepoint"], some
    "ad 0 2a0 0 2cb 0 b41 1 652 1 54 4 7fa 4 19 4 30 f 10f3 0 cc9a f ee 0 9f 0 4e 8 bca6 3 14ce
7 c2e84 fff "⟩,
  ⟨["dep", "deprecated"], some
    "149 0 528 0 902 0 0 0 828 1 8c4 5 2b8 1 ddcd5 0 "⟩,
  ⟨["dia", "diacritic"], some
    "5e 0 0 0 46 0 5 0 3 0 1 1 1f6 9e 0 7 4 5 10 1 3 0 8 1 fc 4 d0 0 36 2c 0 0 0 1 0 1 0 0 82 7
3 1 85 1 3 1 2 2 42 1a 5a a 39 a 21 1 7d 7 28 9 f 1b 3c 0 f 0 2 3 1b 0 49 0 f 0 6d 0 f 0 6d 0 f 0
2e 2 3b 0 f 0 6 0 76 0 6d 0 f 0 6d 0 f 0 6c 1 f 0 7b 0 6e 0 b 5 0 0 6a 0 c 4 4a 1 1a 0 0 0 0 0 3 1
41 2 0 1 3d 0 6f 0 0 1 27 1 3 4 18 6 0 0 9 1 2c0 2 3b3 1 1d 0 93 a 8 0 15a 2 123 0 13 7 1 0 2f e 1
a 2 e 1 b 47 0 e 0 25 8 35 1 39 0 a 1 41 1 3f 5 51 18 3 0 5 0 1 2 31 3e 2f 23 4 b 24 a 1bc 0 0 2 a
2 c 2 c 2 c 1 cef 2 13c 0 1f9 5 68 3 5e 0 7571 0 b 1 0 0 1b 1 51 1 d 21 65 2 65 0 5 1 b 0 24 0 96
0 1a 11 38 3 23 0 5e 0 b 0 23 0 94 2 40 3 32 0 63 4 8 2 7f 1 4f2f 0 300 f 10d 0 0 0 2e 0 2c 1 42 0
2fb 0 49e 5 0 29 0 8 27c 2 3 0 a4 1 23a 5 25 0 19 4 18b 0 1 2 45 a 30 3 bf 0 28 0 47 1 77 1 3d 0
4b 0 8 2 67 1 b1 1 4f 1 f 0 17 6 2 4 58 2 0 1 c 1 5e 0 2 0 7a 1 fa 1 7d 0 75 1 72 0 10c 1 101 1 3
0 9b 0 52 0 11 0 50 0 1a4 0 101 0 0 1 50 0 40 0 166 1 16 0 14eb e 2cd8 0 9bf 4 3a 6 233 1 221 10
4f 1 3ffd 3 0 6 0 1 1f00 2d 1 16 21f 2 2 5 7 7 1 6 1d 3 e81 3d c1 6 176 0 3c 3 2fd 1 2df 6 6c 2 0
2 "⟩,
  ⟨["emoji"], some
    "23 0 5 0 4 9 6e 0 3 0 1f8c 0 b 0 d7 0 15 0 59 5 e 1 16e 1 b 0 a5 0 18 a 3 2 c6 0 e6 1 9 0 8
0 39 3 0 4 8 0 1 0 1 1 1 0 3 0 1 0 0 1 1 0 2 0 2 1 7 2 4 0 0 0 4 b a 1 1 0 0 1 0 0 11 0 1 1 11 5 0
0 0 1 2 1 4 0 1 1 3 1 a 1 4 1 1 0 4 1 0 0 0 1 13 1 4 5 0 3 1 0 3 0 1 0 1 5 0 0 1 0 0 0 0 0 5 0 2 0
5 0 9 1 e 0 1 0 3 0 0 0 3 2 0 0 a 1 2f 2 8 0 d 0 d 0 173 1 1ce 2 12 1 32 0 3 0 4d9 0 b 0 258 0 0 0
1bd69 0 c9 0 9f 1 b 1 d 0 1 9 4a 19 0 1 16 0 13 0 1 8 14 1 ad 21 1 6f 1 1 0 2 1 52 1 2 0 106 0 3e
a 5 0 17 6 1 1 7 b 0 1 3 1 0 3 1 c 1 1 0 7 1 8 0 4 2 b 2 7 2 1 0 0 0 3 0 5 0 2 0 5 55 2f 45 4 7 1
3 2 9 2 0 0 1 2 0 1 9 e2 b 3 0 11a 2e 0 9 0 b8 6f c 2 a 2 38 0 0 3 f 1 b 3 9 "⟩,
  ⟨["ecomp", "emojicomponent"], some
    "23 0 5 0 4 9 1fd2 0 d4 0 dd2a 0 f3d5 19 1fa 4 5af 3 c066b 5f "⟩,
  ⟨["emod", "emojimodifier"], some
    "1f3fb 4 "⟩,
  ⟨["ebase", "emojimodifierbase"], some
    "261d 0 da 0 f 3 1cc76 0 3b 2 1 0 1 2 74 1 1 a 14 12 2 0 3 2 0 2 6 0 0 0 17 0 c8 1 3 0 14 0
3 1 ad 2 2 4 52 0 f 2 8 0 a 0 23e 0 1 0 7 7 5 0 8 9 1 2 37 0 3c 1 0 1 0 0 10 2 0 c e4 2 29 8 "⟩,
  ⟨["epres", "emojipresentation"], some
    "231a 1 cc 3 2 0 1 0 208 1 14 1 31 b 2a 0 12 0 c 0 7 1 10 1 4 1 7 0 4 0 14 0 6 1 0 0 3 0 1 0
6 0 3 1 1b 0 22 0 0 0 3 2 0 0 3c 2 17 0 d 0 35a 1 32 0 3 0 1c4ad 0 c9 0 bd 0 1 9 4a 19 0 0 17 0 13
0 1 4 0 2 14 1 ad 20 b 8 0 45 0 15 b 2a 3 4 b 10 2 0 2 46 0 0 0 ba 1 3e c 3 0 17 11 0 19 1 c 0 55
54 2f 45 5 0 2 2 1 3 2 3 a 1 6 8 e2 b 3 0 11a 2e 0 9 0 b8 6f c 2 a 2 38 0 0 3 f 1 b 3 9 "⟩,
  ⟨["extpict", "extendedpictographic"], some
    "a9 0 3 0 1f8c 0 b 0 d7 0 15 0 59 5 e 1 16e 1 b 0 a5 0 18 a 3 2 c6 0 e6 1 9 0 8 0 39 3 0 4 8
0 1 0 1 1 1 0 3 0 1 0 0 1 1 0 2 0 2 1 7 2 4 0 0 0 4 b a 1 1 0 0 1 0 0 11 0 1 1 11 5 0 0 0 1 2 1 4
0 1 1 3 1 a 1 4 1 1 0 4 1 0 0 0 1 13 1 4 5 0 3 1 0 3 0 1 0 1 5 0 0 1 0 0 0 0 0 5 0 2 0 5 0 9 1 e 0
1 0 3 0 0 0 3 2 0 0 a 1 2f 2 8 0 d 0 d 0 173 1 1ce 2 12 1 32 0 3 0 4d9 0 b 0 258 0 0 0 1bd69 0 26
3 63 b e 1 e 0 d 1 24 9 6f 1 b 1 d 0 1 9 12 37 1a e 9 0 13 0 1 8 0 3 8 16 5 bb 1 6f 1 1 0 2 1 52 1
2 0 3 4 fd 0 3e a 5 0 17 6 1 1 7 b 0 1 3 1 0 3 1 c 1 1 0 7 1 8 0 4 2 b 2 7 2 1 0 0 0 3 0 5 0 2 0 5
55 2f 45 4 7 1 10 2 0 0 5 1 c d9 25 b 3 37 7 9 5 27 7 1d 1 b 3 1 d 8 26 b 2e 0 9 0 b8 57 7 d 91 ff
3fd "⟩,
  ⟨["ext", "extender"], some
    "b7 0 217 1 36d 0 1b8 0 275 0 88 0 58 0 2ef 0 7e 0 942 0 37 0 262 0 18d 0 43 0 1388 0 2a 4
66 1 5c 2 6f15 0 5f5 0 3c1 0 15 0 88 0 6b 0 14 1 547a 0 80f 1 5ca 0 1a 0 3 0 4c6 0 124 0 73 1 1f1
2 4ce 0 33f 0 4d67 1 49b 1 0 0 d 1 7147 1 4b0 0 353 2 "⟩,
  ⟨["grbase", "graphemebase"], some
    "20 5e 20 c 0 251 6f 7 1 5 3 6 0 0 0 13 0 df 6 a5 0 25 1 31 1 2 2d 0 0 0 1 0 1 0 8 1a 3 5 10
9 a 0 0 2d 14 f 0 64 7 0 5 1 1 0 3 1f 1 0 0 1d 1c 58 a 0 d 2a 8 6 2 17 3 0 8 0 2 0 6 e 0 18 4 0 0
a 4 1f f 29 38 36 0 0 0 3 7 3 0 2 6 9 1 1c 0 1 0 7 1 1 1 15 0 6 0 0 2 3 2 0 0 1 5 1 1 1 0 0 c 1 0
2 3 17 4 0 0 5 3 1 1 15 0 6 0 1 0 1 0 1 3 2 17 3 0 0 6 9 1 2 0 0 b 0 0 8 0 2 0 15 0 6 0 1 0 4 2 3
7 0 0 1 2 0 e 1 3 b 6 0 7 1 0 7 1 1 1 15 0 6 0 1 0 4 2 0 1 0 5 1 1 1 e 1 0 2 3 11 a 0 0 5 2 2 0 3
2 1 0 0 0 1 2 1 2 2 2 b 4 0 0 1 2 2 0 2 2 0 14 14 5 2 0 7 0 2 0 16 0 f 2 0 2 3 12 2 0 1 1 1 3 9 6
9 0 a 0 2 0 16 0 9 0 4 2 1 1 0 0 1 16 2 0 1 3 9 0 2 d a 0 2 0 28 1 0 0 1 4 2 0 2 0 1 3 2 0 9 3 19
1 1 0 11 2 17 0 8 0 0 1 6 8 1 5 6 6 9 1 2 b 2f 0 1 a 7 7 c 24 1 0 0 0 4 0 17 0 0 0 9 0 1 8 0 1 4 0
0 8 9 1 3 1f 17 1 1a 0 0 0 0 0 d 0 23 11 0 4 0 1 4 30 7 0 5 0 c 24 2c 3 0 5 0 1 1 1 18 1 3 2 f 3 c
0 1 1 5 0 e 0 27 0 0 4 0 1 178 0 3 1 6 0 0 0 3 1 28 0 3 1 20 0 3 1 6 0 0 0 3 1 e 0 38 0 3 1 42 4
1c 2 19 5 55 1 5 1 29c 2 58 6 11 c 12 2 1 8 11 d c 0 2 e 33 1 0 6 7 0 1 a 8 2 9 5 9 5 a 4 9 5 58 6
4 1 21 0 0 4 45 9 1e 3 3 1 2 3 1 0 5 6 0 2 29 1 4 a 2b 3 19 5 a 2 38 1 1 2 37 0 0 8 0 0 1 7 5 c 9
5 9 5 d 55 2f 9 3 2 7 0 1c 8 b 1 1f 3 1 5 37 0 0 1 2 0 0 c 2f 7 1 4 e 2 3d 4 2a 1 a a 0 c 0 6 3 0
5 0 2 1 0 4 bf 3f 115 1 5 1 25 1 5 1 7 0 0 0 0 0 0 0 1e 1 34 0 e 0 d 1 5 0 12 1 2 0 8 0 a 4 17 6
30 f 1 1 1a 0 c 2 21 3d 8b 3 299 15 a 14 713 1 178 2 1 4 2c 0 0 4 0 1 37 6 1 e 16 8 6 0 6 0 6 0 6
0 6 0 6 0 6 0 6 20 5d 21 19 0 58 b d5 19 39 5 f 0 55 3 64 4 2a 0 5d 0 55 8 2f 0 726c 2 36 8 15b 13
2e 3 0 9 1f 1 4f 1 5 7 dc 13 10 0 2 0 3 0 18 1 4 3 9 5 37 7 43 9 b 17 c 0 25 7 18 a 0 b 1d 5 2f 0
1 3 1 1 1 0 c 0 a 3 6 0 18 0 28 5 1 1 1 a 2 0 7 0 0 1 9 1 1f 0 32 0 0 2 1 1 4 1 0 0 0 17 10 1 7 a
5 1 5 1 5 8 6 0 6 0 3b 3 74 0 1 0 3 2 9 5 2ba3 b 16 3 30 2103 16d 1 69 25 6 b 4 4 0 0 17 0 4 0 0 0
1 0 1 0 289 1f f f 9 15 22 0 12 0 3 3 4 0 86 3 9c 1 1e 2 5 1 5 1 5 1 2 2 6 0 6 c 1 1 b 0 19 0 12 0
1 0 e 1 d 21 7a 4 2 3 2c 2 57 0 c 2 0 2e 2c 82 1c 2 30 f 1a 3 23 8 1d 4 25 9 1d 0 24 3 d 29 9d 1 9
5 23 3 23 3 27 7 33 a b 0 e 0 6 0 1 0 a 0 e 0 6 0 1 2 33 b 136 8 15 9 7 17 5 0 29 0 8 44 5 1 0 0
2b 0 1 2 0 1 16 0 47 7 8 2f 12 0 1 4 20 2 1a 4 1a 25 37 3 13 1 2e e 3 0 2 0 1c 9 8 6 8 6 3f 1f 24
5 b 8 35 2 1c 1 1a 4 19 6 3 b 6 4f 48 36 32 c 32 6 29 b 9 5 25 7 17 7 1 cf 1e 0 29 2 0 1 1 f 5 7 8
26 27 7 15 a 8 15 11 3 3 25 1b 13 16 8 0 0 35 e 6 3 1d 0 1 1 0 b 30 3 1 1 1 0 3 d 18 6 9 8 23 4 0
8 11 7 22 0 2 a 33 8 0 0 7 3 1 0 f 0 13 a 11 0 1b 2 1 3 5 0 1 3e 6 0 0 0 3 0 e 0 a 5 2e 0 2 c 9 7
1 0 7 1 1 1 15 0 6 0 1 0 4 2 0 0 0 0 3 1 1 1 1 2 0 b 6 1b 9 0 0 1 0 0 25 0 0 0 1 e 0 0 1 2 0 0 2 0
1 26 37 7 1 2 0 0 14 0 0 0 2 1d 2f 0 1 5 0 0 1 0 0 1 0 1 3 7 9 a5 2e 0 1 5 3 1 0 1 1a 23 32 7 1 0
0 1 3 a 9 5 c 12 2a 0 0 0 1 7 1 5 9 5 13 1b 1a 2 0 0 1 3 0 8 16 b8 2e 8 0 1 0 63 52 b 7 1 0 1 7 0
1 0 17 0 4 0 1 5 3 0 2 8 9 45 7 1 29 7 3 0 3 1a 0 9 27 5 1 3 7 8 0 5 1 2 2d c 0 1 8 c 48 6 9 56 0
2 0 0 0 57 21 d 9 5 8 0 25 d 0 0 5 9 1c 2 1f 18 0 6 0 1 0 4a 6 0 1 0 25 14 0 8 9 5 5 0 1 0 24 3 1
0 0 0 0 6 9 5 2b 3 9 f5 12 1 3 8 e 0 23 7 1 2 16 55 0 e 31 c 39a 65 6e 0 4 a c3 a4b 62 c 42f 10 5
18 f9a 4 246 1ab8 1d b 2 2 9 6c5 238 6 1e 0 9 3 50 0 9 5 1d 6 0 9 2f 6 e 9 9 0 6 0 14 4 12 1af 39
c5 5a 4 18 1 18 2b 4a 4 37 a c 3f 3 d 4 8 1cd5 28 1f 60 72 21fc 3 0 6 0 1 0 122 e 0 1c 2 1 0 d 3 7
18b 903 6a 4 c 2 8 6 9 1 0 1 0 f5f fc 2 1b3 5 16 e 10 5e 73 3b f5 9 26 1 3b 4 2 15 1 6 1d 3 3c 14
41 2 0 79 13 b 13 b 56 8 18 86 54 0 46 0 1 1 0 1 1 1 3 0 b 0 0 0 6 0 40 0 3 1 7 0 6 0 1b 0 3 0 4 0
0 2 6 0 153 1 123 1 231 36 3 31 7 0 d 0 6 473 1e 5 5 104 3d 91 2c 9 6 1 9 3 1 13f 1d 11 2b 3 9 4 0
1cf 1b 3 9 d5 1d 1 a 3 0 bf 1e 0 2 0 1 0 6 1 4 8 1 df 6 0 3 0 1 0 e 0 c4 1 8 2f 43 6 0 3 9 3 1 310
43 4b 3c c1 3 0 1a 0 1 0 0 1 0 0 9 0 3 0 0 0 0 5 0 3 0 0 0 0 0 0 2 0 1 0 0 1 0 0 0 0 0 0 0 0 0 0 1
0 0 1 3 0 6 0 3 0 3 0 0 0 9 0 10 4 2 0 4 0 10 33 1 10d 2b 3 63 b e 1 e 0 e 0 24 9 ad 37 1c c 2b 3
8 6 1 d 5 99 3d8 2 10 2 c 2 d9 5 b 3 0 e b 3 37 7 9 5 27 7 1d 1 b 3 1 d 8 26 157 7 d 1 c 2 a 2 38
0 0 3 f 1 b 3 9 6 92 0 66 404 a6df 1f 111d 1 168d 1 1d30 e 26d 9a1 21d 5e1 134a 4 2129 "⟩,
  ⟨["grext", "graphemeextend"], some
    "300 6f 112 6 106 2c 0 0 0 1 0 1 0 0 47 a 2f 14 f 0 64 6 1 5 1 1 0 3 22 0 1d 1a 5a a 39 8 8
0 17 3 0 8 0 2 0 4 2a 2 3a 8 29 17 0 1f 36 0 0 0 3 7 3 0 2 6 9 1 1c 0 39 0 0 0 1 3 7 0 8 0 9 1 19
0 1 1 38 0 3 1 3 1 1 2 2 0 1d 1 2 0 a 1 38 0 3 4 0 1 3 0 13 1 15 5 0 0 39 0 0 1 0 3 7 0 6 2 9 1 1d
0 3a 0 0 0 b 0 8 0 27 0 2 0 36 0 0 2 4 2 0 3 6 1 a 1 1c 0 39 0 1 1 0 0 2 2 0 3 6 1 a 1 1b 1 38 1 0
0 1 3 7 0 8 0 9 1 1c 0 47 0 3 0 1 2 0 0 7 0 50 0 1 6 b 7 61 0 1 8 a 6 48 1 1a 0 0 0 0 0 36 d 0 4 0
1 4 a 0 23 8 0 65 3 0 5 0 1 1 1 18 1 3 2 f 3 c 0 1 1 5 0 e 0 2be 2 3b1 3 1b 2 1c 1 1d 1 3f 1 0 6 7
0 1 a 8 0 2c 2 0 0 74 1 21 0 75 2 3 1 8 0 5 2 da 1 1 0 39 0 0 6 0 0 0 0 1 7 5 9 1 0 2f 2d 1 b 13 3
2f 9 3 2 25 8 b 1 1f 3 1 5 37 0 0 1 2 0 0 4 37 7 1 1 97 2 0 c 0 6 3 0 5 0 2 1 c5 3f 20b 0 c2 20
bfd 2 8c 0 5f 1f 229 5 68 1 75d3 3 0 9 1f 1 4f 1 10f 0 2 0 3 0 18 1 4 0 96 1 19 11 c 0 25 7 18 a 0
0 2b 2 2f 0 1 3 1 1 1 0 23 0 42 5 1 1 1 1 b 0 7 0 2e 0 32 0 0 2 1 1 4 1 0 0 29 1 7 0 ed 0 1 0 3 0
4f2f 0 2e0 f f f 16d 1 25c 0 e1 0 94 4 685 2 0 1 4 3 27 2 3 0 a4 1 23c 3 40 4 13c 1 4c 5 45 a 30 3
7a 0 35 e 28 0 1 1 9 2 30 3 1 1 6 0 3c 2 23 4 0 7 3d 0 b 1 33 8 0 0 7 3 1 0 5e 2 1 3 5 0 1 0 9c 0
2 7 14 1 38 1 0 0 0 0 b 0 8 0 d 6 2 4 42 0 1 5 0 0 1 0 0 2 3 2 0 0 d 1 54 7 1 2 0 0 16 0 50 0 1 5
0 0 1 0 0 1 0 1 ea 0 1 3 5 1 0 1 1a 1 54 7 1 0 0 1 69 0 0 0 1 7 64 0 0 0 1 3 0 4 102 8 0 1 f4 0 9
3 3 0 8f 3 1 1 3 0 1f 9 27 5 1 3 7 0 8 5 1 2 2d c 0 1 c5 0 0 2 0 0 c8 6 0 5 0 0 51 15 1 6 0 1 0 1
79 5 2 0 0 1 0 6 0 0 47 1 2 0 0 0 15a 1 a 1 33 4 4 2 16 0 14e4 0 5 e 2cc7 b 2 2 9bf 4 3a 6 417 0
3e 3 50 0 a 1 4caa 1 1260 2d 1 16 21d 4 2 5 7 7 1 6 1d 3 93 2 7ba 36 3 31 7 0 d 0 15 4 0 e 54f 6 0
10 1 6 0 1 0 4 63 0 9f 6 176 0 3c 3 1fb 3 fd 1 f2 0 1 0 6 1 4 0 1d9 6 6c 6 c16d4 5f 7f ef "⟩,
  ⟨["grlink", "graphemelink"], some
    "94d 0 7e 0 7e 0 7e 0 7e 0 7e 0 7e 0 7e 0 6c 1 f 0 7b 0 6e 0 7e 0 c8 0 b3 1 6d8 1 1d 0 9c 0
28c 0 e2 0 64 1 45 1 118a 0 7a85 0 24 0 96 0 8d 0 6b 0 134 0 f5 0 5e50 0 605 0 28 0 d 0 38 0 78 1
8a 0 73 0 b3 0 61 0 7f 2 70 0 7e 0 fb 0 7e 0 75 0 73 0 10c 0 102 1 a0 0 52 0 11 0 50 0 1a4 0 103 1
50 0 1a8 1 41eb 0 "⟩,
  ⟨["hex", "hexdigit"], some
    "30 9 6 5 19 5 fea8 9 6 5 19 5 "⟩,
  ⟨["hyphen"], some
    "2d 0 7e 0 4db 0 127a 0 808 1 e04 0 2e2 0 cd66 0 a8 0 56 0 "⟩,
  ⟨["idsb", "idsbinaryoperator"], some
    "2ff0 1 1 9 1f0 0 "⟩,
  ⟨["idst", "idstrinaryoperator"], some
    "2ff2 1 "⟩,
  ⟨["idsu", "idsunaryoperator"], some
    "2ffe 1 "⟩,
  ⟨["idcompatmathcontinue"], some
    "b2 1 4 0 1fb5 0 2 a 0 e 172 0 3 0 15 0 1b4a1 0 18 0 1e 0 18 0 1e 0 18 0 1e 0 18 0 1e 0 18 0 "⟩,
  ⟨["idcompatmathstart"], some
    "2202 0 3 0 15 0 1b4a1 0 18 0 1e 0 18 0 1e 0 18 0 1e 0 18 0 1e 0 18 0 "⟩,
  ⟨["idc", "idcontinue"], some
    "30 9 6 19 3 0 0 19 2e 0 9 0 0 0 1 0 4 16 0 1e 0 1c9 3 b d 4 6 0 0 0 10 74 0 1 1 3 0 0 5 4 0
0 0 13 0 52 0 8a 0 4 1 a5 0 25 1 0 5 28 7 2c 0 0 0 1 0 1 0 0 7 1a 3 3 1c a 4 49 3 65 0 7 1 9 0 12
1 0 f 3a 1 64 d 35 3 0 1 0 1 2d 11 1b 3 a 4 17 0 6 6 4a 0 80 1 9 0 12 0 7 1 1 1 15 0 6 0 0 2 3 1 8
1 1 1 3 7 0 3 1 0 4 1 b 9 0 0 0 1 2 0 5 3 1 1 15 0 6 0 1 0 1 0 1 1 0 0 4 3 1 1 2 2 0 6 3 0 0 6 f a
2 0 8 0 2 0 15 0 6 0 1 0 4 1 9 0 2 0 2 1 0 e 3 1 9 8 6 0 2 0 7 1 1 1 15 0 6 0 1 0 4 1 8 1 1 1 2 6
2 3 1 0 4 1 9 0 0 f 1 0 5 2 2 0 3 2 1 0 0 0 1 2 1 2 2 2 b 3 4 2 2 0 3 1 0 5 0 d 9 f c 0 2 0 16 0 f
1 8 0 2 0 3 6 1 0 2 0 1 1 3 1 9 f 3 0 7 0 2 0 16 0 9 0 4 1 8 0 2 0 3 6 1 4 2 0 3 1 9 0 2 b c 0 2 0
32 0 2 0 4 4 3 6 4 1 9 9 5 0 2 0 11 2 17 0 8 0 0 1 6 2 0 3 5 0 0 0 7 5 9 1 1 c 39 4 e 0 9 26 1 0 0
0 4 0 17 0 0 0 16 1 4 0 0 0 6 0 9 1 3 1f 0 16 1 5 9 a 0 0 0 0 0 3 9 0 23 3 13 0 11 0 23 8 0 38 49
5 4d 1 25 0 0 4 0 1 2a 0 14c 0 3 1 6 0 0 0 3 1 28 0 3 1 20 0 3 1 6 0 0 0 3 1 e 0 38 0 3 1 42 1 2 8
8 d f f 55 1 5 2 26b 1 10 0 19 4 4a 2 a 6 15 8 15 a 13 b c 0 2 0 1 b 53 2 0 3 1 1 9 20 2 0 a 5 58
6 2a 4 45 9 1e 0 b 3 b 9 27 1 4 a 2b 3 19 5 a 24 1b 3 3e 0 1c 1 a 5 9 c 0 7 d 0 1e 1 b 13 4c 2 9
10 8 b 73 b 37 7 9 2 30 1 a 4 2a 1 2 f 2 0 26 4 215 1 5 1 25 1 5 1 7 0 0 0 0 0 0 0 1e 1 34 0 6 0 0
2 2 0 6 2 3 1 5 3 c 4 2 0 6 e 1 30 1 12 0 1b 0 c 0 f c 32 c 3 0 2 b 10 0 3 0 1 9 0 0 1 5 5 0 0 0 0
0 0 f 1 3 4 4 3 0 10 28 a76 e4 5 8 b 25 0 0 4 0 1 37 6 0 e 17 8 6 0 6 0 6 0 6 0 6 0 6 0 6 0 6 0 1f
204 2 18 e 0 4 1 4 3 55 1 6 0 5e 4 2a 0 5d 10 1f 2f f 1ff 19bf 3f 568c 42 2d 1 10c 2 1b 13 2f 3 9
0 72 24 8 1 66 1 51 13 36 3 0 12 33 b 45 9 9 5 17 2 0 0 30 1 23 b 1c 2 40 d a 5 1e 0 36 8 d 1 9 5
16 2 48 17 2 1 f 1 4 9 5 1 5 1 5 8 6 0 6 0 2a 0 d 5 7a 0 1 1 9 5 2ba3 b 16 3 30 2103 16d 1 69 25 6
b 4 4 b 0 c 0 4 0 0 0 1 0 1 0 6b 20 16a 11 3f 1 35 27 b 3 f f f 2 1 17 2 1f 4 0 86 12 9 6 19 3 0 0
19 9 59 2 5 1 5 1 5 1 2 22 b 0 19 0 12 0 1 0 e 1 d 21 7a 44 34 87 0 81 1c 2 30 e 0 1e 1f c 1d 4 2a
4 1d 1 23 3 7 0 4 29 9d 1 9 5 23 3 23 3 27 7 33 b a 0 e 0 6 0 1 0 a 0 e 0 6 0 1 2 33 b 136 8 15 9
7 17 5 0 29 0 8 44 5 1 0 0 2b 0 1 2 0 1 16 9 16 8 1e 40 12 0 1 9 15 9 19 5 19 25 37 5 1 3f 3 0 1 4
7 0 2 0 1c 1 2 3 0 1f 1c 2 1c 22 7 0 1d 18 35 9 15 9 12 c 11 6d 48 36 32 c 32 c 27 7 9 5 25 2 4 0
16 f9 29 0 1 2 1 f 5 31 22 9 0 7 20 1e 15 29 14 1a 16 8 46 1e f 8 3b 6 0 c 18 6 9 5 34 0 9 3 3 7
23 1 0 8 44 3 3 0 c 0 0 22 11 0 24 5 3 3d 6 0 0 0 3 0 e 0 9 6 3a 4 9 5 3 0 7 1 1 1 15 0 6 0 1 0 4
0 9 1 1 1 2 1 0 5 0 4 6 1 6 2 4 a 9 0 0 1 0 0 25 0 9 0 0 1 0 0 3 0 7 c 1 1c 4a 4 9 3 3 1d 45 0 0 7
9 a5 35 1 8 16 5 21 40 2 0 a 9 25 38 6 9 5 13 1b 1a 1 e 3 9 5 6 b8 3a 64 49 14 7 1 0 1 7 0 1 0 1d
0 1 1 8 b 9 45 7 1 2d 1 7 0 1 1a 3e 7 0 7 49 2 0 11 48 66 7 57 20 e 9 5 8 0 2c 0 8 e 9 17 1d 1 15
0 d 48 6 0 1 0 2b 2 0 0 1 0 8 7 9 5 5 0 1 0 24 0 1 0 5 6 9 5 2b 3 9 f5 16 8 10 0 28 2 4 c a 54 0
4e 399 65 6e 10 c3 a4b 60 e 42f f 15 9 f9a 4 246 1ab8 39 6c5 238 6 1e 0 9 5 4e 0 9 5 1d 1 4 a 36 8
3 b 9 8 14 4 12 1af 2c 2 9 c5 3f 1f 18 1 18 2b 4a 3 38 6 10 3f 1 0 1 a 6 8 1cd5 28 1f 60 72 21fc 3
0 6 0 1 0 122 e 0 1c 2 1 0 d 3 7 18b 903 6a 4 c 2 8 6 9 2 1 1050 9 205 2d 1 16 21d 4 2 5 7 7 1 6
1d 3 93 2 1ba 54 0 46 0 1 1 0 1 1 1 3 0 b 0 0 0 6 0 40 0 3 1 7 0 6 0 1b 0 3 0 4 0 0 2 6 0 153 1 18
0 18 0 1e 0 18 0 1e 0 18 0 1e 0 18 0 1e 0 18 0 7 1 31 1ff 36 3 31 7 0 d 0 15 4 0 e 44f 1e 5 5 d4 6
0 10 1 6 0 1 0 4 4 3d 20 0 6f 2c 2 d 1 9 3 0 140 1e 10 39 1d5 29 d5 2a c4 1e 0 15 7 1 df 6 0 3 0 1
0 e 0 c4 a 6 28 4b 3 9 4a5 3 0 1a 0 1 0 0 1 0 0 9 0 3 0 0 0 0 5 0 3 0 0 0 0 0 0 2 0 1 0 0 1 0 0 0
0 0 0 0 0 0 0 1 0 0 1 3 0 6 0 3 0 3 0 0 0 9 0 10 4 2 0 4 0 10 d33 9 405 a6df 1f 111d 1 168d 1 1d30
e 26d 9a1 21d 5e1 134a 4 2129 acc85 ef "⟩,
  ⟨["ids", "idstart"], some
    "41 19 5 19 2e 0 9 0 3 0 4 16 0 1e 0 1c9 3 b d 4 6 0 0 0 80 4 0 1 1 3 0 0 5 0 0 2 0 0 0 13 0
52 0 8a 7 a5 0 25 1 0 5 28 46 1a 3 3 2c 2a 22 1 0 62 0 0 e 1 6 1 9 2 1 0 f 0 0 1d 1c 58 a 0 17 20
8 1 3 0 4 15 3 0 8 0 2 0 16 18 6 a 4 17 0 6 f 29 39 35 2 0 11 0 6 9 e f 3 7 1 1 1 15 0 6 0 0 2 3 2
0 f 0 c 1 0 2 d 1 9 0 7 5 3 1 1 15 0 6 0 1 0 1 0 1 1e 3 0 0 12 2 f 8 0 2 0 15 0 6 0 1 0 4 2 0 11 0
e 1 16 0 a 7 1 1 1 15 0 6 0 1 0 4 2 0 1d 1 0 2 e 0 10 0 0 5 2 2 0 3 2 1 0 0 0 1 2 1 2 2 2 b 15 0
33 7 0 2 0 16 0 f 2 0 19 2 0 1 1 1 1d 0 3 7 0 2 0 16 0 9 0 4 2 0 1d 2 0 1 e 1 10 8 0 2 0 28 1 0 f
0 4 2 7 2 17 5 4 11 2 17 0 8 0 0 1 6 39 2f 0 1 b 6 39 1 0 0 0 4 0 17 0 0 0 9 0 1 8 0 1 4 0 0 14 3
1f 0 3e 7 0 23 1a 4 72 2a 13 0 f 5 3 3 2 0 2 1 6 2 3 c b 0 10 25 0 0 4 0 1 2a 0 14c 0 3 1 6 0 0 0
3 1 28 0 3 1 20 0 3 1 6 0 0 0 3 1 e 0 38 0 3 1 42 24 f f 55 1 5 2 26b 1 10 0 19 4 4a 2 a 6 11 c 12
d 11 d c 0 2 e 33 22 0 3 0 42 58 6 28 0 0 4 45 9 1e 30 1d 1 4 a 2b 3 19 35 16 8 34 51 0 5c 2e 10 7
35 1d c 1 9 2b 19 23 28 2 9 23 1 a 4 2a 1 2 28 3 0 5 0 1 2 0 4 bf 3f 115 1 5 1 25 1 5 1 7 0 0 0 0
0 0 0 1e 1 34 0 6 0 0 2 2 0 6 2 3 1 5 3 c 4 2 0 6 73 0 c 0 f c 64 0 3 0 1 9 0 0 1 5 5 0 0 0 0 0 0
f 1 3 4 4 3 0 10 28 a76 e4 5 3 2 1 b 25 0 0 4 0 1 37 6 0 f 16 8 6 0 6 0 6 0 6 0 6 0 6 0 6 0 6 225
2 18 8 6 4 1 4 3 55 3 4 0 59 0 3 4 2a 0 5d 10 1f 2f f 1ff 19bf 3f 568c 42 2d 1 10c 2 f 9 1 13 2e f
1e 1 4f 26 8 1 66 1 51 13 10 0 2 0 3 0 16 1c 33 d 31 3d 5 2 0 0 1 a 1b 9 16 18 1c 6 2e 1b 0 f 4 0
9 9 4 0 28 16 2 0 7 13 16 2 0 2 31 0 0 2 1 1 4 1 0 0 0 17 2 1 a 6 2 b 5 1 5 1 5 8 6 0 6 0 2a 0 d 5
72 1c 2ba3 b 16 3 30 2103 16d 1 69 25 6 b 4 4 0 0 9 0 c 0 4 0 0 0 1 0 1 0 6b 20 16a 11 3f 1 35 27
b 73 4 0 86 23 19 5 19 a 58 2 5 1 5 1 5 1 2 22 b 0 19 0 12 0 1 0 e 1 d 21 7a 44 34 10a 1c 2 30 2e
1f c 1d 4 25 9 1d 1 23 3 7 0 4 29 9d 11 23 3 23 3 27 7 33 b a 0 e 0 6 0 1 0 a 0 e 0 6 0 1 2 33 b
136 8 15 9 7 17 5 0 29 0 8 44 5 1 0 0 2b 0 1 2 0 1 16 9 16 8 1e 40 12 0 1 9 15 9 19 5 19 25 37 5 1
3f 0 e 3 0 2 0 1c 29 1c 2 1c 22 7 0 1b 1a 35 9 15 9 12 c 11 6d 48 36 32 c 32 c 23 25 1b 8 16 f9 29
5 1 f 5 37 1c 9 0 7 15 29 11 2d 14 1a 16 b 34 38 1 1 0 c 2c 1f 18 19 23 1c 0 1 0 7 22 2 0 b 2f d 3
14 0 0 0 22 11 0 18 12 1 3e 6 0 0 0 3 0 e 0 9 6 2e 25 7 1 1 1 15 0 6 0 1 0 4 2 0 11 0 b 4 1d 9 0 0
1 0 0 25 0 0 18 0 0 0 2b 34 11 3 13 2 1d 2f 13 1 0 0 b7 2e 28 3 23 2f 13 0 3a 2a c 0 46 1a 24 6 b8
2b 73 3f 1e 7 1 0 1 7 0 1 0 17 e 0 0 0 5d 7 1 26 f 0 0 0 1b 0 9 27 6 0 14 0 a 2d 12 0 11 48 c6 20
1e 8 0 24 10 0 30 1d 6f 6 0 1 0 25 14 0 18 5 0 1 0 1f d 0 16 2b 103 12 e 0 0 c 0 21 7b 0 4e 399 65
6e 10 c3 a4b 60 e 42f 10 5 18 f9a 4 246 1ab8 1d 6e1 238 6 1e 10 4e 10 1d 11 2f f 3 1e 14 4 12 1af
2c d2 3f 1f 18 1 18 2b 4a 4 0 41 c 3f 1 0 0 d 4 8 1cd5 28 1f 60 72 21fc 3 0 6 0 1 0 122 e 0 1c 2 1
0 d 3 7 18b 903 6a 4 c 2 8 6 9 1765 54 0 46 0 1 1 0 1 1 1 3 0 b 0 0 0 6 0 40 0 3 1 7 0 6 0 1b 0 3
0 4 0 0 2 6 0 153 1 18 0 18 0 1e 0 18 0 1e 0 18 0 1e 0 18 0 1e 0 18 0 7 733 1e 5 5 104 3d 91 2c 9
6 f 0 140 1d 11 2b 1e3 1b e3 1d 1 0 ce 1e 0 2 0 1 0 6 1 4 8 1 df 6 0 3 0 1 0 e 0 c4 3a 43 6 0 4b3
3 0 1a 0 1 0 0 1 0 0 9 0 3 0 0 0 0 5 0 3 0 0 0 0 0 0 2 0 1 0 0 1 0 0 0 0 0 0 0 0 0 0 1 0 0 1 3 0 6
0 3 0 3 0 0 0 9 0 10 4 2 0 4 0 10 1143 a6df 1f 111d 1 168d 1 1d30 e 26d 9a1 21d 5e1 134a 4 2129 "⟩,
  ⟨["ideo", "ideographic"], some
    "3006 1 18 8 d 2 3c4 19bf 3f 51ff 58ff 16d 1 69 7509 0 c 4 8 1cd5 28 1f 60 72 237c 18b 4d03
a6df 1f 111d 1 168d 1 1d30 e 26d 9a1 21d 5e1 134a 4 2129 "⟩,
  ⟨["joinc", "joincontrol"], some
    "200c 1 "⟩,
  ⟨["loe", "logicalorderexception"], some
    "e40 4 7a 4 aef 2 1 0 90f9 1 1 0 0 1 "⟩,
  ⟨["lower", "lowercase"], some
    "61 19 2e 0 9 0 3 0 23 17 0 7 0 0 0 0 0 0 0 0 0 0 0 0 0 0 0 0 0 0 0 0 0 0 0 0 0 0 0 0 0 0 0
0 0 0 0 0 0 0 0 0 0 0 0 0 0 0 0 0 0 0 0 0 0 0 0 1 0 0 0 0 0 0 0 0 0 0 0 0 0 0 0 1 0 0 0 0 0 0 0 0
0 0 0 0 0 0 0 0 0 0 0 0 0 0 0 0 0 0 0 0 0 0 0 0 0 0 0 0 0 0 0 0 0 0 0 0 0 0 1 0 0 0 0 2 1 0 0 0 1
0 2 1 3 0 1 0 2 2 1 0 1 0 0 0 0 0 1 0 0 1 0 0 1 0 2 0 0 0 1 1 1 2 5 0 1 0 1 0 0 0 0 0 0 0 0 0 0 0
0 0 0 0 0 1 0 0 0 0 0 0 0 0 0 0 0 0 0 0 0 0 0 1 1 0 0 0 2 0 0 0 0 0 0 0 0 0 0 0 0 0 0 0 0 0 0 0 0
0 0 0 0 0 0 0 0 0 0 0 0 0 0 0 0 0 0 0 0 0 0 0 0 0 0 0 0 0 0 0 0 0 0 0 0 0 0 6 1 0 1 1 0 0 3 0 0 0
0 0 0 0 0 44 1 22 6 1 1d 4 5f 0 2a 0 0 0 2 0 1 3 11 0 1a 22 0 1 2 2 0 0 0 0 0 0 0 0 0 0 0 0 0 0 0
0 0 0 0 0 0 0 0 4 0 0 1 0 1 1 32 2f 0 0 0 0 0 0 0 0 0 0 0 0 0 0 0 0 0 0 0 0 0 0 0 0 0 0 0 0 0 0 0
0 0 0 8 0 0 0 0 0 0 0 0 0 0 0 0 0 0 0 0 0 0 0 0 0 0 0 0 0 0 0 0 0 0 0 0 0 0 0 0 0 0 0 0 0 0 0 0 0
0 0 0 0 0 0 0 0 1 0 0 0 0 0 0 0 0 0 0 0 0 1 0 0 0 0 0 0 0 0 0 0 0 0 0 0 0 0 0 0 0 0 0 0 0 0 0 0 0
0 0 0 0 0 0 0 0 0 0 0 0 0 0 0 0 0 0 0 0 0 0 0 0 0 0 0 0 0 0 0 0 0 0 0 0 0 0 0 0 0 0 0 0 0 0 0 0 0
0 0 0 0 0 0 0 0 0 0 0 0 0 0 0 0 0 0 0 0 2f 28 b46 2a 0 3 2f7 5 881 8 0 0 74 bf 40 0 0 0 0 0 0 0 0
0 0 0 0 0 0 0 0 0 0 0 0 0 0 0 0 0 0 0 0 0 0 0 0 0 0 0 0 0 0 0 0 0 0 0 0 0 0 0 0 0 0 0 0 0 0 0 0 0
0 0 0 0 0 0 0 0 0 0 0 0 0 0 0 0 0 0 0 0 0 0 0 0 0 0 0 0 0 0 0 0 0 0 0 0 0 0 0 0 0 0 0 0 0 0 0 0 0
0 0 0 0 0 0 0 0 0 0 0 0 0 0 0 0 0 0 0 0 0 0 0 0 0 0 0 0 0 0 0 0 0 0 0 0 0 0 0 0 0 0 8 0 0 0 0 0 0
0 0 0 0 0 0 0 0 0 0 0 0 0 0 0 0 0 0 0 0 0 0 0 0 0 0 0 0 0 0 0 0 0 0 0 0 0 0 0 0 0 0 0 0 0 0 0 0 0
0 0 0 0 0 0 0 0 0 0 0 0 0 0 0 0 0 0 0 0 0 0 0 0 0 0 0 0 0 0 0 0 0 0 0 0 0 0 0 0 0 0 8 7 5 9 7 7 7
7 5 9 7 7 7 7 d 1 7 7 7 7 7 7 4 0 1 5 0 2 2 0 1 7 3 1 1 7 7 9 2 0 1 78 0 c 0 f c 6c 0 2 1 2 0 1a 0
3 0 3 0 1 1 7 3 3 0 20 f 3 0 34a 19 745 2f 0 0 2 1 0 0 0 0 0 0 3 0 0 1 0 7 2 0 0 0 0 0 0 0 0 0 0 0
0 0 0 0 0 0 0 0 0 0 0 0 0 0 0 0 0 0 0 0 0 0 0 0 0 0 0 0 0 0 0 0 0 0 0 0 0 0 0 0 0 0 0 0 0 0 0 0 0
0 0 0 0 0 0 0 0 0 0 0 0 0 0 0 0 0 0 0 0 0 0 0 0 0 0 0 0 0 0 0 0 0 0 0 0 0 0 1 6 0 0 0 3 0 b 25 0 0
4 0 7912 0 0 0 0 0 0 0 0 0 0 0 0 0 0 0 0 0 0 0 0 0 0 0 0 0 0 0 0 0 0 0 0 0 0 0 0 0 0 0 0 0 0 0 0 0
12 0 0 0 0 0 0 0 0 0 0 0 0 0 0 0 0 0 0 0 0 0 0 0 0 0 0 2 84 0 0 0 0 0 0 0 0 0 0 0 0 2 0 0 0 0 0 0
0 0 0 0 0 0 0 0 0 0 0 0 0 0 0 0 0 0 0 0 0 0 0 0 0 0 0 0 0 0 0 0 0 0 0 0 0 0 0 0 0 0 0 0 0 0 0 0 0
0 0 0 0 0 0 9 0 0 0 0 1 0 0 0 0 0 0 0 0 0 3 0 0 0 1 0 0 2 0 0 0 0 0 0 0 0 0 0 0 0 0 0 0 0 0 0 0 0
4 0 4 0 0 0 0 0 0 0 0 0 0 0 0 0 0 0 3 0 0 0 1 0 0 0 0 0 0 0 0 0 0 0 0 0 0 0 14 3 0 0 0 2 334 2a 0
d 5 4f 4f3f 6 b 4 428 19 4cc 27 87 23 9a a 0 e 0 6 0 1 1c2 0 1 2 0 29 0 8 504 32 7c 15 b39 1f 557f
1f 3a 18 6545 19 19 6 0 11 19 19 19 3 0 0 0 6 0 a 19 19 19 19 19 19 19 19 19 19 19 19 19 19 19 19
19 1b 1b 18 0 5 19 18 0 5 19 18 0 5 19 18 0 5 19 18 0 5 0 0 733 9 0 13 5 5 104 3d 8b3 21 "⟩,
  ⟨["math"], some
    "2b 0 f 2 1e 0 1c 0 0 0 2c 0 3 0 24 0 1e 0 2d7 2 1 0 19 1 1 2 20e 2 1a0c 0 1a 2 a 0 2 0 c 0
d 3 14 4 a 4 40 c 3 0 2 1 3 4 11 0 3 0 1 9 0 0 1 5 5 0 2 1 1 1 0 2 0 5 2 d 0 0 43 17 0 5 0 1 3 1 3
1f 0 0 5 1 d 10b 7 3 13 1 59 0 1d 1a 0 0 17 0 a 6 1bc 1 b 9 3 5 3 1 1 1 2 4 d 0 0 0 1 5 a 7 4 1 38
0 0 0 1c 3 8 2 14f 3f ff 1ff 2f 14 1 5 cfdb 0 336 5 0 0 a1 0 f 2 1c 0 0 0 1c 0 0 0 82 0 5 3 da0 1
c15f 0 50e 54 0 46 0 1 1 0 1 1 1 3 0 b 0 0 0 6 0 40 0 3 1 7 0 6 0 1b 0 3 0 4 0 0 2 6 0 153 1 123 1
31 15ff 3 0 1a 0 1 0 0 1 0 0 9 0 3 0 0 0 0 5 0 3 0 0 0 0 0 0 2 0 1 0 0 1 0 0 0 0 0 0 0 0 0 0 1 0 0
1 3 0 6 0 3 0 3 0 0 0 9 0 10 4 2 0 4 0 10 33 1 9dd 8 "⟩,
  ⟨["mcm", "modifiercombiningmark"], some
    "654 1 1 0 82 0 5 0 2 1 1e0 1 0 2 2 0 1e 0 "⟩,
  ⟨["nchar", "noncharactercodepoint"], some
    "fdd0 1f 20d 1 fffd 1 fffd 1 fffd 1 fffd 1 fffd 1 fffd 1 fffd 1 fffd 1 fffd 1 fffd 1 fffd 1
fffd 1 fffd 1 fffd 1 fffd 1 fffd 1 "⟩,
  ⟨["oalpha", "otheralphabetic"], some
    "363 c 23f d 0 0 0 1 0 1 0 0 47 a 2f c 0 6 f 0 64 6 3 3 1 1 3 0 22 0 1d f 65 a 64 1 2 8 0 2
0 3 69 0 3b b 2 6 5 13 35 1 1 e 0 1 4 2 9 1 1c 2 39 6 1 1 1 1 9 0 9 1 1c 2 39 4 3 1 1 1 3 0 1d 1 2
0 a 2 39 7 0 2 0 1 14 1 15 2 3 2 39 6 1 1 1 1 8 1 9 1 1d 0 3a 4 2 2 0 2 9 0 27 4 38 6 0 2 0 2 7 1
a 1 1c 2 39 6 0 2 0 2 7 1 a 1 e 0 b 3 39 6 0 2 0 2 9 0 9 1 1c 2 4a 5 0 0 0 7 11 1 3c 0 1 6 11 0 62
0 1 5 0 1 f 0 a2 12 8 a 0 23 6d b 0 0 1 3 16 3 3 2 0 2 1 6 2 3 c b 0 0 9 3 673 1 1d 1 1d 1 1d 1 41
12 bb 1 21 0 75 b 3 8 dd 4 38 9 1 13 49 1 a 2 30 4 2f e 3b 2 1d 8 1 1 38 a 31 12 19b 21 fea 1f
7873 7 21 1 161 0 7 0 16 4 57 1 31 f 0 0 38 0 25 4 1b b 2c 3 2f b 24 0 42 d b 0 7 1 2c 2 31 0 0 2
1 1 4 0 2b 4 4 0 ec 7 4f32 0 856 4 685 2 0 1 4 3 313 3 40 0 140 1 4c 2 102 2 34 d 2c 1 a 2 2c 8 8
0 3c 2 23 b 11 1 38 2 2f c d 1 5b 8 1 0 5 0 1 0 9c 9 16 3 39 6 1 1 1 1 9 0 9 1 53 8 0 0 1 0 0 3 0
1 66 c 0 2 69 11 ec 6 1 6 1c 1 51 e 0 0 69 a 66 d 100 c f6 5 0 1 1 1 2 0 0 0 8d 6 1 5 3 0 1b 9 29
4 0 3 11 a 2d d c7 7 c6 7 0 6 52 15 0 d 79 5 2 0 0 1 0 2 0 0 2 0 41 4 0 1 0 3 15b 3 8 1 0 0 2f 6 2
2 41dc 10 e1f 0 0 36 6 3 5c 1 4cab 0 2360 6 0 10 1 6 0 1 0 4 63 0 652 0 1 0 6 1 4 0 250 0 "⟩,
  ⟨["odi", "otherdefaultignorablecodepoint"], some
    "34f 0 e0e 1 652 1 8ae 0 10fd 0 ce3a 0 4e 8 d0006 0 0 1d 5f 7f ef e0f "⟩,
  ⟨["ogrext", "othergraphemeextend"], some
    "9be 0 17 0 165 0 17 0 65 0 17 0 e7 0 0 0 3 1 0 1 8 1 66 0 17 0 76 0 e 0 934 0 1d 0 3ff 0 4
0 0 0 4 1 64 0 46 1 417 0 1020 1 7922 0 6b 0 55dc 1 121f 0 73 0 107 0 d 0 8 0 5f 0 8 0 1 0 0 2 4 0
df 0 b 0 f0 0 105 0 278 0 b 0 602 0 50ad 1 6172 1 5 5 c2eac 5f "⟩,
  ⟨["oidc", "otheridcontinue"], some
    "b7 0 2ce 0 fe0 8 667 0 630 1 10ec 0 ce68 0 "⟩,
  ⟨["oids", "otheridstart"], some
    "1885 1 890 0 14 0 f6b 1 "⟩,
  ⟨["olower", "otherlowercase"], some
    "aa 0 e 0 1f4 8 6 1 1d 4 5f 0 33 0 d80 0 c2e 3e c 0 21 24 2b0 0 c 0 f c d2 f 34f 19 791 1
7a1d 1 d1 0 7f 3 2 1 361 3 8 0 5c15 0 1 2 0 29 0 8 d874 3d "⟩,
  ⟨["omath", "othermath"], some
    "5e 0 370 2 1 0 19 1 1 1 1c1f 0 1a 2 a 0 1f 3 17 1 d 1 40 c 3 0 2 1 3 4 11 0 3 0 1 9 0 0 2 4
5 0 2 1 1 1 0 2 0 5 2 3 4 4 4a 4 1 3 0 1 0 1 0 0 0 4 1 1 3 1 3 11 1 1 0 0 0 6 0 0 5 1 121 3 a7 1 0
0 17 0 10 0 1bc 1 b 8 4 4 4 1 1 1 2 4 d 0 0 0 1 5 17 1 38 0 0 0 1c 3 8 1 155 1 1e 9 192 15 3e 3 1f
1 d462 0 0 0 3 0 d2 0 0 0 d4c0 54 0 46 0 1 1 0 1 1 1 3 0 b 0 0 0 6 0 40 0 3 1 7 0 6 0 1b 0 3 0 4 0
0 2 6 0 153 1 18 0 18 0 1e 0 18 0 1e 0 18 0 1e 0 18 0 1e 0 18 0 7 1 31 15ff 3 0 1a 0 1 0 0 1 0 0 9
0 3 0 0 0 0 5 0 3 0 0 0 0 0 0 2 0 1 0 0 1 0 0 0 0 0 0 0 0 0 0 1 0 0 1 3 0 6 0 3 0 3 0 0 0 9 0 10 4
2 0 4 0 10 "⟩,
  ⟨["oupper", "otheruppercase"], some
    "2160 f 345 19 1cc5f 19 5 19 5 19 "⟩,
  ⟨["patsyn", "patternsyntax"], some
    "21 e 9 6 19 3 0 0 19 3 21 6 0 0 0 1 0 0 0 1 3 0 3 0 2 0 16 0 1e 0 1f17 17 7 e 1 12 0 9 130
2cf 9f 275 1d 46b 1ff 7f 180 2 3 18 e 0 cd0c 1 104 1 "⟩,
  ⟨["patws", "patternwhitespace"], some
    "9 4 11 0 63 0 1f87 1 17 1 "⟩,
  ⟨["pcm", "prependedconcatenationmark"], some
    "600 5 d6 0 30 0 17f 1 4f 0 107d9 0 e 0 "⟩,
  ⟨["qmark", "quotationmark"], some
    "22 0 3 0 82 0 e 0 1f5b 7 18 1 e06 0 1c8 3 c 2 ce20 3 bc 0 3 0 59 1 "⟩,
  ⟨["radical"], some
    "2e80 19 0 58 b d5 "⟩,
  ⟨["ri", "regionalindicator"], some
    "1f1e6 19 "⟩,
  ⟨["sterm", "sentenceterminal"], some
    "21 0 b 0 f 0 548 0 92 2 b3 0 2a 2 f5 0 3c 0 0 0 2 1 124 1 6e3 1 315 0 3 1 304 0 c5 1 9c 1
2c 0 4 0 139 1 161 3 a1 1 9 1 1 1 1c 2 ba 1 40 1 3a3 0 16 1 8 2 cae 2 131 0 c 0 15 1 1ac 0 74fb 0
10d 1 e2 0 2 0 17d 1 55 1 5e 0 97 1 92 2 8f 1 f8 0 5225 0 1 1 3a 0 2 1 a8 0 b 0 f 0 40 0 af3 1 4fc
4 2b 3 bc 1 74 3 7e 2 80 1 5 0 f 1 57 1 0 1 6b 0 129 1 74 1 174 1 4 e 68 1 f8 2 204 0 0 0 fa 1 56
1 1a3 1 2b3 1 49 1 4b28 1 84 0 40 1 a 0 228 1 127 0 4e05 0 1de7 0 "⟩,
  ⟨["sd", "softdotted"], some
    "69 1 c3 0 118 0 1d 0 33 0 13 0 13f 0 61 0 0 0 1908 0 32 0 c 0 2 0 83 0 9c 0 1a4 0 d5 1 b31
0 1a7a4 1 31 1 31 1 31 1 31 1 31 1 31 1 31 1 31 1 31 1 31 1 31 1 31 1 885 0 130 1 19 0 "⟩,
  ⟨["term", "terminalpunctuation"], some
    "21 0 9 0 0 0 a 1 2 0 33d 0 7 0 200 0 38 0 47 0 d 0 0 2 b3 0 2a a 0 0 ea 1 35 5 0 7 1e 0 104
1 4f3 1 ab 0 3 5 136 1 314 7 304 0 7b 2 46 1 9c 2 2 0 26 3 1 1 139 1 161 3 a1 1 9 1 0 2 1c 2 ba 4
3d 1 3a3 0 16 1 8 2 cae 2 131 0 c 0 3 0 9 0 0 1 2 1 1ab 1 74fa 1 10c 2 e2 4 17d 1 55 1 5e 0 96 2
92 2 7e 0 f 1 f8 0 5225 0 1 1 38 2 0 3 a8 0 9 0 0 0 a 1 2 0 40 0 1 0 439 0 2f 0 485 0 c6 0 135 1
97 5 43 5 58 3 3b7 4 2b 3 bc 6 6f 3 7e 2 80 1 5 0 f 1 57 4 6b 0 129 1 74 2 b 1 165 3 2 e 68 1 f8 2
204 0 0 0 fa 1 56 1 3 1 19d 2 2c 0 284 1 49 1 52a 4 45f8 1 84 0 40 2 9 0 228 1 126 1 4e05 0 1de6 3 "⟩,
  ⟨["uideo", "unifiedideograph"], some
    "3400 19bf 3f 51ff 5a0d 1 0 0 0 1 9 0 0 0 0 1 1 2 105d5 a6df 1f 111d 1 168d 1 1d30 e 26d
11a1 134a 4 2129 "⟩,
  ⟨["upper", "uppercase"], some
    "41 19 64 16 0 6 20 0 0 0 0 0 0 0 0 0 0 0 0 0 0 0 0 0 0 0 0 0 0 0 0 0 0 0 0 0 0 0 0 0 0 0 0
0 0 0 0 0 0 0 0 0 0 0 0 0 0 0 0 0 0 0 1 0 0 0 0 0 0 0 0 0 0 0 0 0 0 0 1 0 0 0 0 0 0 0 0 0 0 0 0 0
0 0 0 0 0 0 0 0 0 0 0 0 0 0 0 0 0 0 0 0 0 0 0 0 0 0 0 0 0 0 0 0 0 1 0 0 0 0 2 1 0 0 0 1 0 2 1 3 0
1 0 2 2 1 0 1 0 0 0 0 0 1 0 0 1 0 0 1 0 2 0 0 0 1 2 0 6 0 1 0 1 0 1 0 0 0 0 0 0 0 0 0 0 0 0 0 0 0
1 0 0 0 0 0 0 0 0 0 0 0 0 0 0 0 0 0 1 0 1 0 0 2 0 0 0 0 0 0 0 0 0 0 0 0 0 0 0 0 0 0 0 0 0 0 0 0 0
0 0 0 0 0 0 0 0 0 0 0 0 0 0 0 0 0 0 0 0 0 0 0 0 0 0 0 0 0 0 0 0 0 6 1 0 1 1 0 0 3 0 0 0 0 0 0 0 0
120 0 0 0 2 0 7 0 5 0 0 2 0 0 0 1 0 10 0 8 22 0 1 2 2 0 0 0 0 0 0 0 0 0 0 0 0 0 0 0 0 0 0 0 0 0 0
0 4 0 1 0 0 1 1 32 2f 0 0 0 0 0 0 0 0 0 0 0 0 0 0 0 0 0 0 0 0 0 0 0 0 0 0 0 0 0 0 0 0 0 8 0 0 0 0
0 0 0 0 0 0 0 0 0 0 0 0 0 0 0 0 0 0 0 0 0 0 0 0 0 0 0 0 0 0 0 0 0 0 0 0 0 0 0 0 0 0 0 0 0 0 0 0 0
0 1 0 0 0 0 0 0 0 0 0 0 0 0 1 0 0 0 0 0 0 0 0 0 0 0 0 0 0 0 0 0 0 0 0 0 0 0 0 0 0 0 0 0 0 0 0 0 0
0 0 0 0 0 0 0 0 0 0 0 0 0 0 0 0 0 0 0 0 0 0 0 0 0 0 0 0 0 0 0 0 0 0 0 0 0 0 0 0 0 0 0 0 0 0 0 0 0
0 0 0 0 0 0 0 0 0 0 0 0 1 25 b48 25 0 0 4 0 2d1 55 892 0 5 2a 1 2 13f 0 0 0 0 0 0 0 0 0 0 0 0 0 0
0 0 0 0 0 0 0 0 0 0 0 0 0 0 0 0 0 0 0 0 0 0 0 0 0 0 0 0 0 0 0 0 0 0 0 0 0 0 0 0 0 0 0 0 0 0 0 0 0
0 0 0 0 0 0 0 0 0 0 0 0 0 0 0 0 0 0 0 0 0 0 0 0 0 0 0 0 0 0 0 0 0 0 0 0 0 0 0 0 0 0 0 0 0 0 0 0 0
0 0 0 0 0 0 0 0 0 0 0 0 0 0 0 0 0 0 0 0 0 0 0 0 0 0 0 0 0 0 0 0 0 0 0 0 0 8 0 0 0 0 0 0 0 0 0 0 0
0 0 0 0 0 0 0 0 0 0 0 0 0 0 0 0 0 0 0 0 0 0 0 0 0 0 0 0 0 0 0 0 0 0 0 0 0 0 0 0 0 0 0 0 0 0 0 0 0
0 0 0 0 0 0 0 0 0 0 0 0 0 0 0 0 0 0 0 0 0 0 0 0 0 0 0 0 0 0 0 0 0 0 0 0 0 8 7 7 5 9 7 7 7 7 5 a 0
0 0 0 0 0 0 7 7 47 3 b 3 b 3 b 4 a 3 105 0 3 0 2 2 1 2 1 0 2 4 5 0 0 0 0 0 0 3 1 3 9 1 4 0 19 f 12
0 331 19 72f 2f 2f 0 0 2 1 0 0 0 0 0 0 3 0 0 1 0 7 2 0 0 0 0 0 0 0 0 0 0 0 0 0 0 0 0 0 0 0 0 0 0 0
0 0 0 0 0 0 0 0 0 0 0 0 0 0 0 0 0 0 0 0 0 0 0 0 0 0 0 0 0 0 0 0 0 0 0 0 0 0 0 0 0 0 0 0 0 0 0 0 0
0 0 0 0 0 0 0 0 0 0 0 0 0 0 0 0 0 0 0 0 0 0 0 0 0 0 7 0 0 0 3 0 794c 0 0 0 0 0 0 0 0 0 0 0 0 0 0 0
0 0 0 0 0 0 0 0 0 0 0 0 0 0 0 0 0 0 0 0 0 0 0 0 0 0 0 0 0 0 12 0 0 0 0 0 0 0 0 0 0 0 0 0 0 0 0 0 0
0 0 0 0 0 0 0 0 0 86 0 0 0 0 0 0 0 0 0 0 0 0 0 2 0 0 0 0 0 0 0 0 0 0 0 0 0 0 0 0 0 0 0 0 0 0 0 0 0
0 0 0 0 0 0 0 0 0 0 0 0 0 0 0 0 0 0 0 0 0 0 0 0 0 0 0 0 0 0 0 0 0 0 0 0 9 0 0 0 0 1 0 0 0 0 0 0 0
0 3 0 0 0 1 0 0 0 2 0 0 0 0 0 0 0 0 0 0 0 0 0 0 0 0 0 0 0 0 4 0 4 0 0 0 0 0 0 0 0 0 0 0 0 0 0 0 3
0 0 0 1 0 0 0 0 0 0 0 0 0 0 0 0 0 0 0 0 17 0 572a 19 4c4 27 87 23 9b a 0 e 0 6 0 1 6e9 32 9c 15
b39 1f 557f 1f 3f 18 6546 19 19 19 19 19 19 0 0 1 1 0 1 1 1 3 0 7 19 19 19 1 0 3 1 7 0 6 1a 1 0 3
0 4 0 0 2 6 1a 19 19 19 19 19 19 19 19 19 19 19 1d 18 20 18 20 18 20 18 20 18 20 0 1134 21 80d 19
5 19 5 19 "⟩,
  ⟨["vs", "variationselector"], some
    "180b 2 0 0 e5ef f d02ef ef "⟩,
  ⟨["wspace", "whitespace", "space"], some
    "9 4 11 0 63 0 19 0 15de 0 97e a 1c 1 4 0 2e 0 f9f 0 "⟩,
  ⟨["xidc", "xidcontinue"], some
    "30 9 6 19 3 0 0 19 2e 0 9 0 0 0 1 0 4 16 0 1e 0 1c9 3 b d 4 6 0 0 0 10 74 0 1 2 2 0 0 5 4 0
0 0 13 0 52 0 8a 0 4 1 a5 0 25 1 0 5 28 7 2c 0 0 0 1 0 1 0 0 7 1a 3 3 1c a 4 49 3 65 0 7 1 9 0 12
1 0 f 3a 1 64 d 35 3 0 1 0 1 2d 11 1b 3 a 4 17 0 6 6 4a 0 80 1 9 0 12 0 7 1 1 1 15 0 6 0 0 2 3 1 8
1 1 1 3 7 0 3 1 0 4 1 b 9 0 0 0 1 2 0 5 3 1 1 15 0 6 0 1 0 1 0 1 1 0 0 4 3 1 1 2 2 0 6 3 0 0 6 f a
2 0 8 0 2 0 15 0 6 0 1 0 4 1 9 0 2 0 2 1 0 e 3 1 9 8 6 0 2 0 7 1 1 1 15 0 6 0 1 0 4 1 8 1 1 1 2 6
2 3 1 0 4 1 9 0 0 f 1 0 5 2 2 0 3 2 1 0 0 0 1 2 1 2 2 2 b 3 4 2 2 0 3 1 0 5 0 d 9 f c 0 2 0 16 0 f
1 8 0 2 0 3 6 1 0 2 0 1 1 3 1 9 f 3 0 7 0 2 0 16 0 9 0 4 1 8 0 2 0 3 6 1 4 2 0 3 1 9 0 2 b c 0 2 0
32 0 2 0 4 4 3 6 4 1 9 9 5 0 2 0 11 2 17 0 8 0 0 1 6 2 0 3 5 0 0 0 7 5 9 1 1 c 39 4 e 0 9 26 1 0 0
0 4 0 17 0 0 0 16 1 4 0 0 0 6 0 9 1 3 1f 0 16 1 5 9 a 0 0 0 0 0 3 9 0 23 3 13 0 11 0 23 8 0 38 49
5 4d 1 25 0 0 4 0 1 2a 0 14c 0 3 1 6 0 0 0 3 1 28 0 3 1 20 0 3 1 6 0 0 0 3 1 e 0 38 0 3 1 42 1 2 8
8 d f f 55 1 5 2 26b 1 10 0 19 4 4a 2 a 6 15 8 15 a 13 b c 0 2 0 1 b 53 2 0 3 1 1 9 20 2 0 a 5 58
6 2a 4 45 9 1e 0 b 3 b 9 27 1 4 a 2b 3 19 5 a 24 1b 3 3e 0 1c 1 a 5 9 c 0 7 d 0 1e 1 b 13 4c 2 9
10 8 b 73 b 37 7 9 2 30 1 a 4 2a 1 2 f 2 0 26 4 215 1 5 1 25 1 5 1 7 0 0 0 0 0 0 0 1e 1 34 0 6 0 0
2 2 0 6 2 3 1 5 3 c 4 2 0 6 e 1 30 1 12 0 1b 0 c 0 f c 32 c 3 0 2 b 10 0 3 0 1 9 0 0 1 5 5 0 0 0 0
0 0 f 1 3 4 4 3 0 10 28 a76 e4 5 8 b 25 0 0 4 0 1 37 6 0 e 17 8 6 0 6 0 6 0 6 0 6 0 6 0 6 0 6 0 1f
204 2 18 e 0 4 1 4 3 55 1 1 1 2 0 5e 4 2a 0 5d 10 1f 2f f 1ff 19bf 3f 568c 42 2d 1 10c 2 1b 13 2f
3 9 0 72 24 8 1 66 1 51 13 36 3 0 12 33 b 45 9 9 5 17 2 0 0 30 1 23 b 1c 2 40 d a 5 1e 0 36 8 d 1
9 5 16 2 48 17 2 1 f 1 4 9 5 1 5 1 5 8 6 0 6 0 2a 0 d 5 7a 0 1 1 9 5 2ba3 b 16 3 30 2103 16d 1 69
25 6 b 4 4 b 0 c 0 4 0 0 0 1 0 1 0 6b 20 8a 5 d9 11 3f 1 35 27 9 5 f f f 2 1 17 2 20 0 0 0 2 0 0 0
0 0 0 0 0 7d 12 9 6 19 3 0 0 19 9 59 2 5 1 5 1 5 1 2 22 b 0 19 0 12 0 1 0 e 1 d 21 7a 44 34 87 0
81 1c 2 30 e 0 1e 1f c 1d 4 2a 4 1d 1 23 3 7 0 4 29 9d 1 9 5 23 3 23 3 27 7 33 b a 0 e 0 6 0 1 0 a
0 e 0 6 0 1 2 33 b 136 8 15 9 7 17 5 0 29 0 8 44 5 1 0 0 2b 0 1 2 0 1 16 9 16 8 1e 40 12 0 1 9 15
9 19 5 19 25 37 5 1 3f 3 0 1 4 7 0 2 0 1c 1 2 3 0 1f 1c 2 1c 22 7 0 1d 18 35 9 15 9 12 c 11 6d 48
36 32 c 32 c 27 7 9 5 25 2 4 0 16 f9 29 0 1 2 1 f 5 31 22 9 0 7 20 1e 15 29 14 1a 16 8 46 1e f 8
3b 6 0 c 18 6 9 5 34 0 9 3 3 7 23 1 0 8 44 3 3 0 c 0 0 22 11 0 24 5 3 3d 6 0 0 0 3 0 e 0 9 6 3a 4
9 5 3 0 7 1 1 1 15 0 6 0 1 0 4 0 9 1 1 1 2 1 0 5 0 4 6 1 6 2 4 a 9 0 0 1 0 0 25 0 9 0 0 1 0 0 3 0
7 c 1 1c 4a 4 9 3 3 1d 45 0 0 7 9 a5 35 1 8 16 5 21 40 2 0 a 9 25 38 6 9 5 13 1b 1a 1 e 3 9 5 6 b8
3a 64 49 14 7 1 0 1 7 0 1 0 1d 0 1 1 8 b 9 45 7 1 2d 1 7 0 1 1a 3e 7 0 7 49 2 0 11 48 66 7 57 20 e
9 5 8 0 2c 0 8 e 9 17 1d 1 15 0 d 48 6 0 1 0 2b 2 0 0 1 0 8 7 9 5 5 0 1 0 24 0 1 0 5 6 9 5 2b 3 9
f5 16 8 10 0 28 2 4 c a 54 0 4e 399 65 6e 10 c3 a4b 60 e 42f f 15 9 f9a 4 246 1ab8 39 6c5 238 6 1e
0 9 5 4e 0 9 5 1d 1 4 a 36 8 3 b 9 8 14 4 12 1af 2c 2 9 c5 3f 1f 18 1 18 2b 4a 3 38 6 10 3f 1 0 1
a 6 8 1cd5 28 1f 60 72 21fc 3 0 6 0 1 0 122 e 0 1c 2 1 0 d 3 7 18b 903 6a 4 c 2 8 6 9 2 1 1050 9
205 2d 1 16 21d 4 2 5 7 7 1 6 1d 3 93 2 1ba 54 0 46 0 1 1 0 1 1 1 3 0 b 0 0 0 6 0 40 0 3 1 7 0 6 0
1b 0 3 0 4 0 0 2 6 0 153 1 18 0 18 0 1e 0 18 0 1e 0 18 0 1e 0 18 0 1e 0 18 0 7 1 31 1ff 36 3 31 7
0 d 0 15 4 0 e 44f 1e 5 5 d4 6 0 10 1 6 0 1 0 4 4 3d 20 0 6f 2c 2 d 1 9 3 0 140 1e 10 39 1d5 29 d5
2a c4 1e 0 15 7 1 df 6 0 3 0 1 0 e 0 c4 a 6 28 4b 3 9 4a5 3 0 1a 0 1 0 0 1 0 0 9 0 3 0 0 0 0 5 0 3
0 0 0 0 0 0 2 0 1 0 0 1 0 0 0 0 0 0 0 0 0 0 1 0 0 1 3 0 6 0 3 0 3 0 0 0 9 0 10 4 2 0 4 0 10 d33 9
405 a6df 1f 111d 1 168d 1 1d30 e 26d 9a1 21d 5e1 134a 4 2129 acc85 ef "⟩,
  ⟨["xids", "xidstart"], some
    "41 19 5 19 2e 0 9 0 3 0 4 16 0 1e 0 1c9 3 b d 4 6 0 0 0 80 4 0 1 2 2 0 0 5 0 0 2 0 0 0 13 0
52 0 8a 7 a5 0 25 1 0 5 28 46 1a 3 3 2c 2a 22 1 0 62 0 0 e 1 6 1 9 2 1 0 f 0 0 1d 1c 58 a 0 17 20
8 1 3 0 4 15 3 0 8 0 2 0 16 18 6 a 4 17 0 6 f 29 39 35 2 0 11 0 6 9 e f 3 7 1 1 1 15 0 6 0 0 2 3 2
0 f 0 c 1 0 2 d 1 9 0 7 5 3 1 1 15 0 6 0 1 0 1 0 1 1e 3 0 0 12 2 f 8 0 2 0 15 0 6 0 1 0 4 2 0 11 0
e 1 16 0 a 7 1 1 1 15 0 6 0 1 0 4 2 0 1d 1 0 2 e 0 10 0 0 5 2 2 0 3 2 1 0 0 0 1 2 1 2 2 2 b 15 0
33 7 0 2 0 16 0 f 2 0 19 2 0 1 1 1 1d 0 3 7 0 2 0 16 0 9 0 4 2 0 1d 2 0 1 e 1 10 8 0 2 0 28 1 0 f
0 4 2 7 2 17 5 4 11 2 17 0 8 0 0 1 6 39 2f 0 0 c 6 39 1 0 0 0 4 0 17 0 0 0 9 0 0 9 0 1 4 0 0 14 3
1f 0 3e 7 0 23 1a 4 72 2a 13 0 f 5 3 3 2 0 2 1 6 2 3 c b 0 10 25 0 0 4 0 1 2a 0 14c 0 3 1 6 0 0 0
3 1 28 0 3 1 20 0 3 1 6 0 0 0 3 1 e 0 38 0 3 1 42 24 f f 55 1 5 2 26b 1 10 0 19 4 4a 2 a 6 11 c 12
d 11 d c 0 2 e 33 22 0 3 0 42 58 6 28 0 0 4 45 9 1e 30 1d 1 4 a 2b 3 19 35 16 8 34 51 0 5c 2e 10 7
35 1d c 1 9 2b 19 23 28 2 9 23 1 a 4 2a 1 2 28 3 0 5 0 1 2 0 4 bf 3f 115 1 5 1 25 1 5 1 7 0 0 0 0
0 0 0 1e 1 34 0 6 0 0 2 2 0 6 2 3 1 5 3 c 4 2 0 6 73 0 c 0 f c 64 0 3 0 1 9 0 0 1 5 5 0 0 0 0 0 0
f 1 3 4 4 3 0 10 28 a76 e4 5 3 2 1 b 25 0 0 4 0 1 37 6 0 f 16 8 6 0 6 0 6 0 6 0 6 0 6 0 6 0 6 225
2 18 8 6 4 1 4 3 55 5 2 0 59 0 3 4 2a 0 5d 10 1f 2f f 1ff 19bf 3f 568c 42 2d 1 10c 2 f 9 1 13 2e f
1e 1 4f 26 8 1 66 1 51 13 10 0 2 0 3 0 16 1c 33 d 31 3d 5 2 0 0 1 a 1b 9 16 18 1c 6 2e 1b 0 f 4 0
9 9 4 0 28 16 2 0 7 13 16 2 0 2 31 0 0 2 1 1 4 1 0 0 0 17 2 1 a 6 2 b 5 1 5 1 5 8 6 0 6 0 2a 0 d 5
72 1c 2ba3 b 16 3 30 2103 16d 1 69 25 6 b 4 4 0 0 9 0 c 0 4 0 0 0 1 0 1 0 6b 20 8a 5 d9 11 3f 1 35
27 9 76 0 0 0 2 0 0 0 0 0 0 0 0 7d 23 19 5 19 a 37 1 1e 2 5 1 5 1 5 1 2 22 b 0 19 0 12 0 1 0 e 1 d
21 7a 44 34 10a 1c 2 30 2e 1f c 1d 4 25 9 1d 1 23 3 7 0 4 29 9d 11 23 3 23 3 27 7 33 b a 0 e 0 6 0
1 0 a 0 e 0 6 0 1 2 33 b 136 8 15 9 7 17 5 0 29 0 8 44 5 1 0 0 2b 0 1 2 0 1 16 9 16 8 1e 40 12 0 1
9 15 9 19 5 19 25 37 5 1 3f 0 e 3 0 2 0 1c 29 1c 2 1c 22 7 0 1b 1a 35 9 15 9 12 c 11 6d 48 36 32 c
32 c 23 25 1b 8 16 f9 29 5 1 f 5 37 1c 9 0 7 15 29 11 2d 14 1a 16 b 34 38 1 1 0 c 2c 1f 18 19 23
1c 0 1 0 7 22 2 0 b 2f d 3 14 0 0 0 22 11 0 18 12 1 3e 6 0 0 0 3 0 e 0 9 6 2e 25 7 1 1 1 15 0 6 0
1 0 4 2 0 11 0 b 4 1d 9 0 0 1 0 0 25 0 0 18 0 0 0 2b 34 11 3 13 2 1d 2f 13 1 0 0 b7 2e 28 3 23 2f
13 0 3a 2a c 0 46 1a 24 6 b8 2b 73 3f 1e 7 1 0 1 7 0 1 0 17 e 0 0 0 5d 7 1 26 f 0 0 0 1b 0 9 27 6
0 14 0 a 2d 12 0 11 48 c6 20 1e 8 0 24 10 0 30 1d 6f 6 0 1 0 25 14 0 18 5 0 1 0 1f d 0 16 2b 103
12 e 0 0 c 0 21 7b 0 4e 399 65 6e 10 c3 a4b 60 e 42f 10 5 18 f9a 4 246 1ab8 1d 6e1 238 6 1e 10 4e
10 1d 11 2f f 3 1e 14 4 12 1af 2c d2 3f 1f 18 1 18 2b 4a 4 0 41 c 3f 1 0 0 d 4 8 1cd5 28 1f 60 72
21fc 3 0 6 0 1 0 122 e 0 1c 2 1 0 d 3 7 18b 903 6a 4 c 2 8 6 9 1765 54 0 46 0 1 1 0 1 1 1 3 0 b 0
0 0 6 0 40 0 3 1 7 0 6 0 1b 0 3 0 4 0 0 2 6 0 153 1 18 0 18 0 1e 0 18 0 1e 0 18 0 1e 0 18 0 1e 0
18 0 7 733 1e 5 5 104 3d 91 2c 9 6 f 0 140 1d 11 2b 1e3 1b e3 1d 1 0 ce 1e 0 2 0 1 0 6 1 4 8 1 df
6 0 3 0 1 0 e 0 c4 3a 43 6 0 4b3 3 0 1a 0 1 0 0 1 0 0 9 0 3 0 0 0 0 5 0 3 0 0 0 0 0 0 2 0 1 0 0 1
0 0 0 0 0 0 0 0 0 0 1 0 0 1 3 0 6 0 3 0 3 0 0 0 9 0 10 4 2 0 4 0 10 1143 a6df 1f 111d 1 168d 1
1d30 e 26d 9a1 21d 5e1 134a 4 2129 "⟩]

end ParamTemplate.Unicode
