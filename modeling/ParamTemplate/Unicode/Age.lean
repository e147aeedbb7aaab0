/-
**Ages.**

For each version of the character database the characters that were new in it, oldest first.  A
character is of an age when it was there in that version, so the set of an age is the union of the
entries up to it.
-/

import ParamTemplate.Unicode.NamedSet

set_option autoImplicit false

namespace ParamTemplate.Unicode

/-- The characters that were new in a version, oldest version first. -/
def newInVersion : List NamedSet := [
  ⟨["1.1", "v11"], some
    "0 1f5 3 1d 37 58 6 2e 0 9 15 45 19 1 11 1 3 0 2 0 4 6 0 0 0 13 0 2b 0 6 2 0 0 0 0 0 0 0 0
11 c b 0 41 0 b 0 28 8 34 1 1 1 1 2 1b 1 7 1 1 36 25 1 6 0 26 0 0 25 9 0 8 b 1a 4 4 16 0 d 0 2 0 0
19 4 12 c d 1 47 1 4 0 e 0 1d 1 9 206 2 0 34 1 11 1 4 2 18 f 2 0 7 1 1 1 15 0 6 0 0 2 3 1 0 0 6 1
1 1 2 8 0 3 1 0 4 1 14 6 0 1 5 3 1 1 15 0 6 0 1 0 1 0 1 1 0 0 4 3 1 1 2 a 3 0 0 6 e b 2 0 6 0 0 0
2 0 15 0 6 0 1 0 4 1 9 0 2 0 2 1 0 e 0 4 9 10 2 0 7 1 1 1 15 0 6 0 1 1 3 1 7 2 1 1 2 7 1 3 1 0 2 3
a 10 1 0 5 2 2 0 3 2 1 0 0 0 1 2 1 2 2 2 7 0 2 3 4 2 2 0 3 8 0 e b d 2 0 7 0 2 0 16 0 9 0 4 3 6 0
2 0 3 6 1 8 1 3 9 11 1 0 7 0 2 0 16 0 9 0 4 3 6 0 2 0 3 6 1 6 0 0 1 3 9 11 1 0 7 0 2 0 16 0 f 3 5
1 2 0 3 8 0 7 1 3 9 90 39 3 1c 24 1 0 0 1 1 0 0 1 0 5 3 0 6 0 2 0 0 0 0 1 1 0 c 0 2 1 4 0 0 0 5 1
9 1 1 1c1 25 9 26 3 0 3 59 4 43 4 51 c05 9a 4 59 5 15 1 5 1 25 1 5 1 7 0 0 0 0 0 0 0 1e 1 34 0 e 0
d 1 5 0 12 1 2 0 8 0 2e 0 16 22 6 2 1a 10 a 24 11 1d 38 19 2f c 5a 14 f1 d 0 0 78 84 24 1a a 14 8a
14 95 9 4f f 13 5 55 90 3 0 3 1 1b 0 22 0 0 0 3 2 0 0 6 1 6 d 1e 2 17 0 d 840 37 6 0 0 53 3 5 1 5d
5 27 3 5d 0 f 5f 1c 2 23 1b 1b 2 31 e b 3 2e 0 76 3 62 1 1e 1a00 51a5 4059 1a2d d1 6 b 4 5 18 0 4
0 0 0 1 0 1 0 6b 20 16c f 3f 1 35 27 b 23 3 b 14 3 9 0 12 0 3 3 2 0 0 0 86 1 0 0 5d 1 5d 2 5 1 5 1
5 1 2 2 6 0 6 d 2 "⟩,
  ⟨["2.0", "v20"], some
    "591 10 0 c 13 0 93a 47 0 20 6 1a 3 5 0 0 0 14 2 6 0 0 ee0 0 20e 0 8b53 2ba3 12859 1 fffd 1
fffd 1 fffd 1 fffd 1 fffd 1 fffd 1 fffd 1 fffd 1 fffd 1 fffd 1 fffd 1 fffd 1 fffd 20001 "⟩,
  ⟨["2.1", "v21"], some
    "20ac 0 df4e 0 "⟩,
  ⟨["3.0", "v30"], some
    "1f6 3 1d 7 1 11 74 4 30 0 9 4 56 8 12 0 73 0 2 0 0 0 0 0 0 0 1d 0 b 0 41 0 b 0 29 1 1 3 5b
1 9b 0 c7 2 61 1 4 0 e 0 29 4 0 d 0 1d 2 1a 34 30 5d0 1 0 11 2 17 0 8 0 0 1 6 2 0 3 5 0 0 0 7 11 2
174 0 2a 0 16 2 6 0 0 2 0 e 1 0 2f 21 0 4 0 1 0 6 2 3 5 19 1a5 6 0 3e 0 0 0 3 1 6 0 0 0 3 1 26 0 0
0 3 1 1e 0 0 0 3 1 6 0 0 0 3 1 6 0 6 0 16 0 1e 0 0 0 3 1 6 0 26 0 12 5 1b 22 54 b 275 8 1c 2 50 8e
5c 2 9 15 e 0 9 5 57 7 29 784 0 17 5 5e 2 31 1 54 1 47 0 66 8 10c 0 78 0 0 1d 89 1 1c8 7 20 0 55 1
18d ff 57f 19 0 58 b d5 19 b 3b 2 2 0 160 17 247 19b5 5249 48c 2 11 1 f 0 b 0 2 0 0 5655 0 4da 2 "⟩,
  ⟨["3.1", "v31"], some
    "3f4 1 f9d9 1f 50f 1e 0 3 b 1a b4 25 1 25 cbb1 f5 9 26 2 b3 221 54 0 46 0 1 1 0 1 1 1 3 0 b
0 0 0 3 0 1 0 40 0 3 1 7 0 6 0 1b 0 3 0 4 0 0 2 6 0 151 3 121 3 31 27ff a6d6 5128 21d b05e2 0 1d
5f "⟩,
  ⟨["3.2", "v32"], some
    "220 0 12d 0 12 c 67 1 1b 0 92 1 38 1 1 1 1 1 30 f 15d 1 140 0 944 1 606 c 0 6 a 16 8 13 b c
0 2 0 1 8d2 0 5 4 3 0 6 4 c 0 3d 1 31 6 51 e a7 b f1 d 7b 0 1d 33 11b 13 96 9 57 7 15 1 59 b 1 9
dd d 59 1b 3 f ff 1ff 53a 2 56 1 7 1 5d 0 ef f 50 e 50 e 71e1 1 f 0 b 0 2 0 5569 3a 390 0 2 f 34 1
2b 0 ea 1 "⟩,
  ⟨["4.0", "v40"], some
    "221 0 11 2 76 1 3e 10 4f 7 4 2 96 4 203 3 8 8 3f 2 94 1 e 0 2c 2 1c 2 1b3 0 b7 0 42 0 0 0
87 0 53 2 c 0 42 0 3a 0 80 7 c0 1 b1e 0 11 9 105 1c 2 b 3 b 3 0 2 29 1 4 6a 1f 2ff 6b 2e6 1 e5 0
292 1 12d 0 113 1 73 7 d 1 45d d 70e 1 30 0 2a 1 4d 3 a6 3 62 1 1e 0 19bf 3f affc 0 48 1 1b6 b 0
19 0 12 0 1 0 e 1 d 21 7a 4 2 3 2c 2 8 23f 1d 0 0 85 1 25 4f 1 9 355 5 1 0 0 2b 0 1 2 0 1 0 cabf
56 169 0 c2c3d ef "⟩,
  ⟨["4.1", "v41"], some
    "237 a 115 4 9e 3 f5 1 a9 0 21 2 42 0 11 0 39 5 f0 1d 20e 0 4f 0 1e6 0 2e 0 3e8 1 126 1 0 0
109 0 3e 0 3e 0 26 0 1e 0 1e 0 1e 0 e 0 26 0 16 1 1e 19 5e5 29 5 19 5 9 3 1 1f 1b 1 1 34b 57 290 1
0 6 30 4 1c 3 34 0 4f 0 e 0 283 a 23b 0 64 1 11 a 4 f 10d 6 346 5 eb 2e 0 2e 20 6a d 2c 9 35 8 0 f
16 8 6 0 6 0 6 0 6 0 6 0 6 0 6 0 6 20 17 3 1 3a1 f ad 0 6d26 15 743 16 e8 2b 5243 69 335 9 325 4a
214 23 3 d 629 3 0 1 4 7 0 2 0 1a 3 2 3 8 7 8 c7a6 45 45d 1 "⟩,
  ⟨["5.0", "v50"], some
    "242 d 12a 2 150 0 29 5 f 3 a5 0 204 3a 17f 1 0 1 361 1 c 1 e0c 4b 3 2c 246 6 32 1 2eb 3 5c
1 34 0 256 b 2c9 0 113 3 348 6 4 3 13b c 6 3 7a9e 3 4 1 11d 37 6087 19 4 0 16df 36e 90 62 c 3 aeeb
11 457 1 "⟩,
  ⟨["5.1", "v51"], some
    "370 3 1 1 56 0 b6 0 8b f e1 4 a 4 1f 4 12d 11 1f0 1 dd 0 22 0 cd 0 1c 1 6b 0 6b 0 19 1 7 1
13 7 bc 0 5 0 1c 1 b 5 2 6 1ea 1 60 0 2 2 4c 0 4 0 1 0 6 2 3 5 19 3f 3 1 809 0 2d4 2a 2 b 45 37 2
e 2 32 14a 1b b4 3 59 5 163 0 8a 0 5d 0 34 3 513 0 14 9 2 3 107 0 1e 3 32a 4 3 28 2 4 117 2 0 2 3
5 161 1f 17 3 1 12 2fb 0 a1 13 6dd7 7 53b 12b 13 1f 1 11 7 1b 82 4 1 6a 6d 4 7f 44 8 b 25 53 a 0
9f 36 8 d 1 9 1 3 53c3 2 368 b 33 2d 81 1c 2 30 64e 19 4 0 c7e8 0 1ed5 2b 3 63 "⟩,
  ⟨["5.2", "v52"], some
    "524 1 2d9 2d 1 e c0 0 4c 0 5 0 22 1 7f 0 5d8 3 c0 3 bb 4 43 4 51 5 1ff 0 275 8 22f 45 b3 1
2d 0 44 3e 0 1c 1 a 5 9 5 d 221 22 109 0 2b7 2 96 2 35 0 25d 0 2b4 1 1c 2 3 9 0 12 0 0 3 17 56 0
3fc 4 115 0 c 1 6a 6 13e 0 411 b 6d73 7 503 2f 19f 57 137 9 a5 1b 63 1c 2 4d 0 a 3 1 7f 1b 3 42 17
4 df 2d 1 9 2bb5 16 3 30 226e 2 dd1 15 0 8 b9 1 143 1f 7f 35 2 1c 1 1a 4 7 7f 48 216 1e 200 41
1f3d 42e bcd0 a 4 1e 1 0 a 0 0 0 1 0 2 0 2 4 7 0 6 0 18 0 0 1 1 0 9 3 1 0 6e 0 e 21 d 8 b4b6 1034 "⟩,
  ⟨["6.0", "v60"], some
    "526 1 f7 0 3d 0 1df 1b 1 0 da 1 12 0 5 1 1a 4 1f9 5 1b0 0 f 0 12 0 23c 3 48 1 381 1 860 33
7 3 1fb 0 297 7 1b 0 32e a 2d9 0 12 0 0 3 1c 0 3 1 1b 0 22 0 0 0 3 2 8 1 33 2 17 0 d 0 d 1 59f 0 d
0 437 2 74a4 1 12a 1 0 1 d 9 4f 0 305 5 1 5 1 5 8 6 0 6 5082 f 143d 4d 3 1d 578f 238 45c6 1 409d e
1 d 1 e 0 e 4f 0 0 a 0 0 0 1 0 2 0 2 4 7 0 6 0 9 5 8 0 0 1 1 0 9 3 1 0 9 4a 19 0 1 2e 8 14 1 ad 20
e 5 0 45 2 13 b 24 0 4 14 10 e 3e 0 0 0 b5 0 3 2 3d 11 17 92 4 0 f 0 2 0 0 0 0 0 0 0 2 0 5 1 3 0 0
1 3 0 b 3 a 2f 45 39 73 bfcb dd "⟩,
  ⟨["6.1", "v61"], some
    "58f 0 73 0 29a 0 0 a 36 1a 1f0 0 3ec 1 1e6 0 4 0 2e 2 aaa 2 b 5 ff 7 2a 3 ad3 0 0 0 523 1
32 0 4 0 37 1 c9 9 718f 0 6a6 7 22 0 f1 1 15 0 4c 1 2e5 16 4f36 1 f4f 37 5 1 70f 18 6 9 5 34 0 d
3b 48 6 9 4a5 37 7 9 5835 44 a 2e f 10 7e5f 3 0 1a 0 1 0 0 1 0 0 9 0 3 0 0 0 0 5 0 3 0 0 0 0 0 0 2
0 1 0 0 1 0 0 0 0 0 0 0 0 0 0 1 0 0 1 3 0 6 0 3 0 3 0 0 0 9 0 10 4 2 0 4 0 10 33 1 277 1 3d3 3 bb
0 f 0 2 0 0 0 0 0 0 0 2 0 5 1 3 0 0 1 3 0 "⟩,
  ⟨["6.2", "v62"], some
    "20ba 0 "⟩,
  ⟨["6.3", "v63"], some
    "61c 0 1a48 3 "⟩,
  ⟨["7.0", "v70"], some
    "37f 0 1a7 7 5c 1 75 0 29a 0 a 5 4b 0 77 0 6 0 27e 0 32 0 4b 0 7e 0 e3 9 900 7 223 1 190 e
238 1 ec e 2c4 2 335 6 304 0 44b 2 9 19 1 1f 1 21 2 b 0 7 269 6 7854 5 f5 b a 2 1 1 44 0 1e7 1e 7c
3 af 2f 3 1 52c0 6 35c 1 12 0 13e 1b 22 0 2f 2a 184 27 7 33 a 0 8f 136 8 15 9 7 f7 3e 7 8 1cf 1f
1f 26 3 b 88 11 6 3 b 6 4ce 0 cf 26 55 0 b 0 5 13 a 11 0 2a 71 3a 4 9 6 2 0 7 1 1 1 15 0 6 0 1 0 4
1 8 1 1 1 2 8 0 4 6 1 6 2 4 10a 47 7 9 a5 35 1 11 35 44 a 9 245 52 b 0 1bf 38 875 29 c9 b 4 0 45ca
1e 0 9 3 1 5f 1d 1 5 9 45 9 9 0 6 0 14 4 12 506f 6a 4 c 2 8 6 9 1 7 2b5b c4 1 f 7e7 0 1f 15 14 1
213 b 8 0 45 0 15 b 24 0 4 3 4 b 10 6 46 0 0 0 b5 0 3 1 3e 1 3 6 1c 11 0 28 0 55 45 1 c 2f 45 9 f
c 2 3 8b 54 2a b 3 37 7 9 5 27 7 1d "⟩,
  ⟨["8.0", "v80"], some
    "8b3 1 2d 0 214 0 15f 0 103 0 694 0 1 5 cbf 0 ca 1 a5f 3 73dc 8 6c7 0 ef 0 21 5 143 1 261 3
b 4f 526d 1 aaf 12 0 1 4 4 bb 1 1 f 1 2d 27f 32 c 32 6 5 4c8 3 d 4 9f 6 0 0 0 3 0 e 0 a 55 0 4e 0
278 13 121 19 2 e 3 f c58 0 e5 c3 1ebb 246 8b96 a 616 28b e 4 0 e 187c 2 4d 1 4e 4 23 7 fe 0 4a 4
f2 1 8a 0 23e 8 66 4 3a 0 be5e 1681 "⟩,
  ⟨["9.0", "v90"], some
    "8b6 7 15 e 39c 0 cd 0 3 2 0 6 16 2 f06 8 171 0 5fe 3 a43 1 7968 0 115 0 58c6 1 320 23 3 23
d41 0 1c0 59 0 0 0 0 201 c 592 8 0 2c 0 d 9 1c 2 1f 1 15 0 d 5328 0 1e 17ec 12 2f2 550c 6 0 10 1 6
0 1 0 4 8d4 4a 4 9 3 1 83a 11 8d 0 33d 0 28 0 12b 1 20 2 221 5 0 7 7 0 1 b 0 b 3 e 25 c "⟩,
  ⟨["10.0", "v100"], some
    "860 a 190 1 fb 5 1ff 0 39 1 fb9 0 fd 3 2c4 0 33e 0 7d1 0 271 4 2e3 0 6ea6 14 6341 2 16cf 47
7 33 1 16 0 4 25c 6 0 1 0 2b 2 0 0 1 0 8 7 9 5286 0 401f 11c 50 18b 3f63 5 46c 1 21 1 206 b 12 0 7
7 0 1 18 0 11 c 25 5 37 16 d4c8 1d30 "⟩,
  ⟨["11.0", "v110"], some
    "560 0 26 0 65 0 20c 2 d2 0 129 0 76 0 18c 0 7e 0 bf2 0 416 2a 1 2 ef9 2 15 18 3 e 24a 4 2df
0 6eba 4 7be 0 7 1 143 1 6133 1 11 0 2b6 27 7 9 1c5 27 7 29 172 0 75 2 1f3 0 121 0 2ba 0 e4 3b 260
0 2c1 5 0 1 0 24 0 1 0 5 6 9 135 18 4f46 5a 1951 4 4aed 13 7d 6 18f7 43 479 0 5c8 0 da 3 173 2 1b
4 1 3 2 0 0 3 17 a c 9 6 1 23 18 5f d "⟩,
  ⟨["12.0", "v120"], some
    "c77 0 20d 0 1 0 1 0 0 5 3 0 6 0 6 1 1 0 c 0 e3e 0 ecd 0 34 0 24e 0 7969 5 1 4 39e 1 6477 16
467 0 257 0 2e6 7 1 2d 1 a 9e 1 539 31 c 0 142f 8 3b0b 5 3 0 2e 8 59 1 180d 5 2957 2 10 3 2f97 2c
2 d 1 9 3 1 16f 39 4 0 64a 0 3b4 3c 42d 0 567 0 23 0 e4 b 120 2 2e 0 30 0 8 0 28 5 2 1 9 5 2 7 1 2
2f 53 1b 3 3 2 4 2 c 5 "⟩,
  ⟨["12.1", "v121"], some
    "32ff 0 "⟩,
  ⟨["13.0", "v130"], some
    "8be 9 28c 0 1ad 0 7b 0 d3c 1 10d5 0 2b7 2 367 4 1bf5 9 522f c 7c9 3 29 1 34 0 33a 3 562f 0
ce2 29 0 2 1 1 fd 1b 17a 0 85 1 289 0 4 1 49d 6 1 0 1 7 0 1 0 1d 0 1 1 b 8 9 655 0 5032 0 a 1 1b00
1e2 29 8 6403 2 5c 2 3c 0 527 1 22 1 1b2 1 59 0 64 0 3 1 29 1 5 2 1c 0 a7 0 d 3 e 12 6 6 8 2 c 6
28 92 0 36 24 9 aadc 6 5921 134a "⟩,
  ⟨["14.0", "v140"], some
    "61d 0 251 1e 0 1 5 7 14 0 11 a 368 0 1f 0 7e 0 a2e 0 6 0 8 0 ee 0 2b0 d 7c 0 2f 1 27a 0 2c4
0 b6d 0 2e 0 1f2 a 719e 2 7bf 1 d 1 0 0 0 4 17 2 53cc 0 17c f 7e 0 2d 1 76f a 0 e 0 6 0 1 0 a 0 e
0 6 0 1 1c2 5 0 29 0 8 7b4 19 e5 5 4b 0 5f5 0 85 6 368 f 14cf 62 3a7c 4e 0 9 4525 3 0 6 0 1 11f 3
1ddc 2d 1 16 8 73 224 1 d14 1e 370 1e 530 6 0 3 0 1 0 e edd 2 10f 0 187 0 51 0 ad 1 2b 3 9 3 7 2
10 2 5 7 7 6 abe6 1 1054 3 "⟩,
  ⟨["15.0", "v150"], some
    "cf3 0 1d9 0 1002d 2 33e 2 8bd 9 3f5 10 0 28 2 1b 14d4 0 8 1c 7cdb 0 21 0 2169 13 c50 5 104
3d 20 0 43f 29 11e1 0 96 2 3 4 58 0 29a 2 e 1 23 2 a 2 0 0 d 1 9 1 b 0 d 1 bc3f 0 5c15 105f "⟩,
  ⟨["15.1", "v151"], some
    "2ffc 3 1ee 0 2b9ff 26d "⟩,
  ⟨["16.0", "v160"], some
    "897 0 12b5 1 2e 0 108 1 79b 2 db9 1 75e4 2 b 2 5de2 33 74b 25 2 1c 7 1 131 2 36 0 482 9 0 0
1 0 0 25 0 9 0 0 1 0 0 3 0 9 0 1 7 1 2ec 13 4db 21 d 9 35f 0 1504 f9a 1d04 39 c05 39 1f84 0 3eff
f9 5 1b3 171b 2a 3 0 12b1 9 3 1 1c6 0 4 0 2d 0 6 0 14 0 1 0 8 0 e0 24 "⟩,
  ⟨["17.0", "v170"], some
    "88f 0 3cb 0 7e 0 df1 e 1 b 5d4 0 ad3 0 7c36 1 1 0 0 0 1b 0 53d0 f 1bc 1 35 6 b70 19 56a 2 7
8 20 1 c63 7 247 2b 3 9 50b5 18 1 18 11d 4 1800 7 508 15 60 72 3f06 2 1bc 16 e 10 17ce 1e 0 15 7 1
fd7 0 9d 3 154 8 17a 3 31 0 2 0 38 0 3 0 1b 0 3 0 109 0 bb3e 5 1761 b 5501 10c9 "⟩]

end ParamTemplate.Unicode
