import CiClient.Text.Unicode.Table
/-!
# Canonical equivalence data

The data that canonical normalization needs, from the Unicode Character Database, version 17:

* `combiningClasses`: the canonical combining class of every code point, by runs;
* `decompositions`: the full canonical decomposition of every character that has one, except
  the Hangul syllables, whose decomposition is computed;
* `compositions`: the primary composites, keyed by the pair they decompose to in one step.
  Characters excluded from composition, and singletons, are not among them.
-/

namespace CiClient.Text.Unicode

/-- The canonical combining classes, as runs. -/
def combiningClasses : RunTable Nat :=
  ⟨(pairsOf (hexNumbers
    "0 0 300 e6 315 e8 316 dc 31a e8 31b d8 31c dc 321 ca 323 dc 327 ca 329 dc 334 1 339 dc 33d
      e6 345 f0 346 e6 347 dc 34a e6 34d dc 34f 0 350 e6 353 dc 357 e6 358 e8 359 dc 35b e6 35c
      e9 35d ea 35f e9 360 ea 362 e9 363 e6 370 0 483 e6 488 0 591 dc 592 e6 596 dc 597 e6 59a
      de 59b dc 59c e6 5a2 dc 5a8 e6 5aa dc 5ab e6 5ad de 5ae e4 5af e6 5b0 a 5b1 b 5b2 c 5b3 d
      5b4 e 5b5 f 5b6 10 5b7 11 5b8 12 5b9 13 5bb 14 5bc 15 5bd 16 5be 0 5bf 17 5c0 0 5c1 18 5c2
      19 5c3 0 5c4 e6 5c5 dc 5c6 0 5c7 12 5c8 0 610 e6 618 1e 619 1f 61a 20 61b 0 64b 1b 64c 1c
      64d 1d 64e 1e 64f 1f 650 20 651 21 652 22 653 e6 655 dc 657 e6 65c dc 65d e6 65f dc 660 0
      670 23 671 0 6d6 e6 6dd 0 6df e6 6e3 dc 6e4 e6 6e5 0 6e7 e6 6e9 0 6ea dc 6eb e6 6ed dc 6ee
      0 711 24 712 0 730 e6 731 dc 732 e6 734 dc 735 e6 737 dc 73a e6 73b dc 73d e6 73e dc 73f
      e6 742 dc 743 e6 744 dc 745 e6 746 dc 747 e6 748 dc 749 e6 74b 0 7eb e6 7f2 dc 7f3 e6 7f4
      0 7fd dc 7fe 0 816 e6 81a 0 81b e6 824 0 825 e6 828 0 829 e6 82e 0 859 dc 85c 0 897 e6 899
      dc 89c e6 8a0 0 8ca e6 8cf dc 8d4 e6 8e2 0 8e3 dc 8e4 e6 8e6 dc 8e7 e6 8e9 dc 8ea e6 8ed
      dc 8f0 1b 8f1 1c 8f2 1d 8f3 e6 8f6 dc 8f7 e6 8f9 dc 8fb e6 900 0 93c 7 93d 0 94d 9 94e 0
      951 e6 952 dc 953 e6 955 0 9bc 7 9bd 0 9cd 9 9ce 0 9fe e6 9ff 0 a3c 7 a3d 0 a4d 9 a4e 0
      abc 7 abd 0 acd 9 ace 0 b3c 7 b3d 0 b4d 9 b4e 0 bcd 9 bce 0 c3c 7 c3d 0 c4d 9 c4e 0 c55 54
      c56 5b c57 0 cbc 7 cbd 0 ccd 9 cce 0 d3b 9 d3d 0 d4d 9 d4e 0 dca 9 dcb 0 e38 67 e3a 9 e3b
      0 e48 6b e4c 0 eb8 76 eba 9 ebb 0 ec8 7a ecc 0 f18 dc f1a 0 f35 dc f36 0 f37 dc f38 0 f39
      d8 f3a 0 f71 81 f72 82 f73 0 f74 84 f75 0 f7a 82 f7e 0 f80 82 f81 0 f82 e6 f84 9 f85 0 f86
      e6 f88 0 fc6 dc fc7 0 1037 7 1038 0 1039 9 103b 0 108d dc 108e 0 135d e6 1360 0 1714 9
      1716 0 1734 9 1735 0 17d2 9 17d3 0 17dd e6 17de 0 18a9 e4 18aa 0 1939 de 193a e6 193b dc
      193c 0 1a17 e6 1a18 dc 1a19 0 1a60 9 1a61 0 1a75 e6 1a7d 0 1a7f dc 1a80 0 1ab0 e6 1ab5 dc
      1abb e6 1abd dc 1abe 0 1abf dc 1ac1 e6 1ac3 dc 1ac5 e6 1aca dc 1acb e6 1add dc 1ade 0 1ae0
      e6 1ae6 dc 1ae7 e6 1aeb ea 1aec 0 1b34 7 1b35 0 1b44 9 1b45 0 1b6b e6 1b6c dc 1b6d e6 1b74
      0 1baa 9 1bac 0 1be6 7 1be7 0 1bf2 9 1bf4 0 1c37 7 1c38 0 1cd0 e6 1cd3 0 1cd4 1 1cd5 dc
      1cda e6 1cdc dc 1ce0 e6 1ce1 0 1ce2 1 1ce9 0 1ced dc 1cee 0 1cf4 e6 1cf5 0 1cf8 e6 1cfa 0
      1dc0 e6 1dc2 dc 1dc3 e6 1dca dc 1dcb e6 1dcd ea 1dce d6 1dcf dc 1dd0 ca 1dd1 e6 1df6 e8
      1df7 e4 1df9 dc 1dfa da 1dfb e6 1dfc e9 1dfd dc 1dfe e6 1dff dc 1e00 0 20d0 e6 20d2 1 20d4
      e6 20d8 1 20db e6 20dd 0 20e1 e6 20e2 0 20e5 1 20e7 e6 20e8 dc 20e9 e6 20ea 1 20ec dc 20f0
      e6 20f1 0 2cef e6 2cf2 0 2d7f 9 2d80 0 2de0 e6 2e00 0 302a da 302b e4 302c e8 302d de 302e
      e0 3030 0 3099 8 309b 0 a66f e6 a670 0 a674 e6 a67e 0 a69e e6 a6a0 0 a6f0 e6 a6f2 0 a806 9
      a807 0 a82c 9 a82d 0 a8c4 9 a8c5 0 a8e0 e6 a8f2 0 a92b dc a92e 0 a953 9 a954 0 a9b3 7 a9b4
      0 a9c0 9 a9c1 0 aab0 e6 aab1 0 aab2 e6 aab4 dc aab5 0 aab7 e6 aab9 0 aabe e6 aac0 0 aac1
      e6 aac2 0 aaf6 9 aaf7 0 abed 9 abee 0 fb1e 1a fb1f 0 fe20 e6 fe27 dc fe2e e6 fe30 0 101fd
      dc 101fe 0 102e0 dc 102e1 0 10376 e6 1037b 0 10a0d dc 10a0e 0 10a0f e6 10a10 0 10a38 e6
      10a39 1 10a3a dc 10a3b 0 10a3f 9 10a40 0 10ae5 e6 10ae6 dc 10ae7 0 10d24 e6 10d28 0 10d69
      e6 10d6e 0 10eab e6 10ead 0 10efa dc 10efc 0 10efd dc 10f00 0 10f46 dc 10f48 e6 10f4b dc
      10f4c e6 10f4d dc 10f51 0 10f82 e6 10f83 dc 10f84 e6 10f85 dc 10f86 0 11046 9 11047 0
      11070 9 11071 0 1107f 9 11080 0 110b9 9 110ba 7 110bb 0 11100 e6 11103 0 11133 9 11135 0
      11173 7 11174 0 111c0 9 111c1 0 111ca 7 111cb 0 11235 9 11236 7 11237 0 112e9 7 112ea 9
      112eb 0 1133b 7 1133d 0 1134d 9 1134e 0 11366 e6 1136d 0 11370 e6 11375 0 113ce 9 113d1 0
      11442 9 11443 0 11446 7 11447 0 1145e e6 1145f 0 114c2 9 114c3 7 114c4 0 115bf 9 115c0 7
      115c1 0 1163f 9 11640 0 116b6 9 116b7 7 116b8 0 1172b 9 1172c 0 11839 9 1183a 7 1183b 0
      1193d 9 1193f 0 11943 7 11944 0 119e0 9 119e1 0 11a34 9 11a35 0 11a47 9 11a48 0 11a99 9
      11a9a 0 11c3f 9 11c40 0 11d42 7 11d43 0 11d44 9 11d46 0 11d97 9 11d98 0 11f41 9 11f43 0
      1612f 9 16130 0 16af0 1 16af5 0 16b30 e6 16b37 0 16ff0 6 16ff2 0 1bc9e 1 1bc9f 0 1d165 d8
      1d167 1 1d16a 0 1d16d e2 1d16e d8 1d173 0 1d17b dc 1d183 0 1d185 e6 1d18a dc 1d18c 0 1d1aa
      e6 1d1ae 0 1d242 e6 1d245 0 1e000 e6 1e007 0 1e008 e6 1e019 0 1e01b e6 1e022 0 1e023 e6
      1e025 0 1e026 e6 1e02b 0 1e08f e6 1e090 0 1e130 e6 1e137 0 1e2ae e6 1e2af 0 1e2ec e6 1e2f0
      0 1e4ec e8 1e4ee dc 1e4ef e6 1e4f0 0 1e5ee e6 1e5ef dc 1e5f0 0 1e6e3 e6 1e6e4 0 1e6e6 e6
      1e6e7 0 1e6ee e6 1e6f0 0 1e6f5 e6 1e6f6 0 1e8d0 dc 1e8d7 0 1e944 e6 1e94a 7 1e94b 0"
  )).toArray, 0⟩

/-- The full canonical decompositions, by code point. -/
def decompositions : KeyTable (List Nat) :=
  ⟨(countedOf (hexNumbers
    "c0 2 41 300 c1 2 41 301 c2 2 41 302 c3 2 41 303 c4 2 41 308 c5 2 41 30a c7 2 43 327 c8 2
      45 300 c9 2 45 301 ca 2 45 302 cb 2 45 308 cc 2 49 300 cd 2 49 301 ce 2 49 302 cf 2 49 308
      d1 2 4e 303 d2 2 4f 300 d3 2 4f 301 d4 2 4f 302 d5 2 4f 303 d6 2 4f 308 d9 2 55 300 da 2
      55 301 db 2 55 302 dc 2 55 308 dd 2 59 301 e0 2 61 300 e1 2 61 301 e2 2 61 302 e3 2 61 303
      e4 2 61 308 e5 2 61 30a e7 2 63 327 e8 2 65 300 e9 2 65 301 ea 2 65 302 eb 2 65 308 ec 2
      69 300 ed 2 69 301 ee 2 69 302 ef 2 69 308 f1 2 6e 303 f2 2 6f 300 f3 2 6f 301 f4 2 6f 302
      f5 2 6f 303 f6 2 6f 308 f9 2 75 300 fa 2 75 301 fb 2 75 302 fc 2 75 308 fd 2 79 301 ff 2
      79 308 100 2 41 304 101 2 61 304 102 2 41 306 103 2 61 306 104 2 41 328 105 2 61 328 106 2
      43 301 107 2 63 301 108 2 43 302 109 2 63 302 10a 2 43 307 10b 2 63 307 10c 2 43 30c 10d 2
      63 30c 10e 2 44 30c 10f 2 64 30c 112 2 45 304 113 2 65 304 114 2 45 306 115 2 65 306 116 2
      45 307 117 2 65 307 118 2 45 328 119 2 65 328 11a 2 45 30c 11b 2 65 30c 11c 2 47 302 11d 2
      67 302 11e 2 47 306 11f 2 67 306 120 2 47 307 121 2 67 307 122 2 47 327 123 2 67 327 124 2
      48 302 125 2 68 302 128 2 49 303 129 2 69 303 12a 2 49 304 12b 2 69 304 12c 2 49 306 12d 2
      69 306 12e 2 49 328 12f 2 69 328 130 2 49 307 134 2 4a 302 135 2 6a 302 136 2 4b 327 137 2
      6b 327 139 2 4c 301 13a 2 6c 301 13b 2 4c 327 13c 2 6c 327 13d 2 4c 30c 13e 2 6c 30c 143 2
      4e 301 144 2 6e 301 145 2 4e 327 146 2 6e 327 147 2 4e 30c 148 2 6e 30c 14c 2 4f 304 14d 2
      6f 304 14e 2 4f 306 14f 2 6f 306 150 2 4f 30b 151 2 6f 30b 154 2 52 301 155 2 72 301 156 2
      52 327 157 2 72 327 158 2 52 30c 159 2 72 30c 15a 2 53 301 15b 2 73 301 15c 2 53 302 15d 2
      73 302 15e 2 53 327 15f 2 73 327 160 2 53 30c 161 2 73 30c 162 2 54 327 163 2 74 327 164 2
      54 30c 165 2 74 30c 168 2 55 303 169 2 75 303 16a 2 55 304 16b 2 75 304 16c 2 55 306 16d 2
      75 306 16e 2 55 30a 16f 2 75 30a 170 2 55 30b 171 2 75 30b 172 2 55 328 173 2 75 328 174 2
      57 302 175 2 77 302 176 2 59 302 177 2 79 302 178 2 59 308 179 2 5a 301 17a 2 7a 301 17b 2
      5a 307 17c 2 7a 307 17d 2 5a 30c 17e 2 7a 30c 1a0 2 4f 31b 1a1 2 6f 31b 1af 2 55 31b 1b0 2
      75 31b 1cd 2 41 30c 1ce 2 61 30c 1cf 2 49 30c 1d0 2 69 30c 1d1 2 4f 30c 1d2 2 6f 30c 1d3 2
      55 30c 1d4 2 75 30c 1d5 3 55 308 304 1d6 3 75 308 304 1d7 3 55 308 301 1d8 3 75 308 301
      1d9 3 55 308 30c 1da 3 75 308 30c 1db 3 55 308 300 1dc 3 75 308 300 1de 3 41 308 304 1df 3
      61 308 304 1e0 3 41 307 304 1e1 3 61 307 304 1e2 2 c6 304 1e3 2 e6 304 1e6 2 47 30c 1e7 2
      67 30c 1e8 2 4b 30c 1e9 2 6b 30c 1ea 2 4f 328 1eb 2 6f 328 1ec 3 4f 328 304 1ed 3 6f 328
      304 1ee 2 1b7 30c 1ef 2 292 30c 1f0 2 6a 30c 1f4 2 47 301 1f5 2 67 301 1f8 2 4e 300 1f9 2
      6e 300 1fa 3 41 30a 301 1fb 3 61 30a 301 1fc 2 c6 301 1fd 2 e6 301 1fe 2 d8 301 1ff 2 f8
      301 200 2 41 30f 201 2 61 30f 202 2 41 311 203 2 61 311 204 2 45 30f 205 2 65 30f 206 2 45
      311 207 2 65 311 208 2 49 30f 209 2 69 30f 20a 2 49 311 20b 2 69 311 20c 2 4f 30f 20d 2 6f
      30f 20e 2 4f 311 20f 2 6f 311 210 2 52 30f 211 2 72 30f 212 2 52 311 213 2 72 311 214 2 55
      30f 215 2 75 30f 216 2 55 311 217 2 75 311 218 2 53 326 219 2 73 326 21a 2 54 326 21b 2 74
      326 21e 2 48 30c 21f 2 68 30c 226 2 41 307 227 2 61 307 228 2 45 327 229 2 65 327 22a 3 4f
      308 304 22b 3 6f 308 304 22c 3 4f 303 304 22d 3 6f 303 304 22e 2 4f 307 22f 2 6f 307 230 3
      4f 307 304 231 3 6f 307 304 232 2 59 304 233 2 79 304 340 1 300 341 1 301 343 1 313 344 2
      308 301 374 1 2b9 37e 1 3b 385 2 a8 301 386 2 391 301 387 1 b7 388 2 395 301 389 2 397 301
      38a 2 399 301 38c 2 39f 301 38e 2 3a5 301 38f 2 3a9 301 390 3 3b9 308 301 3aa 2 399 308
      3ab 2 3a5 308 3ac 2 3b1 301 3ad 2 3b5 301 3ae 2 3b7 301 3af 2 3b9 301 3b0 3 3c5 308 301
      3ca 2 3b9 308 3cb 2 3c5 308 3cc 2 3bf 301 3cd 2 3c5 301 3ce 2 3c9 301 3d3 2 3d2 301 3d4 2
      3d2 308 400 2 415 300 401 2 415 308 403 2 413 301 407 2 406 308 40c 2 41a 301 40d 2 418
      300 40e 2 423 306 419 2 418 306 439 2 438 306 450 2 435 300 451 2 435 308 453 2 433 301
      457 2 456 308 45c 2 43a 301 45d 2 438 300 45e 2 443 306 476 2 474 30f 477 2 475 30f 4c1 2
      416 306 4c2 2 436 306 4d0 2 410 306 4d1 2 430 306 4d2 2 410 308 4d3 2 430 308 4d6 2 415
      306 4d7 2 435 306 4da 2 4d8 308 4db 2 4d9 308 4dc 2 416 308 4dd 2 436 308 4de 2 417 308
      4df 2 437 308 4e2 2 418 304 4e3 2 438 304 4e4 2 418 308 4e5 2 438 308 4e6 2 41e 308 4e7 2
      43e 308 4ea 2 4e8 308 4eb 2 4e9 308 4ec 2 42d 308 4ed 2 44d 308 4ee 2 423 304 4ef 2 443
      304 4f0 2 423 308 4f1 2 443 308 4f2 2 423 30b 4f3 2 443 30b 4f4 2 427 308 4f5 2 447 308
      4f8 2 42b 308 4f9 2 44b 308 622 2 627 653 623 2 627 654 624 2 648 654 625 2 627 655 626 2
      64a 654 6c0 2 6d5 654 6c2 2 6c1 654 6d3 2 6d2 654 929 2 928 93c 931 2 930 93c 934 2 933
      93c 958 2 915 93c 959 2 916 93c 95a 2 917 93c 95b 2 91c 93c 95c 2 921 93c 95d 2 922 93c
      95e 2 92b 93c 95f 2 92f 93c 9cb 2 9c7 9be 9cc 2 9c7 9d7 9dc 2 9a1 9bc 9dd 2 9a2 9bc 9df 2
      9af 9bc a33 2 a32 a3c a36 2 a38 a3c a59 2 a16 a3c a5a 2 a17 a3c a5b 2 a1c a3c a5e 2 a2b
      a3c b48 2 b47 b56 b4b 2 b47 b3e b4c 2 b47 b57 b5c 2 b21 b3c b5d 2 b22 b3c b94 2 b92 bd7
      bca 2 bc6 bbe bcb 2 bc7 bbe bcc 2 bc6 bd7 c48 2 c46 c56 cc0 2 cbf cd5 cc7 2 cc6 cd5 cc8 2
      cc6 cd6 cca 2 cc6 cc2 ccb 3 cc6 cc2 cd5 d4a 2 d46 d3e d4b 2 d47 d3e d4c 2 d46 d57 dda 2
      dd9 dca ddc 2 dd9 dcf ddd 3 dd9 dcf dca dde 2 dd9 ddf f43 2 f42 fb7 f4d 2 f4c fb7 f52 2
      f51 fb7 f57 2 f56 fb7 f5c 2 f5b fb7 f69 2 f40 fb5 f73 2 f71 f72 f75 2 f71 f74 f76 2 fb2
      f80 f78 2 fb3 f80 f81 2 f71 f80 f93 2 f92 fb7 f9d 2 f9c fb7 fa2 2 fa1 fb7 fa7 2 fa6 fb7
      fac 2 fab fb7 fb9 2 f90 fb5 1026 2 1025 102e 1b06 2 1b05 1b35 1b08 2 1b07 1b35 1b0a 2 1b09
      1b35 1b0c 2 1b0b 1b35 1b0e 2 1b0d 1b35 1b12 2 1b11 1b35 1b3b 2 1b3a 1b35 1b3d 2 1b3c 1b35
      1b40 2 1b3e 1b35 1b41 2 1b3f 1b35 1b43 2 1b42 1b35 1e00 2 41 325 1e01 2 61 325 1e02 2 42
      307 1e03 2 62 307 1e04 2 42 323 1e05 2 62 323 1e06 2 42 331 1e07 2 62 331 1e08 3 43 327
      301 1e09 3 63 327 301 1e0a 2 44 307 1e0b 2 64 307 1e0c 2 44 323 1e0d 2 64 323 1e0e 2 44
      331 1e0f 2 64 331 1e10 2 44 327 1e11 2 64 327 1e12 2 44 32d 1e13 2 64 32d 1e14 3 45 304
      300 1e15 3 65 304 300 1e16 3 45 304 301 1e17 3 65 304 301 1e18 2 45 32d 1e19 2 65 32d 1e1a
      2 45 330 1e1b 2 65 330 1e1c 3 45 327 306 1e1d 3 65 327 306 1e1e 2 46 307 1e1f 2 66 307
      1e20 2 47 304 1e21 2 67 304 1e22 2 48 307 1e23 2 68 307 1e24 2 48 323 1e25 2 68 323 1e26 2
      48 308 1e27 2 68 308 1e28 2 48 327 1e29 2 68 327 1e2a 2 48 32e 1e2b 2 68 32e 1e2c 2 49 330
      1e2d 2 69 330 1e2e 3 49 308 301 1e2f 3 69 308 301 1e30 2 4b 301 1e31 2 6b 301 1e32 2 4b
      323 1e33 2 6b 323 1e34 2 4b 331 1e35 2 6b 331 1e36 2 4c 323 1e37 2 6c 323 1e38 3 4c 323
      304 1e39 3 6c 323 304 1e3a 2 4c 331 1e3b 2 6c 331 1e3c 2 4c 32d 1e3d 2 6c 32d 1e3e 2 4d
      301 1e3f 2 6d 301 1e40 2 4d 307 1e41 2 6d 307 1e42 2 4d 323 1e43 2 6d 323 1e44 2 4e 307
      1e45 2 6e 307 1e46 2 4e 323 1e47 2 6e 323 1e48 2 4e 331 1e49 2 6e 331 1e4a 2 4e 32d 1e4b 2
      6e 32d 1e4c 3 4f 303 301 1e4d 3 6f 303 301 1e4e 3 4f 303 308 1e4f 3 6f 303 308 1e50 3 4f
      304 300 1e51 3 6f 304 300 1e52 3 4f 304 301 1e53 3 6f 304 301 1e54 2 50 301 1e55 2 70 301
      1e56 2 50 307 1e57 2 70 307 1e58 2 52 307 1e59 2 72 307 1e5a 2 52 323 1e5b 2 72 323 1e5c 3
      52 323 304 1e5d 3 72 323 304 1e5e 2 52 331 1e5f 2 72 331 1e60 2 53 307 1e61 2 73 307 1e62
      2 53 323 1e63 2 73 323 1e64 3 53 301 307 1e65 3 73 301 307 1e66 3 53 30c 307 1e67 3 73 30c
      307 1e68 3 53 323 307 1e69 3 73 323 307 1e6a 2 54 307 1e6b 2 74 307 1e6c 2 54 323 1e6d 2
      74 323 1e6e 2 54 331 1e6f 2 74 331 1e70 2 54 32d 1e71 2 74 32d 1e72 2 55 324 1e73 2 75 324
      1e74 2 55 330 1e75 2 75 330 1e76 2 55 32d 1e77 2 75 32d 1e78 3 55 303 301 1e79 3 75 303
      301 1e7a 3 55 304 308 1e7b 3 75 304 308 1e7c 2 56 303 1e7d 2 76 303 1e7e 2 56 323 1e7f 2
      76 323 1e80 2 57 300 1e81 2 77 300 1e82 2 57 301 1e83 2 77 301 1e84 2 57 308 1e85 2 77 308
      1e86 2 57 307 1e87 2 77 307 1e88 2 57 323 1e89 2 77 323 1e8a 2 58 307 1e8b 2 78 307 1e8c 2
      58 308 1e8d 2 78 308 1e8e 2 59 307 1e8f 2 79 307 1e90 2 5a 302 1e91 2 7a 302 1e92 2 5a 323
      1e93 2 7a 323 1e94 2 5a 331 1e95 2 7a 331 1e96 2 68 331 1e97 2 74 308 1e98 2 77 30a 1e99 2
      79 30a 1e9b 2 17f 307 1ea0 2 41 323 1ea1 2 61 323 1ea2 2 41 309 1ea3 2 61 309 1ea4 3 41
      302 301 1ea5 3 61 302 301 1ea6 3 41 302 300 1ea7 3 61 302 300 1ea8 3 41 302 309 1ea9 3 61
      302 309 1eaa 3 41 302 303 1eab 3 61 302 303 1eac 3 41 323 302 1ead 3 61 323 302 1eae 3 41
      306 301 1eaf 3 61 306 301 1eb0 3 41 306 300 1eb1 3 61 306 300 1eb2 3 41 306 309 1eb3 3 61
      306 309 1eb4 3 41 306 303 1eb5 3 61 306 303 1eb6 3 41 323 306 1eb7 3 61 323 306 1eb8 2 45
      323 1eb9 2 65 323 1eba 2 45 309 1ebb 2 65 309 1ebc 2 45 303 1ebd 2 65 303 1ebe 3 45 302
      301 1ebf 3 65 302 301 1ec0 3 45 302 300 1ec1 3 65 302 300 1ec2 3 45 302 309 1ec3 3 65 302
      309 1ec4 3 45 302 303 1ec5 3 65 302 303 1ec6 3 45 323 302 1ec7 3 65 323 302 1ec8 2 49 309
      1ec9 2 69 309 1eca 2 49 323 1ecb 2 69 323 1ecc 2 4f 323 1ecd 2 6f 323 1ece 2 4f 309 1ecf 2
      6f 309 1ed0 3 4f 302 301 1ed1 3 6f 302 301 1ed2 3 4f 302 300 1ed3 3 6f 302 300 1ed4 3 4f
      302 309 1ed5 3 6f 302 309 1ed6 3 4f 302 303 1ed7 3 6f 302 303 1ed8 3 4f 323 302 1ed9 3 6f
      323 302 1eda 3 4f 31b 301 1edb 3 6f 31b 301 1edc 3 4f 31b 300 1edd 3 6f 31b 300 1ede 3 4f
      31b 309 1edf 3 6f 31b 309 1ee0 3 4f 31b 303 1ee1 3 6f 31b 303 1ee2 3 4f 31b 323 1ee3 3 6f
      31b 323 1ee4 2 55 323 1ee5 2 75 323 1ee6 2 55 309 1ee7 2 75 309 1ee8 3 55 31b 301 1ee9 3
      75 31b 301 1eea 3 55 31b 300 1eeb 3 75 31b 300 1eec 3 55 31b 309 1eed 3 75 31b 309 1eee 3
      55 31b 303 1eef 3 75 31b 303 1ef0 3 55 31b 323 1ef1 3 75 31b 323 1ef2 2 59 300 1ef3 2 79
      300 1ef4 2 59 323 1ef5 2 79 323 1ef6 2 59 309 1ef7 2 79 309 1ef8 2 59 303 1ef9 2 79 303
      1f00 2 3b1 313 1f01 2 3b1 314 1f02 3 3b1 313 300 1f03 3 3b1 314 300 1f04 3 3b1 313 301
      1f05 3 3b1 314 301 1f06 3 3b1 313 342 1f07 3 3b1 314 342 1f08 2 391 313 1f09 2 391 314
      1f0a 3 391 313 300 1f0b 3 391 314 300 1f0c 3 391 313 301 1f0d 3 391 314 301 1f0e 3 391 313
      342 1f0f 3 391 314 342 1f10 2 3b5 313 1f11 2 3b5 314 1f12 3 3b5 313 300 1f13 3 3b5 314 300
      1f14 3 3b5 313 301 1f15 3 3b5 314 301 1f18 2 395 313 1f19 2 395 314 1f1a 3 395 313 300
      1f1b 3 395 314 300 1f1c 3 395 313 301 1f1d 3 395 314 301 1f20 2 3b7 313 1f21 2 3b7 314
      1f22 3 3b7 313 300 1f23 3 3b7 314 300 1f24 3 3b7 313 301 1f25 3 3b7 314 301 1f26 3 3b7 313
      342 1f27 3 3b7 314 342 1f28 2 397 313 1f29 2 397 314 1f2a 3 397 313 300 1f2b 3 397 314 300
      1f2c 3 397 313 301 1f2d 3 397 314 301 1f2e 3 397 313 342 1f2f 3 397 314 342 1f30 2 3b9 313
      1f31 2 3b9 314 1f32 3 3b9 313 300 1f33 3 3b9 314 300 1f34 3 3b9 313 301 1f35 3 3b9 314 301
      1f36 3 3b9 313 342 1f37 3 3b9 314 342 1f38 2 399 313 1f39 2 399 314 1f3a 3 399 313 300
      1f3b 3 399 314 300 1f3c 3 399 313 301 1f3d 3 399 314 301 1f3e 3 399 313 342 1f3f 3 399 314
      342 1f40 2 3bf 313 1f41 2 3bf 314 1f42 3 3bf 313 300 1f43 3 3bf 314 300 1f44 3 3bf 313 301
      1f45 3 3bf 314 301 1f48 2 39f 313 1f49 2 39f 314 1f4a 3 39f 313 300 1f4b 3 39f 314 300
      1f4c 3 39f 313 301 1f4d 3 39f 314 301 1f50 2 3c5 313 1f51 2 3c5 314 1f52 3 3c5 313 300
      1f53 3 3c5 314 300 1f54 3 3c5 313 301 1f55 3 3c5 314 301 1f56 3 3c5 313 342 1f57 3 3c5 314
      342 1f59 2 3a5 314 1f5b 3 3a5 314 300 1f5d 3 3a5 314 301 1f5f 3 3a5 314 342 1f60 2 3c9 313
      1f61 2 3c9 314 1f62 3 3c9 313 300 1f63 3 3c9 314 300 1f64 3 3c9 313 301 1f65 3 3c9 314 301
      1f66 3 3c9 313 342 1f67 3 3c9 314 342 1f68 2 3a9 313 1f69 2 3a9 314 1f6a 3 3a9 313 300
      1f6b 3 3a9 314 300 1f6c 3 3a9 313 301 1f6d 3 3a9 314 301 1f6e 3 3a9 313 342 1f6f 3 3a9 314
      342 1f70 2 3b1 300 1f71 2 3b1 301 1f72 2 3b5 300 1f73 2 3b5 301 1f74 2 3b7 300 1f75 2 3b7
      301 1f76 2 3b9 300 1f77 2 3b9 301 1f78 2 3bf 300 1f79 2 3bf 301 1f7a 2 3c5 300 1f7b 2 3c5
      301 1f7c 2 3c9 300 1f7d 2 3c9 301 1f80 3 3b1 313 345 1f81 3 3b1 314 345 1f82 4 3b1 313 300
      345 1f83 4 3b1 314 300 345 1f84 4 3b1 313 301 345 1f85 4 3b1 314 301 345 1f86 4 3b1 313
      342 345 1f87 4 3b1 314 342 345 1f88 3 391 313 345 1f89 3 391 314 345 1f8a 4 391 313 300
      345 1f8b 4 391 314 300 345 1f8c 4 391 313 301 345 1f8d 4 391 314 301 345 1f8e 4 391 313
      342 345 1f8f 4 391 314 342 345 1f90 3 3b7 313 345 1f91 3 3b7 314 345 1f92 4 3b7 313 300
      345 1f93 4 3b7 314 300 345 1f94 4 3b7 313 301 345 1f95 4 3b7 314 301 345 1f96 4 3b7 313
      342 345 1f97 4 3b7 314 342 345 1f98 3 397 313 345 1f99 3 397 314 345 1f9a 4 397 313 300
      345 1f9b 4 397 314 300 345 1f9c 4 397 313 301 345 1f9d 4 397 314 301 345 1f9e 4 397 313
      342 345 1f9f 4 397 314 342 345 1fa0 3 3c9 313 345 1fa1 3 3c9 314 345 1fa2 4 3c9 313 300
      345 1fa3 4 3c9 314 300 345 1fa4 4 3c9 313 301 345 1fa5 4 3c9 314 301 345 1fa6 4 3c9 313
      342 345 1fa7 4 3c9 314 342 345 1fa8 3 3a9 313 345 1fa9 3 3a9 314 345 1faa 4 3a9 313 300
      345 1fab 4 3a9 314 300 345 1fac 4 3a9 313 301 345 1fad 4 3a9 314 301 345 1fae 4 3a9 313
      342 345 1faf 4 3a9 314 342 345 1fb0 2 3b1 306 1fb1 2 3b1 304 1fb2 3 3b1 300 345 1fb3 2 3b1
      345 1fb4 3 3b1 301 345 1fb6 2 3b1 342 1fb7 3 3b1 342 345 1fb8 2 391 306 1fb9 2 391 304
      1fba 2 391 300 1fbb 2 391 301 1fbc 2 391 345 1fbe 1 3b9 1fc1 2 a8 342 1fc2 3 3b7 300 345
      1fc3 2 3b7 345 1fc4 3 3b7 301 345 1fc6 2 3b7 342 1fc7 3 3b7 342 345 1fc8 2 395 300 1fc9 2
      395 301 1fca 2 397 300 1fcb 2 397 301 1fcc 2 397 345 1fcd 2 1fbf 300 1fce 2 1fbf 301 1fcf
      2 1fbf 342 1fd0 2 3b9 306 1fd1 2 3b9 304 1fd2 3 3b9 308 300 1fd3 3 3b9 308 301 1fd6 2 3b9
      342 1fd7 3 3b9 308 342 1fd8 2 399 306 1fd9 2 399 304 1fda 2 399 300 1fdb 2 399 301 1fdd 2
      1ffe 300 1fde 2 1ffe 301 1fdf 2 1ffe 342 1fe0 2 3c5 306 1fe1 2 3c5 304 1fe2 3 3c5 308 300
      1fe3 3 3c5 308 301 1fe4 2 3c1 313 1fe5 2 3c1 314 1fe6 2 3c5 342 1fe7 3 3c5 308 342 1fe8 2
      3a5 306 1fe9 2 3a5 304 1fea 2 3a5 300 1feb 2 3a5 301 1fec 2 3a1 314 1fed 2 a8 300 1fee 2
      a8 301 1fef 1 60 1ff2 3 3c9 300 345 1ff3 2 3c9 345 1ff4 3 3c9 301 345 1ff6 2 3c9 342 1ff7
      3 3c9 342 345 1ff8 2 39f 300 1ff9 2 39f 301 1ffa 2 3a9 300 1ffb 2 3a9 301 1ffc 2 3a9 345
      1ffd 1 b4 2000 1 2002 2001 1 2003 2126 1 3a9 212a 1 4b 212b 2 41 30a 219a 2 2190 338 219b
      2 2192 338 21ae 2 2194 338 21cd 2 21d0 338 21ce 2 21d4 338 21cf 2 21d2 338 2204 2 2203 338
      2209 2 2208 338 220c 2 220b 338 2224 2 2223 338 2226 2 2225 338 2241 2 223c 338 2244 2
      2243 338 2247 2 2245 338 2249 2 2248 338 2260 2 3d 338 2262 2 2261 338 226d 2 224d 338
      226e 2 3c 338 226f 2 3e 338 2270 2 2264 338 2271 2 2265 338 2274 2 2272 338 2275 2 2273
      338 2278 2 2276 338 2279 2 2277 338 2280 2 227a 338 2281 2 227b 338 2284 2 2282 338 2285 2
      2283 338 2288 2 2286 338 2289 2 2287 338 22ac 2 22a2 338 22ad 2 22a8 338 22ae 2 22a9 338
      22af 2 22ab 338 22e0 2 227c 338 22e1 2 227d 338 22e2 2 2291 338 22e3 2 2292 338 22ea 2
      22b2 338 22eb 2 22b3 338 22ec 2 22b4 338 22ed 2 22b5 338 2329 1 3008 232a 1 3009 2adc 2
      2add 338 304c 2 304b 3099 304e 2 304d 3099 3050 2 304f 3099 3052 2 3051 3099 3054 2 3053
      3099 3056 2 3055 3099 3058 2 3057 3099 305a 2 3059 3099 305c 2 305b 3099 305e 2 305d 3099
      3060 2 305f 3099 3062 2 3061 3099 3065 2 3064 3099 3067 2 3066 3099 3069 2 3068 3099 3070
      2 306f 3099 3071 2 306f 309a 3073 2 3072 3099 3074 2 3072 309a 3076 2 3075 3099 3077 2
      3075 309a 3079 2 3078 3099 307a 2 3078 309a 307c 2 307b 3099 307d 2 307b 309a 3094 2 3046
      3099 309e 2 309d 3099 30ac 2 30ab 3099 30ae 2 30ad 3099 30b0 2 30af 3099 30b2 2 30b1 3099
      30b4 2 30b3 3099 30b6 2 30b5 3099 30b8 2 30b7 3099 30ba 2 30b9 3099 30bc 2 30bb 3099 30be
      2 30bd 3099 30c0 2 30bf 3099 30c2 2 30c1 3099 30c5 2 30c4 3099 30c7 2 30c6 3099 30c9 2
      30c8 3099 30d0 2 30cf 3099 30d1 2 30cf 309a 30d3 2 30d2 3099 30d4 2 30d2 309a 30d6 2 30d5
      3099 30d7 2 30d5 309a 30d9 2 30d8 3099 30da 2 30d8 309a 30dc 2 30db 3099 30dd 2 30db 309a
      30f4 2 30a6 3099 30f7 2 30ef 3099 30f8 2 30f0 3099 30f9 2 30f1 3099 30fa 2 30f2 3099 30fe
      2 30fd 3099 f900 1 8c48 f901 1 66f4 f902 1 8eca f903 1 8cc8 f904 1 6ed1 f905 1 4e32 f906 1
      53e5 f907 1 9f9c f908 1 9f9c f909 1 5951 f90a 1 91d1 f90b 1 5587 f90c 1 5948 f90d 1 61f6
      f90e 1 7669 f90f 1 7f85 f910 1 863f f911 1 87ba f912 1 88f8 f913 1 908f f914 1 6a02 f915 1
      6d1b f916 1 70d9 f917 1 73de f918 1 843d f919 1 916a f91a 1 99f1 f91b 1 4e82 f91c 1 5375
      f91d 1 6b04 f91e 1 721b f91f 1 862d f920 1 9e1e f921 1 5d50 f922 1 6feb f923 1 85cd f924 1
      8964 f925 1 62c9 f926 1 81d8 f927 1 881f f928 1 5eca f929 1 6717 f92a 1 6d6a f92b 1 72fc
      f92c 1 90ce f92d 1 4f86 f92e 1 51b7 f92f 1 52de f930 1 64c4 f931 1 6ad3 f932 1 7210 f933 1
      76e7 f934 1 8001 f935 1 8606 f936 1 865c f937 1 8def f938 1 9732 f939 1 9b6f f93a 1 9dfa
      f93b 1 788c f93c 1 797f f93d 1 7da0 f93e 1 83c9 f93f 1 9304 f940 1 9e7f f941 1 8ad6 f942 1
      58df f943 1 5f04 f944 1 7c60 f945 1 807e f946 1 7262 f947 1 78ca f948 1 8cc2 f949 1 96f7
      f94a 1 58d8 f94b 1 5c62 f94c 1 6a13 f94d 1 6dda f94e 1 6f0f f94f 1 7d2f f950 1 7e37 f951 1
      964b f952 1 52d2 f953 1 808b f954 1 51dc f955 1 51cc f956 1 7a1c f957 1 7dbe f958 1 83f1
      f959 1 9675 f95a 1 8b80 f95b 1 62cf f95c 1 6a02 f95d 1 8afe f95e 1 4e39 f95f 1 5be7 f960 1
      6012 f961 1 7387 f962 1 7570 f963 1 5317 f964 1 78fb f965 1 4fbf f966 1 5fa9 f967 1 4e0d
      f968 1 6ccc f969 1 6578 f96a 1 7d22 f96b 1 53c3 f96c 1 585e f96d 1 7701 f96e 1 8449 f96f 1
      8aaa f970 1 6bba f971 1 8fb0 f972 1 6c88 f973 1 62fe f974 1 82e5 f975 1 63a0 f976 1 7565
      f977 1 4eae f978 1 5169 f979 1 51c9 f97a 1 6881 f97b 1 7ce7 f97c 1 826f f97d 1 8ad2 f97e 1
      91cf f97f 1 52f5 f980 1 5442 f981 1 5973 f982 1 5eec f983 1 65c5 f984 1 6ffe f985 1 792a
      f986 1 95ad f987 1 9a6a f988 1 9e97 f989 1 9ece f98a 1 529b f98b 1 66c6 f98c 1 6b77 f98d 1
      8f62 f98e 1 5e74 f98f 1 6190 f990 1 6200 f991 1 649a f992 1 6f23 f993 1 7149 f994 1 7489
      f995 1 79ca f996 1 7df4 f997 1 806f f998 1 8f26 f999 1 84ee f99a 1 9023 f99b 1 934a f99c 1
      5217 f99d 1 52a3 f99e 1 54bd f99f 1 70c8 f9a0 1 88c2 f9a1 1 8aaa f9a2 1 5ec9 f9a3 1 5ff5
      f9a4 1 637b f9a5 1 6bae f9a6 1 7c3e f9a7 1 7375 f9a8 1 4ee4 f9a9 1 56f9 f9aa 1 5be7 f9ab 1
      5dba f9ac 1 601c f9ad 1 73b2 f9ae 1 7469 f9af 1 7f9a f9b0 1 8046 f9b1 1 9234 f9b2 1 96f6
      f9b3 1 9748 f9b4 1 9818 f9b5 1 4f8b f9b6 1 79ae f9b7 1 91b4 f9b8 1 96b8 f9b9 1 60e1 f9ba 1
      4e86 f9bb 1 50da f9bc 1 5bee f9bd 1 5c3f f9be 1 6599 f9bf 1 6a02 f9c0 1 71ce f9c1 1 7642
      f9c2 1 84fc f9c3 1 907c f9c4 1 9f8d f9c5 1 6688 f9c6 1 962e f9c7 1 5289 f9c8 1 677b f9c9 1
      67f3 f9ca 1 6d41 f9cb 1 6e9c f9cc 1 7409 f9cd 1 7559 f9ce 1 786b f9cf 1 7d10 f9d0 1 985e
      f9d1 1 516d f9d2 1 622e f9d3 1 9678 f9d4 1 502b f9d5 1 5d19 f9d6 1 6dea f9d7 1 8f2a f9d8 1
      5f8b f9d9 1 6144 f9da 1 6817 f9db 1 7387 f9dc 1 9686 f9dd 1 5229 f9de 1 540f f9df 1 5c65
      f9e0 1 6613 f9e1 1 674e f9e2 1 68a8 f9e3 1 6ce5 f9e4 1 7406 f9e5 1 75e2 f9e6 1 7f79 f9e7 1
      88cf f9e8 1 88e1 f9e9 1 91cc f9ea 1 96e2 f9eb 1 533f f9ec 1 6eba f9ed 1 541d f9ee 1 71d0
      f9ef 1 7498 f9f0 1 85fa f9f1 1 96a3 f9f2 1 9c57 f9f3 1 9e9f f9f4 1 6797 f9f5 1 6dcb f9f6 1
      81e8 f9f7 1 7acb f9f8 1 7b20 f9f9 1 7c92 f9fa 1 72c0 f9fb 1 7099 f9fc 1 8b58 f9fd 1 4ec0
      f9fe 1 8336 f9ff 1 523a fa00 1 5207 fa01 1 5ea6 fa02 1 62d3 fa03 1 7cd6 fa04 1 5b85 fa05 1
      6d1e fa06 1 66b4 fa07 1 8f3b fa08 1 884c fa09 1 964d fa0a 1 898b fa0b 1 5ed3 fa0c 1 5140
      fa0d 1 55c0 fa10 1 585a fa12 1 6674 fa15 1 51de fa16 1 732a fa17 1 76ca fa18 1 793c fa19 1
      795e fa1a 1 7965 fa1b 1 798f fa1c 1 9756 fa1d 1 7cbe fa1e 1 7fbd fa20 1 8612 fa22 1 8af8
      fa25 1 9038 fa26 1 90fd fa2a 1 98ef fa2b 1 98fc fa2c 1 9928 fa2d 1 9db4 fa2e 1 90de fa2f 1
      96b7 fa30 1 4fae fa31 1 50e7 fa32 1 514d fa33 1 52c9 fa34 1 52e4 fa35 1 5351 fa36 1 559d
      fa37 1 5606 fa38 1 5668 fa39 1 5840 fa3a 1 58a8 fa3b 1 5c64 fa3c 1 5c6e fa3d 1 6094 fa3e 1
      6168 fa3f 1 618e fa40 1 61f2 fa41 1 654f fa42 1 65e2 fa43 1 6691 fa44 1 6885 fa45 1 6d77
      fa46 1 6e1a fa47 1 6f22 fa48 1 716e fa49 1 722b fa4a 1 7422 fa4b 1 7891 fa4c 1 793e fa4d 1
      7949 fa4e 1 7948 fa4f 1 7950 fa50 1 7956 fa51 1 795d fa52 1 798d fa53 1 798e fa54 1 7a40
      fa55 1 7a81 fa56 1 7bc0 fa57 1 7df4 fa58 1 7e09 fa59 1 7e41 fa5a 1 7f72 fa5b 1 8005 fa5c 1
      81ed fa5d 1 8279 fa5e 1 8279 fa5f 1 8457 fa60 1 8910 fa61 1 8996 fa62 1 8b01 fa63 1 8b39
      fa64 1 8cd3 fa65 1 8d08 fa66 1 8fb6 fa67 1 9038 fa68 1 96e3 fa69 1 97ff fa6a 1 983b fa6b 1
      6075 fa6c 1 242ee fa6d 1 8218 fa70 1 4e26 fa71 1 51b5 fa72 1 5168 fa73 1 4f80 fa74 1 5145
      fa75 1 5180 fa76 1 52c7 fa77 1 52fa fa78 1 559d fa79 1 5555 fa7a 1 5599 fa7b 1 55e2 fa7c 1
      585a fa7d 1 58b3 fa7e 1 5944 fa7f 1 5954 fa80 1 5a62 fa81 1 5b28 fa82 1 5ed2 fa83 1 5ed9
      fa84 1 5f69 fa85 1 5fad fa86 1 60d8 fa87 1 614e fa88 1 6108 fa89 1 618e fa8a 1 6160 fa8b 1
      61f2 fa8c 1 6234 fa8d 1 63c4 fa8e 1 641c fa8f 1 6452 fa90 1 6556 fa91 1 6674 fa92 1 6717
      fa93 1 671b fa94 1 6756 fa95 1 6b79 fa96 1 6bba fa97 1 6d41 fa98 1 6edb fa99 1 6ecb fa9a 1
      6f22 fa9b 1 701e fa9c 1 716e fa9d 1 77a7 fa9e 1 7235 fa9f 1 72af faa0 1 732a faa1 1 7471
      faa2 1 7506 faa3 1 753b faa4 1 761d faa5 1 761f faa6 1 76ca faa7 1 76db faa8 1 76f4 faa9 1
      774a faaa 1 7740 faab 1 78cc faac 1 7ab1 faad 1 7bc0 faae 1 7c7b faaf 1 7d5b fab0 1 7df4
      fab1 1 7f3e fab2 1 8005 fab3 1 8352 fab4 1 83ef fab5 1 8779 fab6 1 8941 fab7 1 8986 fab8 1
      8996 fab9 1 8abf faba 1 8af8 fabb 1 8acb fabc 1 8b01 fabd 1 8afe fabe 1 8aed fabf 1 8b39
      fac0 1 8b8a fac1 1 8d08 fac2 1 8f38 fac3 1 9072 fac4 1 9199 fac5 1 9276 fac6 1 967c fac7 1
      96e3 fac8 1 9756 fac9 1 97db faca 1 97ff facb 1 980b facc 1 983b facd 1 9b12 face 1 9f9c
      facf 1 2284a fad0 1 22844 fad1 1 233d5 fad2 1 3b9d fad3 1 4018 fad4 1 4039 fad5 1 25249
      fad6 1 25cd0 fad7 1 27ed3 fad8 1 9f43 fad9 1 9f8e fb1d 2 5d9 5b4 fb1f 2 5f2 5b7 fb2a 2 5e9
      5c1 fb2b 2 5e9 5c2 fb2c 3 5e9 5bc 5c1 fb2d 3 5e9 5bc 5c2 fb2e 2 5d0 5b7 fb2f 2 5d0 5b8
      fb30 2 5d0 5bc fb31 2 5d1 5bc fb32 2 5d2 5bc fb33 2 5d3 5bc fb34 2 5d4 5bc fb35 2 5d5 5bc
      fb36 2 5d6 5bc fb38 2 5d8 5bc fb39 2 5d9 5bc fb3a 2 5da 5bc fb3b 2 5db 5bc fb3c 2 5dc 5bc
      fb3e 2 5de 5bc fb40 2 5e0 5bc fb41 2 5e1 5bc fb43 2 5e3 5bc fb44 2 5e4 5bc fb46 2 5e6 5bc
      fb47 2 5e7 5bc fb48 2 5e8 5bc fb49 2 5e9 5bc fb4a 2 5ea 5bc fb4b 2 5d5 5b9 fb4c 2 5d1 5bf
      fb4d 2 5db 5bf fb4e 2 5e4 5bf 105c9 2 105d2 307 105e4 2 105da 307 1109a 2 11099 110ba
      1109c 2 1109b 110ba 110ab 2 110a5 110ba 1112e 2 11131 11127 1112f 2 11132 11127 1134b 2
      11347 1133e 1134c 2 11347 11357 11383 2 11382 113c9 11385 2 11384 113bb 1138e 2 1138b
      113c2 11391 2 11390 113c9 113c5 2 113c2 113c2 113c7 2 113c2 113b8 113c8 2 113c2 113c9
      114bb 2 114b9 114ba 114bc 2 114b9 114b0 114be 2 114b9 114bd 115ba 2 115b8 115af 115bb 2
      115b9 115af 11938 2 11935 11930 16121 2 1611e 1611e 16122 2 1611e 16129 16123 2 1611e
      1611f 16124 2 16129 1611f 16125 2 1611e 16120 16126 3 1611e 1611e 1611f 16127 3 1611e
      16129 1611f 16128 3 1611e 1611e 16120 16d68 2 16d67 16d67 16d69 2 16d63 16d67 16d6a 3
      16d63 16d67 16d67 1d15e 2 1d157 1d165 1d15f 2 1d158 1d165 1d160 3 1d158 1d165 1d16e 1d161
      3 1d158 1d165 1d16f 1d162 3 1d158 1d165 1d170 1d163 3 1d158 1d165 1d171 1d164 3 1d158
      1d165 1d172 1d1bb 2 1d1b9 1d165 1d1bc 2 1d1ba 1d165 1d1bd 3 1d1b9 1d165 1d16e 1d1be 3
      1d1ba 1d165 1d16e 1d1bf 3 1d1b9 1d165 1d16f 1d1c0 3 1d1ba 1d165 1d16f 2f800 1 4e3d 2f801 1
      4e38 2f802 1 4e41 2f803 1 20122 2f804 1 4f60 2f805 1 4fae 2f806 1 4fbb 2f807 1 5002 2f808
      1 507a 2f809 1 5099 2f80a 1 50e7 2f80b 1 50cf 2f80c 1 349e 2f80d 1 2063a 2f80e 1 514d
      2f80f 1 5154 2f810 1 5164 2f811 1 5177 2f812 1 2051c 2f813 1 34b9 2f814 1 5167 2f815 1
      518d 2f816 1 2054b 2f817 1 5197 2f818 1 51a4 2f819 1 4ecc 2f81a 1 51ac 2f81b 1 51b5 2f81c
      1 291df 2f81d 1 51f5 2f81e 1 5203 2f81f 1 34df 2f820 1 523b 2f821 1 5246 2f822 1 5272
      2f823 1 5277 2f824 1 3515 2f825 1 52c7 2f826 1 52c9 2f827 1 52e4 2f828 1 52fa 2f829 1 5305
      2f82a 1 5306 2f82b 1 5317 2f82c 1 5349 2f82d 1 5351 2f82e 1 535a 2f82f 1 5373 2f830 1 537d
      2f831 1 537f 2f832 1 537f 2f833 1 537f 2f834 1 20a2c 2f835 1 7070 2f836 1 53ca 2f837 1
      53df 2f838 1 20b63 2f839 1 53eb 2f83a 1 53f1 2f83b 1 5406 2f83c 1 549e 2f83d 1 5438 2f83e
      1 5448 2f83f 1 5468 2f840 1 54a2 2f841 1 54f6 2f842 1 5510 2f843 1 5553 2f844 1 5563 2f845
      1 5584 2f846 1 5584 2f847 1 5599 2f848 1 55ab 2f849 1 55b3 2f84a 1 55c2 2f84b 1 5716 2f84c
      1 5606 2f84d 1 5717 2f84e 1 5651 2f84f 1 5674 2f850 1 5207 2f851 1 58ee 2f852 1 57ce 2f853
      1 57f4 2f854 1 580d 2f855 1 578b 2f856 1 5832 2f857 1 5831 2f858 1 58ac 2f859 1 214e4
      2f85a 1 58f2 2f85b 1 58f7 2f85c 1 5906 2f85d 1 591a 2f85e 1 5922 2f85f 1 5962 2f860 1
      216a8 2f861 1 216ea 2f862 1 59ec 2f863 1 5a1b 2f864 1 5a27 2f865 1 59d8 2f866 1 5a66 2f867
      1 36ee 2f868 1 36fc 2f869 1 5b08 2f86a 1 5b3e 2f86b 1 5b3e 2f86c 1 219c8 2f86d 1 5bc3
      2f86e 1 5bd8 2f86f 1 5be7 2f870 1 5bf3 2f871 1 21b18 2f872 1 5bff 2f873 1 5c06 2f874 1
      5f53 2f875 1 5c22 2f876 1 3781 2f877 1 5c60 2f878 1 5c6e 2f879 1 5cc0 2f87a 1 5c8d 2f87b 1
      21de4 2f87c 1 5d43 2f87d 1 21de6 2f87e 1 5d6e 2f87f 1 5d6b 2f880 1 5d7c 2f881 1 5de1 2f882
      1 5de2 2f883 1 382f 2f884 1 5dfd 2f885 1 5e28 2f886 1 5e3d 2f887 1 5e69 2f888 1 3862 2f889
      1 22183 2f88a 1 387c 2f88b 1 5eb0 2f88c 1 5eb3 2f88d 1 5eb6 2f88e 1 5eca 2f88f 1 2a392
      2f890 1 5efe 2f891 1 22331 2f892 1 22331 2f893 1 8201 2f894 1 5f22 2f895 1 5f22 2f896 1
      38c7 2f897 1 232b8 2f898 1 261da 2f899 1 5f62 2f89a 1 5f6b 2f89b 1 38e3 2f89c 1 5f9a 2f89d
      1 5fcd 2f89e 1 5fd7 2f89f 1 5ff9 2f8a0 1 6081 2f8a1 1 393a 2f8a2 1 391c 2f8a3 1 6094 2f8a4
      1 226d4 2f8a5 1 60c7 2f8a6 1 6148 2f8a7 1 614c 2f8a8 1 614e 2f8a9 1 614c 2f8aa 1 617a
      2f8ab 1 618e 2f8ac 1 61b2 2f8ad 1 61a4 2f8ae 1 61af 2f8af 1 61de 2f8b0 1 61f2 2f8b1 1 61f6
      2f8b2 1 6210 2f8b3 1 621b 2f8b4 1 625d 2f8b5 1 62b1 2f8b6 1 62d4 2f8b7 1 6350 2f8b8 1
      22b0c 2f8b9 1 633d 2f8ba 1 62fc 2f8bb 1 6368 2f8bc 1 6383 2f8bd 1 63e4 2f8be 1 22bf1 2f8bf
      1 6422 2f8c0 1 63c5 2f8c1 1 63a9 2f8c2 1 3a2e 2f8c3 1 6469 2f8c4 1 647e 2f8c5 1 649d 2f8c6
      1 6477 2f8c7 1 3a6c 2f8c8 1 654f 2f8c9 1 656c 2f8ca 1 2300a 2f8cb 1 65e3 2f8cc 1 66f8
      2f8cd 1 6649 2f8ce 1 3b19 2f8cf 1 6691 2f8d0 1 3b08 2f8d1 1 3ae4 2f8d2 1 5192 2f8d3 1 5195
      2f8d4 1 6700 2f8d5 1 669c 2f8d6 1 80ad 2f8d7 1 43d9 2f8d8 1 6717 2f8d9 1 671b 2f8da 1 6721
      2f8db 1 675e 2f8dc 1 6753 2f8dd 1 233c3 2f8de 1 3b49 2f8df 1 67fa 2f8e0 1 6785 2f8e1 1
      6852 2f8e2 1 6885 2f8e3 1 2346d 2f8e4 1 688e 2f8e5 1 681f 2f8e6 1 6914 2f8e7 1 3b9d 2f8e8
      1 6942 2f8e9 1 69a3 2f8ea 1 69ea 2f8eb 1 6aa8 2f8ec 1 236a3 2f8ed 1 6adb 2f8ee 1 3c18
      2f8ef 1 6b21 2f8f0 1 238a7 2f8f1 1 6b54 2f8f2 1 3c4e 2f8f3 1 6b72 2f8f4 1 6b9f 2f8f5 1
      6bba 2f8f6 1 6bbb 2f8f7 1 23a8d 2f8f8 1 21d0b 2f8f9 1 23afa 2f8fa 1 6c4e 2f8fb 1 23cbc
      2f8fc 1 6cbf 2f8fd 1 6ccd 2f8fe 1 6c67 2f8ff 1 6d16 2f900 1 6d3e 2f901 1 6d77 2f902 1 6d41
      2f903 1 6d69 2f904 1 6d78 2f905 1 6d85 2f906 1 23d1e 2f907 1 6d34 2f908 1 6e2f 2f909 1
      6e6e 2f90a 1 3d33 2f90b 1 6ecb 2f90c 1 6ec7 2f90d 1 23ed1 2f90e 1 6df9 2f90f 1 6f6e 2f910
      1 23f5e 2f911 1 23f8e 2f912 1 6fc6 2f913 1 7039 2f914 1 701e 2f915 1 701b 2f916 1 3d96
      2f917 1 704a 2f918 1 707d 2f919 1 7077 2f91a 1 70ad 2f91b 1 20525 2f91c 1 7145 2f91d 1
      24263 2f91e 1 719c 2f91f 1 243ab 2f920 1 7228 2f921 1 7235 2f922 1 7250 2f923 1 24608
      2f924 1 7280 2f925 1 7295 2f926 1 24735 2f927 1 24814 2f928 1 737a 2f929 1 738b 2f92a 1
      3eac 2f92b 1 73a5 2f92c 1 3eb8 2f92d 1 3eb8 2f92e 1 7447 2f92f 1 745c 2f930 1 7471 2f931 1
      7485 2f932 1 74ca 2f933 1 3f1b 2f934 1 7524 2f935 1 24c36 2f936 1 753e 2f937 1 24c92 2f938
      1 7570 2f939 1 2219f 2f93a 1 7610 2f93b 1 24fa1 2f93c 1 24fb8 2f93d 1 25044 2f93e 1 3ffc
      2f93f 1 4008 2f940 1 76f4 2f941 1 250f3 2f942 1 250f2 2f943 1 25119 2f944 1 25133 2f945 1
      771e 2f946 1 771f 2f947 1 771f 2f948 1 774a 2f949 1 4039 2f94a 1 778b 2f94b 1 4046 2f94c 1
      4096 2f94d 1 2541d 2f94e 1 784e 2f94f 1 788c 2f950 1 78cc 2f951 1 40e3 2f952 1 25626 2f953
      1 7956 2f954 1 2569a 2f955 1 256c5 2f956 1 798f 2f957 1 79eb 2f958 1 412f 2f959 1 7a40
      2f95a 1 7a4a 2f95b 1 7a4f 2f95c 1 2597c 2f95d 1 25aa7 2f95e 1 25aa7 2f95f 1 7aee 2f960 1
      4202 2f961 1 25bab 2f962 1 7bc6 2f963 1 7bc9 2f964 1 4227 2f965 1 25c80 2f966 1 7cd2 2f967
      1 42a0 2f968 1 7ce8 2f969 1 7ce3 2f96a 1 7d00 2f96b 1 25f86 2f96c 1 7d63 2f96d 1 4301
      2f96e 1 7dc7 2f96f 1 7e02 2f970 1 7e45 2f971 1 4334 2f972 1 26228 2f973 1 26247 2f974 1
      4359 2f975 1 262d9 2f976 1 7f7a 2f977 1 2633e 2f978 1 7f95 2f979 1 7ffa 2f97a 1 8005 2f97b
      1 264da 2f97c 1 26523 2f97d 1 8060 2f97e 1 265a8 2f97f 1 8070 2f980 1 2335f 2f981 1 43d5
      2f982 1 80b2 2f983 1 8103 2f984 1 440b 2f985 1 813e 2f986 1 5ab5 2f987 1 267a7 2f988 1
      267b5 2f989 1 23393 2f98a 1 2339c 2f98b 1 8201 2f98c 1 8204 2f98d 1 8f9e 2f98e 1 446b
      2f98f 1 8291 2f990 1 828b 2f991 1 829d 2f992 1 52b3 2f993 1 82b1 2f994 1 82b3 2f995 1 82bd
      2f996 1 82e6 2f997 1 26b3c 2f998 1 82e5 2f999 1 831d 2f99a 1 8363 2f99b 1 83ad 2f99c 1
      8323 2f99d 1 83bd 2f99e 1 83e7 2f99f 1 8457 2f9a0 1 8353 2f9a1 1 83ca 2f9a2 1 83cc 2f9a3 1
      83dc 2f9a4 1 26c36 2f9a5 1 26d6b 2f9a6 1 26cd5 2f9a7 1 452b 2f9a8 1 84f1 2f9a9 1 84f3
      2f9aa 1 8516 2f9ab 1 273ca 2f9ac 1 8564 2f9ad 1 26f2c 2f9ae 1 455d 2f9af 1 4561 2f9b0 1
      26fb1 2f9b1 1 270d2 2f9b2 1 456b 2f9b3 1 8650 2f9b4 1 865c 2f9b5 1 8667 2f9b6 1 8669 2f9b7
      1 86a9 2f9b8 1 8688 2f9b9 1 870e 2f9ba 1 86e2 2f9bb 1 8779 2f9bc 1 8728 2f9bd 1 876b 2f9be
      1 8786 2f9bf 1 45d7 2f9c0 1 87e1 2f9c1 1 8801 2f9c2 1 45f9 2f9c3 1 8860 2f9c4 1 8863 2f9c5
      1 27667 2f9c6 1 88d7 2f9c7 1 88de 2f9c8 1 4635 2f9c9 1 88fa 2f9ca 1 34bb 2f9cb 1 278ae
      2f9cc 1 27966 2f9cd 1 46be 2f9ce 1 46c7 2f9cf 1 8aa0 2f9d0 1 8aed 2f9d1 1 8b8a 2f9d2 1
      8c55 2f9d3 1 27ca8 2f9d4 1 8cab 2f9d5 1 8cc1 2f9d6 1 8d1b 2f9d7 1 8d77 2f9d8 1 27f2f 2f9d9
      1 20804 2f9da 1 8dcb 2f9db 1 8dbc 2f9dc 1 8df0 2f9dd 1 208de 2f9de 1 8ed4 2f9df 1 8f38
      2f9e0 1 285d2 2f9e1 1 285ed 2f9e2 1 9094 2f9e3 1 90f1 2f9e4 1 9111 2f9e5 1 2872e 2f9e6 1
      911b 2f9e7 1 9238 2f9e8 1 92d7 2f9e9 1 92d8 2f9ea 1 927c 2f9eb 1 93f9 2f9ec 1 9415 2f9ed 1
      28bfa 2f9ee 1 958b 2f9ef 1 4995 2f9f0 1 95b7 2f9f1 1 28d77 2f9f2 1 49e6 2f9f3 1 96c3 2f9f4
      1 5db2 2f9f5 1 9723 2f9f6 1 29145 2f9f7 1 2921a 2f9f8 1 4a6e 2f9f9 1 4a76 2f9fa 1 97e0
      2f9fb 1 2940a 2f9fc 1 4ab2 2f9fd 1 29496 2f9fe 1 980b 2f9ff 1 980b 2fa00 1 9829 2fa01 1
      295b6 2fa02 1 98e2 2fa03 1 4b33 2fa04 1 9929 2fa05 1 99a7 2fa06 1 99c2 2fa07 1 99fe 2fa08
      1 4bce 2fa09 1 29b30 2fa0a 1 9b12 2fa0b 1 9c40 2fa0c 1 9cfd 2fa0d 1 4cce 2fa0e 1 4ced
      2fa0f 1 9d67 2fa10 1 2a0ce 2fa11 1 4cf8 2fa12 1 2a105 2fa13 1 2a20e 2fa14 1 2a291 2fa15 1
      9ebb 2fa16 1 4d56 2fa17 1 9ef9 2fa18 1 9efe 2fa19 1 9f05 2fa1a 1 9f0f 2fa1b 1 9f16 2fa1c 1
      9f3b 2fa1d 1 2a600"
  )).toArray⟩

/-- The key of a pair of code points. -/
def pairKey (a b : Nat) : Nat := a * 0x110000 + b

/-- The primary composites, keyed by the pair they decompose to. -/
def compositions : KeyTable Nat :=
  ⟨((triplesOf (hexNumbers
    "3c 338 226e 3d 338 2260 3e 338 226f 41 300 c0 41 301 c1 41 302 c2 41 303 c3 41 304 100 41
      306 102 41 307 226 41 308 c4 41 309 1ea2 41 30a c5 41 30c 1cd 41 30f 200 41 311 202 41 323
      1ea0 41 325 1e00 41 328 104 42 307 1e02 42 323 1e04 42 331 1e06 43 301 106 43 302 108 43
      307 10a 43 30c 10c 43 327 c7 44 307 1e0a 44 30c 10e 44 323 1e0c 44 327 1e10 44 32d 1e12 44
      331 1e0e 45 300 c8 45 301 c9 45 302 ca 45 303 1ebc 45 304 112 45 306 114 45 307 116 45 308
      cb 45 309 1eba 45 30c 11a 45 30f 204 45 311 206 45 323 1eb8 45 327 228 45 328 118 45 32d
      1e18 45 330 1e1a 46 307 1e1e 47 301 1f4 47 302 11c 47 304 1e20 47 306 11e 47 307 120 47
      30c 1e6 47 327 122 48 302 124 48 307 1e22 48 308 1e26 48 30c 21e 48 323 1e24 48 327 1e28
      48 32e 1e2a 49 300 cc 49 301 cd 49 302 ce 49 303 128 49 304 12a 49 306 12c 49 307 130 49
      308 cf 49 309 1ec8 49 30c 1cf 49 30f 208 49 311 20a 49 323 1eca 49 328 12e 49 330 1e2c 4a
      302 134 4b 301 1e30 4b 30c 1e8 4b 323 1e32 4b 327 136 4b 331 1e34 4c 301 139 4c 30c 13d 4c
      323 1e36 4c 327 13b 4c 32d 1e3c 4c 331 1e3a 4d 301 1e3e 4d 307 1e40 4d 323 1e42 4e 300 1f8
      4e 301 143 4e 303 d1 4e 307 1e44 4e 30c 147 4e 323 1e46 4e 327 145 4e 32d 1e4a 4e 331 1e48
      4f 300 d2 4f 301 d3 4f 302 d4 4f 303 d5 4f 304 14c 4f 306 14e 4f 307 22e 4f 308 d6 4f 309
      1ece 4f 30b 150 4f 30c 1d1 4f 30f 20c 4f 311 20e 4f 31b 1a0 4f 323 1ecc 4f 328 1ea 50 301
      1e54 50 307 1e56 52 301 154 52 307 1e58 52 30c 158 52 30f 210 52 311 212 52 323 1e5a 52
      327 156 52 331 1e5e 53 301 15a 53 302 15c 53 307 1e60 53 30c 160 53 323 1e62 53 326 218 53
      327 15e 54 307 1e6a 54 30c 164 54 323 1e6c 54 326 21a 54 327 162 54 32d 1e70 54 331 1e6e
      55 300 d9 55 301 da 55 302 db 55 303 168 55 304 16a 55 306 16c 55 308 dc 55 309 1ee6 55
      30a 16e 55 30b 170 55 30c 1d3 55 30f 214 55 311 216 55 31b 1af 55 323 1ee4 55 324 1e72 55
      328 172 55 32d 1e76 55 330 1e74 56 303 1e7c 56 323 1e7e 57 300 1e80 57 301 1e82 57 302 174
      57 307 1e86 57 308 1e84 57 323 1e88 58 307 1e8a 58 308 1e8c 59 300 1ef2 59 301 dd 59 302
      176 59 303 1ef8 59 304 232 59 307 1e8e 59 308 178 59 309 1ef6 59 323 1ef4 5a 301 179 5a
      302 1e90 5a 307 17b 5a 30c 17d 5a 323 1e92 5a 331 1e94 61 300 e0 61 301 e1 61 302 e2 61
      303 e3 61 304 101 61 306 103 61 307 227 61 308 e4 61 309 1ea3 61 30a e5 61 30c 1ce 61 30f
      201 61 311 203 61 323 1ea1 61 325 1e01 61 328 105 62 307 1e03 62 323 1e05 62 331 1e07 63
      301 107 63 302 109 63 307 10b 63 30c 10d 63 327 e7 64 307 1e0b 64 30c 10f 64 323 1e0d 64
      327 1e11 64 32d 1e13 64 331 1e0f 65 300 e8 65 301 e9 65 302 ea 65 303 1ebd 65 304 113 65
      306 115 65 307 117 65 308 eb 65 309 1ebb 65 30c 11b 65 30f 205 65 311 207 65 323 1eb9 65
      327 229 65 328 119 65 32d 1e19 65 330 1e1b 66 307 1e1f 67 301 1f5 67 302 11d 67 304 1e21
      67 306 11f 67 307 121 67 30c 1e7 67 327 123 68 302 125 68 307 1e23 68 308 1e27 68 30c 21f
      68 323 1e25 68 327 1e29 68 32e 1e2b 68 331 1e96 69 300 ec 69 301 ed 69 302 ee 69 303 129
      69 304 12b 69 306 12d 69 308 ef 69 309 1ec9 69 30c 1d0 69 30f 209 69 311 20b 69 323 1ecb
      69 328 12f 69 330 1e2d 6a 302 135 6a 30c 1f0 6b 301 1e31 6b 30c 1e9 6b 323 1e33 6b 327 137
      6b 331 1e35 6c 301 13a 6c 30c 13e 6c 323 1e37 6c 327 13c 6c 32d 1e3d 6c 331 1e3b 6d 301
      1e3f 6d 307 1e41 6d 323 1e43 6e 300 1f9 6e 301 144 6e 303 f1 6e 307 1e45 6e 30c 148 6e 323
      1e47 6e 327 146 6e 32d 1e4b 6e 331 1e49 6f 300 f2 6f 301 f3 6f 302 f4 6f 303 f5 6f 304 14d
      6f 306 14f 6f 307 22f 6f 308 f6 6f 309 1ecf 6f 30b 151 6f 30c 1d2 6f 30f 20d 6f 311 20f 6f
      31b 1a1 6f 323 1ecd 6f 328 1eb 70 301 1e55 70 307 1e57 72 301 155 72 307 1e59 72 30c 159
      72 30f 211 72 311 213 72 323 1e5b 72 327 157 72 331 1e5f 73 301 15b 73 302 15d 73 307 1e61
      73 30c 161 73 323 1e63 73 326 219 73 327 15f 74 307 1e6b 74 308 1e97 74 30c 165 74 323
      1e6d 74 326 21b 74 327 163 74 32d 1e71 74 331 1e6f 75 300 f9 75 301 fa 75 302 fb 75 303
      169 75 304 16b 75 306 16d 75 308 fc 75 309 1ee7 75 30a 16f 75 30b 171 75 30c 1d4 75 30f
      215 75 311 217 75 31b 1b0 75 323 1ee5 75 324 1e73 75 328 173 75 32d 1e77 75 330 1e75 76
      303 1e7d 76 323 1e7f 77 300 1e81 77 301 1e83 77 302 175 77 307 1e87 77 308 1e85 77 30a
      1e98 77 323 1e89 78 307 1e8b 78 308 1e8d 79 300 1ef3 79 301 fd 79 302 177 79 303 1ef9 79
      304 233 79 307 1e8f 79 308 ff 79 309 1ef7 79 30a 1e99 79 323 1ef5 7a 301 17a 7a 302 1e91
      7a 307 17c 7a 30c 17e 7a 323 1e93 7a 331 1e95 a8 300 1fed a8 301 385 a8 342 1fc1 c2 300
      1ea6 c2 301 1ea4 c2 303 1eaa c2 309 1ea8 c4 304 1de c5 301 1fa c6 301 1fc c6 304 1e2 c7
      301 1e08 ca 300 1ec0 ca 301 1ebe ca 303 1ec4 ca 309 1ec2 cf 301 1e2e d4 300 1ed2 d4 301
      1ed0 d4 303 1ed6 d4 309 1ed4 d5 301 1e4c d5 304 22c d5 308 1e4e d6 304 22a d8 301 1fe dc
      300 1db dc 301 1d7 dc 304 1d5 dc 30c 1d9 e2 300 1ea7 e2 301 1ea5 e2 303 1eab e2 309 1ea9
      e4 304 1df e5 301 1fb e6 301 1fd e6 304 1e3 e7 301 1e09 ea 300 1ec1 ea 301 1ebf ea 303
      1ec5 ea 309 1ec3 ef 301 1e2f f4 300 1ed3 f4 301 1ed1 f4 303 1ed7 f4 309 1ed5 f5 301 1e4d
      f5 304 22d f5 308 1e4f f6 304 22b f8 301 1ff fc 300 1dc fc 301 1d8 fc 304 1d6 fc 30c 1da
      102 300 1eb0 102 301 1eae 102 303 1eb4 102 309 1eb2 103 300 1eb1 103 301 1eaf 103 303 1eb5
      103 309 1eb3 112 300 1e14 112 301 1e16 113 300 1e15 113 301 1e17 14c 300 1e50 14c 301 1e52
      14d 300 1e51 14d 301 1e53 15a 307 1e64 15b 307 1e65 160 307 1e66 161 307 1e67 168 301 1e78
      169 301 1e79 16a 308 1e7a 16b 308 1e7b 17f 307 1e9b 1a0 300 1edc 1a0 301 1eda 1a0 303 1ee0
      1a0 309 1ede 1a0 323 1ee2 1a1 300 1edd 1a1 301 1edb 1a1 303 1ee1 1a1 309 1edf 1a1 323 1ee3
      1af 300 1eea 1af 301 1ee8 1af 303 1eee 1af 309 1eec 1af 323 1ef0 1b0 300 1eeb 1b0 301 1ee9
      1b0 303 1eef 1b0 309 1eed 1b0 323 1ef1 1b7 30c 1ee 1ea 304 1ec 1eb 304 1ed 226 304 1e0 227
      304 1e1 228 306 1e1c 229 306 1e1d 22e 304 230 22f 304 231 292 30c 1ef 391 300 1fba 391 301
      386 391 304 1fb9 391 306 1fb8 391 313 1f08 391 314 1f09 391 345 1fbc 395 300 1fc8 395 301
      388 395 313 1f18 395 314 1f19 397 300 1fca 397 301 389 397 313 1f28 397 314 1f29 397 345
      1fcc 399 300 1fda 399 301 38a 399 304 1fd9 399 306 1fd8 399 308 3aa 399 313 1f38 399 314
      1f39 39f 300 1ff8 39f 301 38c 39f 313 1f48 39f 314 1f49 3a1 314 1fec 3a5 300 1fea 3a5 301
      38e 3a5 304 1fe9 3a5 306 1fe8 3a5 308 3ab 3a5 314 1f59 3a9 300 1ffa 3a9 301 38f 3a9 313
      1f68 3a9 314 1f69 3a9 345 1ffc 3ac 345 1fb4 3ae 345 1fc4 3b1 300 1f70 3b1 301 3ac 3b1 304
      1fb1 3b1 306 1fb0 3b1 313 1f00 3b1 314 1f01 3b1 342 1fb6 3b1 345 1fb3 3b5 300 1f72 3b5 301
      3ad 3b5 313 1f10 3b5 314 1f11 3b7 300 1f74 3b7 301 3ae 3b7 313 1f20 3b7 314 1f21 3b7 342
      1fc6 3b7 345 1fc3 3b9 300 1f76 3b9 301 3af 3b9 304 1fd1 3b9 306 1fd0 3b9 308 3ca 3b9 313
      1f30 3b9 314 1f31 3b9 342 1fd6 3bf 300 1f78 3bf 301 3cc 3bf 313 1f40 3bf 314 1f41 3c1 313
      1fe4 3c1 314 1fe5 3c5 300 1f7a 3c5 301 3cd 3c5 304 1fe1 3c5 306 1fe0 3c5 308 3cb 3c5 313
      1f50 3c5 314 1f51 3c5 342 1fe6 3c9 300 1f7c 3c9 301 3ce 3c9 313 1f60 3c9 314 1f61 3c9 342
      1ff6 3c9 345 1ff3 3ca 300 1fd2 3ca 301 390 3ca 342 1fd7 3cb 300 1fe2 3cb 301 3b0 3cb 342
      1fe7 3ce 345 1ff4 3d2 301 3d3 3d2 308 3d4 406 308 407 410 306 4d0 410 308 4d2 413 301 403
      415 300 400 415 306 4d6 415 308 401 416 306 4c1 416 308 4dc 417 308 4de 418 300 40d 418
      304 4e2 418 306 419 418 308 4e4 41a 301 40c 41e 308 4e6 423 304 4ee 423 306 40e 423 308
      4f0 423 30b 4f2 427 308 4f4 42b 308 4f8 42d 308 4ec 430 306 4d1 430 308 4d3 433 301 453
      435 300 450 435 306 4d7 435 308 451 436 306 4c2 436 308 4dd 437 308 4df 438 300 45d 438
      304 4e3 438 306 439 438 308 4e5 43a 301 45c 43e 308 4e7 443 304 4ef 443 306 45e 443 308
      4f1 443 30b 4f3 447 308 4f5 44b 308 4f9 44d 308 4ed 456 308 457 474 30f 476 475 30f 477
      4d8 308 4da 4d9 308 4db 4e8 308 4ea 4e9 308 4eb 627 653 622 627 654 623 627 655 625 648
      654 624 64a 654 626 6c1 654 6c2 6d2 654 6d3 6d5 654 6c0 928 93c 929 930 93c 931 933 93c
      934 9c7 9be 9cb 9c7 9d7 9cc b47 b3e b4b b47 b56 b48 b47 b57 b4c b92 bd7 b94 bc6 bbe bca
      bc6 bd7 bcc bc7 bbe bcb c46 c56 c48 cbf cd5 cc0 cc6 cc2 cca cc6 cd5 cc7 cc6 cd6 cc8 cca
      cd5 ccb d46 d3e d4a d46 d57 d4c d47 d3e d4b dd9 dca dda dd9 dcf ddc dd9 ddf dde ddc dca
      ddd 1025 102e 1026 1b05 1b35 1b06 1b07 1b35 1b08 1b09 1b35 1b0a 1b0b 1b35 1b0c 1b0d 1b35
      1b0e 1b11 1b35 1b12 1b3a 1b35 1b3b 1b3c 1b35 1b3d 1b3e 1b35 1b40 1b3f 1b35 1b41 1b42 1b35
      1b43 1e36 304 1e38 1e37 304 1e39 1e5a 304 1e5c 1e5b 304 1e5d 1e62 307 1e68 1e63 307 1e69
      1ea0 302 1eac 1ea0 306 1eb6 1ea1 302 1ead 1ea1 306 1eb7 1eb8 302 1ec6 1eb9 302 1ec7 1ecc
      302 1ed8 1ecd 302 1ed9 1f00 300 1f02 1f00 301 1f04 1f00 342 1f06 1f00 345 1f80 1f01 300
      1f03 1f01 301 1f05 1f01 342 1f07 1f01 345 1f81 1f02 345 1f82 1f03 345 1f83 1f04 345 1f84
      1f05 345 1f85 1f06 345 1f86 1f07 345 1f87 1f08 300 1f0a 1f08 301 1f0c 1f08 342 1f0e 1f08
      345 1f88 1f09 300 1f0b 1f09 301 1f0d 1f09 342 1f0f 1f09 345 1f89 1f0a 345 1f8a 1f0b 345
      1f8b 1f0c 345 1f8c 1f0d 345 1f8d 1f0e 345 1f8e 1f0f 345 1f8f 1f10 300 1f12 1f10 301 1f14
      1f11 300 1f13 1f11 301 1f15 1f18 300 1f1a 1f18 301 1f1c 1f19 300 1f1b 1f19 301 1f1d 1f20
      300 1f22 1f20 301 1f24 1f20 342 1f26 1f20 345 1f90 1f21 300 1f23 1f21 301 1f25 1f21 342
      1f27 1f21 345 1f91 1f22 345 1f92 1f23 345 1f93 1f24 345 1f94 1f25 345 1f95 1f26 345 1f96
      1f27 345 1f97 1f28 300 1f2a 1f28 301 1f2c 1f28 342 1f2e 1f28 345 1f98 1f29 300 1f2b 1f29
      301 1f2d 1f29 342 1f2f 1f29 345 1f99 1f2a 345 1f9a 1f2b 345 1f9b 1f2c 345 1f9c 1f2d 345
      1f9d 1f2e 345 1f9e 1f2f 345 1f9f 1f30 300 1f32 1f30 301 1f34 1f30 342 1f36 1f31 300 1f33
      1f31 301 1f35 1f31 342 1f37 1f38 300 1f3a 1f38 301 1f3c 1f38 342 1f3e 1f39 300 1f3b 1f39
      301 1f3d 1f39 342 1f3f 1f40 300 1f42 1f40 301 1f44 1f41 300 1f43 1f41 301 1f45 1f48 300
      1f4a 1f48 301 1f4c 1f49 300 1f4b 1f49 301 1f4d 1f50 300 1f52 1f50 301 1f54 1f50 342 1f56
      1f51 300 1f53 1f51 301 1f55 1f51 342 1f57 1f59 300 1f5b 1f59 301 1f5d 1f59 342 1f5f 1f60
      300 1f62 1f60 301 1f64 1f60 342 1f66 1f60 345 1fa0 1f61 300 1f63 1f61 301 1f65 1f61 342
      1f67 1f61 345 1fa1 1f62 345 1fa2 1f63 345 1fa3 1f64 345 1fa4 1f65 345 1fa5 1f66 345 1fa6
      1f67 345 1fa7 1f68 300 1f6a 1f68 301 1f6c 1f68 342 1f6e 1f68 345 1fa8 1f69 300 1f6b 1f69
      301 1f6d 1f69 342 1f6f 1f69 345 1fa9 1f6a 345 1faa 1f6b 345 1fab 1f6c 345 1fac 1f6d 345
      1fad 1f6e 345 1fae 1f6f 345 1faf 1f70 345 1fb2 1f74 345 1fc2 1f7c 345 1ff2 1fb6 345 1fb7
      1fbf 300 1fcd 1fbf 301 1fce 1fbf 342 1fcf 1fc6 345 1fc7 1ff6 345 1ff7 1ffe 300 1fdd 1ffe
      301 1fde 1ffe 342 1fdf 2190 338 219a 2192 338 219b 2194 338 21ae 21d0 338 21cd 21d2 338
      21cf 21d4 338 21ce 2203 338 2204 2208 338 2209 220b 338 220c 2223 338 2224 2225 338 2226
      223c 338 2241 2243 338 2244 2245 338 2247 2248 338 2249 224d 338 226d 2261 338 2262 2264
      338 2270 2265 338 2271 2272 338 2274 2273 338 2275 2276 338 2278 2277 338 2279 227a 338
      2280 227b 338 2281 227c 338 22e0 227d 338 22e1 2282 338 2284 2283 338 2285 2286 338 2288
      2287 338 2289 2291 338 22e2 2292 338 22e3 22a2 338 22ac 22a8 338 22ad 22a9 338 22ae 22ab
      338 22af 22b2 338 22ea 22b3 338 22eb 22b4 338 22ec 22b5 338 22ed 3046 3099 3094 304b 3099
      304c 304d 3099 304e 304f 3099 3050 3051 3099 3052 3053 3099 3054 3055 3099 3056 3057 3099
      3058 3059 3099 305a 305b 3099 305c 305d 3099 305e 305f 3099 3060 3061 3099 3062 3064 3099
      3065 3066 3099 3067 3068 3099 3069 306f 3099 3070 306f 309a 3071 3072 3099 3073 3072 309a
      3074 3075 3099 3076 3075 309a 3077 3078 3099 3079 3078 309a 307a 307b 3099 307c 307b 309a
      307d 309d 3099 309e 30a6 3099 30f4 30ab 3099 30ac 30ad 3099 30ae 30af 3099 30b0 30b1 3099
      30b2 30b3 3099 30b4 30b5 3099 30b6 30b7 3099 30b8 30b9 3099 30ba 30bb 3099 30bc 30bd 3099
      30be 30bf 3099 30c0 30c1 3099 30c2 30c4 3099 30c5 30c6 3099 30c7 30c8 3099 30c9 30cf 3099
      30d0 30cf 309a 30d1 30d2 3099 30d3 30d2 309a 30d4 30d5 3099 30d6 30d5 309a 30d7 30d8 3099
      30d9 30d8 309a 30da 30db 3099 30dc 30db 309a 30dd 30ef 3099 30f7 30f0 3099 30f8 30f1 3099
      30f9 30f2 3099 30fa 30fd 3099 30fe 105d2 307 105c9 105da 307 105e4 11099 110ba 1109a 1109b
      110ba 1109c 110a5 110ba 110ab 11131 11127 1112e 11132 11127 1112f 11347 1133e 1134b 11347
      11357 1134c 11382 113c9 11383 11384 113bb 11385 1138b 113c2 1138e 11390 113c9 11391 113c2
      113b8 113c7 113c2 113c2 113c5 113c2 113c9 113c8 114b9 114b0 114bc 114b9 114ba 114bb 114b9
      114bd 114be 115b8 115af 115ba 115b9 115af 115bb 11935 11930 11938 1611e 1611e 16121 1611e
      1611f 16123 1611e 16120 16125 1611e 16129 16122 16121 1611f 16126 16121 16120 16128 16122
      1611f 16127 16129 1611f 16124 16d63 16d67 16d69 16d67 16d67 16d68 16d69 16d67 16d6a"
  )).map fun (a, b, c) => (pairKey a b, c)).toArray⟩

/-- The canonical combining class of a code point. -/
def combiningClass (n : Nat) : Nat := combiningClasses.get n

end CiClient.Text.Unicode
