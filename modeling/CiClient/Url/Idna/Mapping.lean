import CiClient.Text.Unicode.Table
/-!
# The IDNA mapping table

Every code point has a status for international domain names (Unicode IDNA Compatibility
Processing, version 17): it is valid; mapped to a text (upper case to lower case, compatibility
forms to what they stand for); a deviation, which this processing keeps as it is (`ß`, final
sigma, the zero width joiner and non-joiner); ignored, so dropped; or disallowed.

The table is that of version 17 with one code point that a later version assigns: U+0558, an
Armenian letter mapped to `ե` U+0567.

The table is written as runs: the first code point of a run, its status as a number (0 valid,
1 mapped, 2 deviation, 3 ignored, 4 disallowed), and for a mapped run of one code point the
length and code points of its mapping.
-/

namespace CiClient.Url

open CiClient.Text.Unicode

/-- The status of a code point in a domain name. -/
inductive IdnaStatus where
  | valid
  | mapped (replacement : List Char)
  | deviation
  | ignored
  | disallowed
  deriving DecidableEq, Repr

/-- The status written as its number in the table, for statuses without a mapping. -/
def IdnaStatus.ofCode : Nat → IdnaStatus
  | 0 => .valid
  | 2 => .deviation
  | 3 => .ignored
  | _ => .disallowed

/-- The runs of a table text: a mapped run carries its mapping after its status. -/
def idnaRunsOf : List Nat → List (Nat × IdnaStatus)
  | start :: 1 :: len :: rest =>
    (start, .mapped ((rest.take len).map Char.ofNat)) :: idnaRunsOf (rest.drop len)
  | start :: code :: rest => (start, IdnaStatus.ofCode code) :: idnaRunsOf rest
  | _ => []
termination_by xs => xs.length
decreasing_by all_goals simp only [List.length_cons, List.length_drop]; omega

/-- The IDNA statuses, as runs. -/
def idnaStatuses : RunTable IdnaStatus :=
  ⟨(idnaRunsOf (hexNumbers
    "0 0 41 1 1 61 42 1 1 62 43 1 1 63 44 1 1 64 45 1 1 65 46 1 1 66 47 1 1 67 48 1 1 68 49 1 1
      69 4a 1 1 6a 4b 1 1 6b 4c 1 1 6c 4d 1 1 6d 4e 1 1 6e 4f 1 1 6f 50 1 1 70 51 1 1 71 52 1 1
      72 53 1 1 73 54 1 1 74 55 1 1 75 56 1 1 76 57 1 1 77 58 1 1 78 59 1 1 79 5a 1 1 7a 5b 0 80
      4 a0 1 1 20 a1 0 a8 1 2 20 308 a9 0 aa 1 1 61 ab 0 ad 3 ae 0 af 1 2 20 304 b0 0 b2 1 1 32
      b3 1 1 33 b4 1 2 20 301 b5 1 1 3bc b6 0 b8 1 2 20 327 b9 1 1 31 ba 1 1 6f bb 0 bc 1 3 31
      2044 34 bd 1 3 31 2044 32 be 1 3 33 2044 34 bf 0 c0 1 1 e0 c1 1 1 e1 c2 1 1 e2 c3 1 1 e3
      c4 1 1 e4 c5 1 1 e5 c6 1 1 e6 c7 1 1 e7 c8 1 1 e8 c9 1 1 e9 ca 1 1 ea cb 1 1 eb cc 1 1 ec
      cd 1 1 ed ce 1 1 ee cf 1 1 ef d0 1 1 f0 d1 1 1 f1 d2 1 1 f2 d3 1 1 f3 d4 1 1 f4 d5 1 1 f5
      d6 1 1 f6 d7 0 d8 1 1 f8 d9 1 1 f9 da 1 1 fa db 1 1 fb dc 1 1 fc dd 1 1 fd de 1 1 fe df 2
      e0 0 100 1 1 101 101 0 102 1 1 103 103 0 104 1 1 105 105 0 106 1 1 107 107 0 108 1 1 109
      109 0 10a 1 1 10b 10b 0 10c 1 1 10d 10d 0 10e 1 1 10f 10f 0 110 1 1 111 111 0 112 1 1 113
      113 0 114 1 1 115 115 0 116 1 1 117 117 0 118 1 1 119 119 0 11a 1 1 11b 11b 0 11c 1 1 11d
      11d 0 11e 1 1 11f 11f 0 120 1 1 121 121 0 122 1 1 123 123 0 124 1 1 125 125 0 126 1 1 127
      127 0 128 1 1 129 129 0 12a 1 1 12b 12b 0 12c 1 1 12d 12d 0 12e 1 1 12f 12f 0 130 1 2 69
      307 131 0 132 1 2 69 6a 134 1 1 135 135 0 136 1 1 137 137 0 139 1 1 13a 13a 0 13b 1 1 13c
      13c 0 13d 1 1 13e 13e 0 13f 1 2 6c b7 141 1 1 142 142 0 143 1 1 144 144 0 145 1 1 146 146
      0 147 1 1 148 148 0 149 1 2 2bc 6e 14a 1 1 14b 14b 0 14c 1 1 14d 14d 0 14e 1 1 14f 14f 0
      150 1 1 151 151 0 152 1 1 153 153 0 154 1 1 155 155 0 156 1 1 157 157 0 158 1 1 159 159 0
      15a 1 1 15b 15b 0 15c 1 1 15d 15d 0 15e 1 1 15f 15f 0 160 1 1 161 161 0 162 1 1 163 163 0
      164 1 1 165 165 0 166 1 1 167 167 0 168 1 1 169 169 0 16a 1 1 16b 16b 0 16c 1 1 16d 16d 0
      16e 1 1 16f 16f 0 170 1 1 171 171 0 172 1 1 173 173 0 174 1 1 175 175 0 176 1 1 177 177 0
      178 1 1 ff 179 1 1 17a 17a 0 17b 1 1 17c 17c 0 17d 1 1 17e 17e 0 17f 1 1 73 180 0 181 1 1
      253 182 1 1 183 183 0 184 1 1 185 185 0 186 1 1 254 187 1 1 188 188 0 189 1 1 256 18a 1 1
      257 18b 1 1 18c 18c 0 18e 1 1 1dd 18f 1 1 259 190 1 1 25b 191 1 1 192 192 0 193 1 1 260
      194 1 1 263 195 0 196 1 1 269 197 1 1 268 198 1 1 199 199 0 19c 1 1 26f 19d 1 1 272 19e 0
      19f 1 1 275 1a0 1 1 1a1 1a1 0 1a2 1 1 1a3 1a3 0 1a4 1 1 1a5 1a5 0 1a6 1 1 280 1a7 1 1 1a8
      1a8 0 1a9 1 1 283 1aa 0 1ac 1 1 1ad 1ad 0 1ae 1 1 288 1af 1 1 1b0 1b0 0 1b1 1 1 28a 1b2 1
      1 28b 1b3 1 1 1b4 1b4 0 1b5 1 1 1b6 1b6 0 1b7 1 1 292 1b8 1 1 1b9 1b9 0 1bc 1 1 1bd 1bd 0
      1c4 1 2 64 17e 1c7 1 2 6c 6a 1ca 1 2 6e 6a 1cd 1 1 1ce 1ce 0 1cf 1 1 1d0 1d0 0 1d1 1 1 1d2
      1d2 0 1d3 1 1 1d4 1d4 0 1d5 1 1 1d6 1d6 0 1d7 1 1 1d8 1d8 0 1d9 1 1 1da 1da 0 1db 1 1 1dc
      1dc 0 1de 1 1 1df 1df 0 1e0 1 1 1e1 1e1 0 1e2 1 1 1e3 1e3 0 1e4 1 1 1e5 1e5 0 1e6 1 1 1e7
      1e7 0 1e8 1 1 1e9 1e9 0 1ea 1 1 1eb 1eb 0 1ec 1 1 1ed 1ed 0 1ee 1 1 1ef 1ef 0 1f1 1 2 64
      7a 1f4 1 1 1f5 1f5 0 1f6 1 1 195 1f7 1 1 1bf 1f8 1 1 1f9 1f9 0 1fa 1 1 1fb 1fb 0 1fc 1 1
      1fd 1fd 0 1fe 1 1 1ff 1ff 0 200 1 1 201 201 0 202 1 1 203 203 0 204 1 1 205 205 0 206 1 1
      207 207 0 208 1 1 209 209 0 20a 1 1 20b 20b 0 20c 1 1 20d 20d 0 20e 1 1 20f 20f 0 210 1 1
      211 211 0 212 1 1 213 213 0 214 1 1 215 215 0 216 1 1 217 217 0 218 1 1 219 219 0 21a 1 1
      21b 21b 0 21c 1 1 21d 21d 0 21e 1 1 21f 21f 0 220 1 1 19e 221 0 222 1 1 223 223 0 224 1 1
      225 225 0 226 1 1 227 227 0 228 1 1 229 229 0 22a 1 1 22b 22b 0 22c 1 1 22d 22d 0 22e 1 1
      22f 22f 0 230 1 1 231 231 0 232 1 1 233 233 0 23a 1 1 2c65 23b 1 1 23c 23c 0 23d 1 1 19a
      23e 1 1 2c66 23f 0 241 1 1 242 242 0 243 1 1 180 244 1 1 289 245 1 1 28c 246 1 1 247 247 0
      248 1 1 249 249 0 24a 1 1 24b 24b 0 24c 1 1 24d 24d 0 24e 1 1 24f 24f 0 2b0 1 1 68 2b1 1 1
      266 2b2 1 1 6a 2b3 1 1 72 2b4 1 1 279 2b5 1 1 27b 2b6 1 1 281 2b7 1 1 77 2b8 1 1 79 2b9 0
      2d8 1 2 20 306 2d9 1 2 20 307 2da 1 2 20 30a 2db 1 2 20 328 2dc 1 2 20 303 2dd 1 2 20 30b
      2de 0 2e0 1 1 263 2e1 1 1 6c 2e2 1 1 73 2e3 1 1 78 2e4 1 1 295 2e5 0 340 1 1 300 341 1 1
      301 342 0 343 1 1 313 344 1 2 308 301 345 1 1 3b9 346 0 34f 3 350 0 370 1 1 371 371 0 372
      1 1 373 373 0 374 1 1 2b9 375 0 376 1 1 377 377 0 378 4 37a 1 2 20 3b9 37b 0 37e 1 1 3b
      37f 1 1 3f3 380 4 384 1 2 20 301 385 1 3 20 308 301 386 1 1 3ac 387 1 1 b7 388 1 1 3ad 389
      1 1 3ae 38a 1 1 3af 38b 4 38c 1 1 3cc 38d 4 38e 1 1 3cd 38f 1 1 3ce 390 0 391 1 1 3b1 392
      1 1 3b2 393 1 1 3b3 394 1 1 3b4 395 1 1 3b5 396 1 1 3b6 397 1 1 3b7 398 1 1 3b8 399 1 1
      3b9 39a 1 1 3ba 39b 1 1 3bb 39c 1 1 3bc 39d 1 1 3bd 39e 1 1 3be 39f 1 1 3bf 3a0 1 1 3c0
      3a1 1 1 3c1 3a2 4 3a3 1 1 3c3 3a4 1 1 3c4 3a5 1 1 3c5 3a6 1 1 3c6 3a7 1 1 3c7 3a8 1 1 3c8
      3a9 1 1 3c9 3aa 1 1 3ca 3ab 1 1 3cb 3ac 0 3c2 2 3c3 0 3cf 1 1 3d7 3d0 1 1 3b2 3d1 1 1 3b8
      3d2 1 1 3c5 3d3 1 1 3cd 3d4 1 1 3cb 3d5 1 1 3c6 3d6 1 1 3c0 3d7 0 3d8 1 1 3d9 3d9 0 3da 1
      1 3db 3db 0 3dc 1 1 3dd 3dd 0 3de 1 1 3df 3df 0 3e0 1 1 3e1 3e1 0 3e2 1 1 3e3 3e3 0 3e4 1
      1 3e5 3e5 0 3e6 1 1 3e7 3e7 0 3e8 1 1 3e9 3e9 0 3ea 1 1 3eb 3eb 0 3ec 1 1 3ed 3ed 0 3ee 1
      1 3ef 3ef 0 3f0 1 1 3ba 3f1 1 1 3c1 3f2 1 1 3c3 3f3 0 3f4 1 1 3b8 3f5 1 1 3b5 3f6 0 3f7 1
      1 3f8 3f8 0 3f9 1 1 3c3 3fa 1 1 3fb 3fb 0 3fd 1 1 37b 3fe 1 1 37c 3ff 1 1 37d 400 1 1 450
      401 1 1 451 402 1 1 452 403 1 1 453 404 1 1 454 405 1 1 455 406 1 1 456 407 1 1 457 408 1
      1 458 409 1 1 459 40a 1 1 45a 40b 1 1 45b 40c 1 1 45c 40d 1 1 45d 40e 1 1 45e 40f 1 1 45f
      410 1 1 430 411 1 1 431 412 1 1 432 413 1 1 433 414 1 1 434 415 1 1 435 416 1 1 436 417 1
      1 437 418 1 1 438 419 1 1 439 41a 1 1 43a 41b 1 1 43b 41c 1 1 43c 41d 1 1 43d 41e 1 1 43e
      41f 1 1 43f 420 1 1 440 421 1 1 441 422 1 1 442 423 1 1 443 424 1 1 444 425 1 1 445 426 1
      1 446 427 1 1 447 428 1 1 448 429 1 1 449 42a 1 1 44a 42b 1 1 44b 42c 1 1 44c 42d 1 1 44d
      42e 1 1 44e 42f 1 1 44f 430 0 460 1 1 461 461 0 462 1 1 463 463 0 464 1 1 465 465 0 466 1
      1 467 467 0 468 1 1 469 469 0 46a 1 1 46b 46b 0 46c 1 1 46d 46d 0 46e 1 1 46f 46f 0 470 1
      1 471 471 0 472 1 1 473 473 0 474 1 1 475 475 0 476 1 1 477 477 0 478 1 1 479 479 0 47a 1
      1 47b 47b 0 47c 1 1 47d 47d 0 47e 1 1 47f 47f 0 480 1 1 481 481 0 48a 1 1 48b 48b 0 48c 1
      1 48d 48d 0 48e 1 1 48f 48f 0 490 1 1 491 491 0 492 1 1 493 493 0 494 1 1 495 495 0 496 1
      1 497 497 0 498 1 1 499 499 0 49a 1 1 49b 49b 0 49c 1 1 49d 49d 0 49e 1 1 49f 49f 0 4a0 1
      1 4a1 4a1 0 4a2 1 1 4a3 4a3 0 4a4 1 1 4a5 4a5 0 4a6 1 1 4a7 4a7 0 4a8 1 1 4a9 4a9 0 4aa 1
      1 4ab 4ab 0 4ac 1 1 4ad 4ad 0 4ae 1 1 4af 4af 0 4b0 1 1 4b1 4b1 0 4b2 1 1 4b3 4b3 0 4b4 1
      1 4b5 4b5 0 4b6 1 1 4b7 4b7 0 4b8 1 1 4b9 4b9 0 4ba 1 1 4bb 4bb 0 4bc 1 1 4bd 4bd 0 4be 1
      1 4bf 4bf 0 4c0 1 1 4cf 4c1 1 1 4c2 4c2 0 4c3 1 1 4c4 4c4 0 4c5 1 1 4c6 4c6 0 4c7 1 1 4c8
      4c8 0 4c9 1 1 4ca 4ca 0 4cb 1 1 4cc 4cc 0 4cd 1 1 4ce 4ce 0 4d0 1 1 4d1 4d1 0 4d2 1 1 4d3
      4d3 0 4d4 1 1 4d5 4d5 0 4d6 1 1 4d7 4d7 0 4d8 1 1 4d9 4d9 0 4da 1 1 4db 4db 0 4dc 1 1 4dd
      4dd 0 4de 1 1 4df 4df 0 4e0 1 1 4e1 4e1 0 4e2 1 1 4e3 4e3 0 4e4 1 1 4e5 4e5 0 4e6 1 1 4e7
      4e7 0 4e8 1 1 4e9 4e9 0 4ea 1 1 4eb 4eb 0 4ec 1 1 4ed 4ed 0 4ee 1 1 4ef 4ef 0 4f0 1 1 4f1
      4f1 0 4f2 1 1 4f3 4f3 0 4f4 1 1 4f5 4f5 0 4f6 1 1 4f7 4f7 0 4f8 1 1 4f9 4f9 0 4fa 1 1 4fb
      4fb 0 4fc 1 1 4fd 4fd 0 4fe 1 1 4ff 4ff 0 500 1 1 501 501 0 502 1 1 503 503 0 504 1 1 505
      505 0 506 1 1 507 507 0 508 1 1 509 509 0 50a 1 1 50b 50b 0 50c 1 1 50d 50d 0 50e 1 1 50f
      50f 0 510 1 1 511 511 0 512 1 1 513 513 0 514 1 1 515 515 0 516 1 1 517 517 0 518 1 1 519
      519 0 51a 1 1 51b 51b 0 51c 1 1 51d 51d 0 51e 1 1 51f 51f 0 520 1 1 521 521 0 522 1 1 523
      523 0 524 1 1 525 525 0 526 1 1 527 527 0 528 1 1 529 529 0 52a 1 1 52b 52b 0 52c 1 1 52d
      52d 0 52e 1 1 52f 52f 0 530 4 531 1 1 561 532 1 1 562 533 1 1 563 534 1 1 564 535 1 1 565
      536 1 1 566 537 1 1 567 538 1 1 568 539 1 1 569 53a 1 1 56a 53b 1 1 56b 53c 1 1 56c 53d 1
      1 56d 53e 1 1 56e 53f 1 1 56f 540 1 1 570 541 1 1 571 542 1 1 572 543 1 1 573 544 1 1 574
      545 1 1 575 546 1 1 576 547 1 1 577 548 1 1 578 549 1 1 579 54a 1 1 57a 54b 1 1 57b 54c 1
      1 57c 54d 1 1 57d 54e 1 1 57e 54f 1 1 57f 550 1 1 580 551 1 1 581 552 1 1 582 553 1 1 583
      554 1 1 584 555 1 1 585 556 1 1 586 557 4 558 1 1 567 559 0 587 1 2 565 582 588 0 58b 4
      58d 0 590 4 591 0 5c8 4 5d0 0 5eb 4 5ef 0 5f5 4 606 0 61c 4 61d 0 675 1 2 627 674 676 1 2
      648 674 677 1 2 6c7 674 678 1 2 64a 674 679 0 6dd 4 6de 0 70e 4 710 0 74b 4 74d 0 7b2 4
      7c0 0 7fb 4 7fd 0 82e 4 830 0 83f 4 840 0 85c 4 85e 0 85f 4 860 0 86b 4 870 0 890 4 897 0
      8e2 4 8e3 0 958 1 2 915 93c 959 1 2 916 93c 95a 1 2 917 93c 95b 1 2 91c 93c 95c 1 2 921
      93c 95d 1 2 922 93c 95e 1 2 92b 93c 95f 1 2 92f 93c 960 0 984 4 985 0 98d 4 98f 0 991 4
      993 0 9a9 4 9aa 0 9b1 4 9b2 0 9b3 4 9b6 0 9ba 4 9bc 0 9c5 4 9c7 0 9c9 4 9cb 0 9cf 4 9d7 0
      9d8 4 9dc 1 2 9a1 9bc 9dd 1 2 9a2 9bc 9de 4 9df 1 2 9af 9bc 9e0 0 9e4 4 9e6 0 9ff 4 a01 0
      a04 4 a05 0 a0b 4 a0f 0 a11 4 a13 0 a29 4 a2a 0 a31 4 a32 0 a33 1 2 a32 a3c a34 4 a35 0
      a36 1 2 a38 a3c a37 4 a38 0 a3a 4 a3c 0 a3d 4 a3e 0 a43 4 a47 0 a49 4 a4b 0 a4e 4 a51 0
      a52 4 a59 1 2 a16 a3c a5a 1 2 a17 a3c a5b 1 2 a1c a3c a5c 0 a5d 4 a5e 1 2 a2b a3c a5f 4
      a66 0 a77 4 a81 0 a84 4 a85 0 a8e 4 a8f 0 a92 4 a93 0 aa9 4 aaa 0 ab1 4 ab2 0 ab4 4 ab5 0
      aba 4 abc 0 ac6 4 ac7 0 aca 4 acb 0 ace 4 ad0 0 ad1 4 ae0 0 ae4 4 ae6 0 af2 4 af9 0 b00 4
      b01 0 b04 4 b05 0 b0d 4 b0f 0 b11 4 b13 0 b29 4 b2a 0 b31 4 b32 0 b34 4 b35 0 b3a 4 b3c 0
      b45 4 b47 0 b49 4 b4b 0 b4e 4 b55 0 b58 4 b5c 1 2 b21 b3c b5d 1 2 b22 b3c b5e 4 b5f 0 b64
      4 b66 0 b78 4 b82 0 b84 4 b85 0 b8b 4 b8e 0 b91 4 b92 0 b96 4 b99 0 b9b 4 b9c 0 b9d 4 b9e
      0 ba0 4 ba3 0 ba5 4 ba8 0 bab 4 bae 0 bba 4 bbe 0 bc3 4 bc6 0 bc9 4 bca 0 bce 4 bd0 0 bd1
      4 bd7 0 bd8 4 be6 0 bfb 4 c00 0 c0d 4 c0e 0 c11 4 c12 0 c29 4 c2a 0 c3a 4 c3c 0 c45 4 c46
      0 c49 4 c4a 0 c4e 4 c55 0 c57 4 c58 0 c5b 4 c5c 0 c5e 4 c60 0 c64 4 c66 0 c70 4 c77 0 c8d
      4 c8e 0 c91 4 c92 0 ca9 4 caa 0 cb4 4 cb5 0 cba 4 cbc 0 cc5 4 cc6 0 cc9 4 cca 0 cce 4 cd5
      0 cd7 4 cdc 0 cdf 4 ce0 0 ce4 4 ce6 0 cf0 4 cf1 0 cf4 4 d00 0 d0d 4 d0e 0 d11 4 d12 0 d45
      4 d46 0 d49 4 d4a 0 d50 4 d54 0 d64 4 d66 0 d80 4 d81 0 d84 4 d85 0 d97 4 d9a 0 db2 4 db3
      0 dbc 4 dbd 0 dbe 4 dc0 0 dc7 4 dca 0 dcb 4 dcf 0 dd5 4 dd6 0 dd7 4 dd8 0 de0 4 de6 0 df0
      4 df2 0 df5 4 e01 0 e33 1 2 e4d e32 e34 0 e3b 4 e3f 0 e5c 4 e81 0 e83 4 e84 0 e85 4 e86 0
      e8b 4 e8c 0 ea4 4 ea5 0 ea6 4 ea7 0 eb3 1 2 ecd eb2 eb4 0 ebe 4 ec0 0 ec5 4 ec6 0 ec7 4
      ec8 0 ecf 4 ed0 0 eda 4 edc 1 2 eab e99 edd 1 2 eab ea1 ede 0 ee0 4 f00 0 f0c 1 1 f0b f0d
      0 f43 1 2 f42 fb7 f44 0 f48 4 f49 0 f4d 1 2 f4c fb7 f4e 0 f52 1 2 f51 fb7 f53 0 f57 1 2
      f56 fb7 f58 0 f5c 1 2 f5b fb7 f5d 0 f69 1 2 f40 fb5 f6a 0 f6d 4 f71 0 f73 1 2 f71 f72 f74
      0 f75 1 2 f71 f74 f76 1 2 fb2 f80 f77 1 3 fb2 f71 f80 f78 1 2 fb3 f80 f79 1 3 fb3 f71 f80
      f7a 0 f81 1 2 f71 f80 f82 0 f93 1 2 f92 fb7 f94 0 f98 4 f99 0 f9d 1 2 f9c fb7 f9e 0 fa2 1
      2 fa1 fb7 fa3 0 fa7 1 2 fa6 fb7 fa8 0 fac 1 2 fab fb7 fad 0 fb9 1 2 f90 fb5 fba 0 fbd 4
      fbe 0 fcd 4 fce 0 fdb 4 1000 0 10a0 1 1 2d00 10a1 1 1 2d01 10a2 1 1 2d02 10a3 1 1 2d03
      10a4 1 1 2d04 10a5 1 1 2d05 10a6 1 1 2d06 10a7 1 1 2d07 10a8 1 1 2d08 10a9 1 1 2d09 10aa 1
      1 2d0a 10ab 1 1 2d0b 10ac 1 1 2d0c 10ad 1 1 2d0d 10ae 1 1 2d0e 10af 1 1 2d0f 10b0 1 1 2d10
      10b1 1 1 2d11 10b2 1 1 2d12 10b3 1 1 2d13 10b4 1 1 2d14 10b5 1 1 2d15 10b6 1 1 2d16 10b7 1
      1 2d17 10b8 1 1 2d18 10b9 1 1 2d19 10ba 1 1 2d1a 10bb 1 1 2d1b 10bc 1 1 2d1c 10bd 1 1 2d1d
      10be 1 1 2d1e 10bf 1 1 2d1f 10c0 1 1 2d20 10c1 1 1 2d21 10c2 1 1 2d22 10c3 1 1 2d23 10c4 1
      1 2d24 10c5 1 1 2d25 10c6 4 10c7 1 1 2d27 10c8 4 10cd 1 1 2d2d 10ce 4 10d0 0 10fc 1 1 10dc
      10fd 0 115f 3 1161 0 1249 4 124a 0 124e 4 1250 0 1257 4 1258 0 1259 4 125a 0 125e 4 1260 0
      1289 4 128a 0 128e 4 1290 0 12b1 4 12b2 0 12b6 4 12b8 0 12bf 4 12c0 0 12c1 4 12c2 0 12c6 4
      12c8 0 12d7 4 12d8 0 1311 4 1312 0 1316 4 1318 0 135b 4 135d 0 137d 4 1380 0 139a 4 13a0 0
      13f6 4 13f8 1 1 13f0 13f9 1 1 13f1 13fa 1 1 13f2 13fb 1 1 13f3 13fc 1 1 13f4 13fd 1 1 13f5
      13fe 4 1400 0 1680 4 1681 0 169d 4 16a0 0 16f9 4 1700 0 1716 4 171f 0 1737 4 1740 0 1754 4
      1760 0 176d 4 176e 0 1771 4 1772 0 1774 4 1780 0 17b4 3 17b6 0 17de 4 17e0 0 17ea 4 17f0 0
      17fa 4 1800 0 180b 3 1810 0 181a 4 1820 0 1879 4 1880 0 18ab 4 18b0 0 18f6 4 1900 0 191f 4
      1920 0 192c 4 1930 0 193c 4 1940 0 1941 4 1944 0 196e 4 1970 0 1975 4 1980 0 19ac 4 19b0 0
      19ca 4 19d0 0 19db 4 19de 0 1a1c 4 1a1e 0 1a5f 4 1a60 0 1a7d 4 1a7f 0 1a8a 4 1a90 0 1a9a 4
      1aa0 0 1aae 4 1ab0 0 1ade 4 1ae0 0 1aec 4 1b00 0 1b4d 4 1b4e 0 1bf4 4 1bfc 0 1c38 4 1c3b 0
      1c4a 4 1c4d 0 1c80 1 1 432 1c81 1 1 434 1c82 1 1 43e 1c83 1 1 441 1c84 1 1 442 1c86 1 1
      44a 1c87 1 1 463 1c88 1 1 a64b 1c89 1 1 1c8a 1c8a 0 1c8b 4 1c90 1 1 10d0 1c91 1 1 10d1
      1c92 1 1 10d2 1c93 1 1 10d3 1c94 1 1 10d4 1c95 1 1 10d5 1c96 1 1 10d6 1c97 1 1 10d7 1c98 1
      1 10d8 1c99 1 1 10d9 1c9a 1 1 10da 1c9b 1 1 10db 1c9c 1 1 10dc 1c9d 1 1 10dd 1c9e 1 1 10de
      1c9f 1 1 10df 1ca0 1 1 10e0 1ca1 1 1 10e1 1ca2 1 1 10e2 1ca3 1 1 10e3 1ca4 1 1 10e4 1ca5 1
      1 10e5 1ca6 1 1 10e6 1ca7 1 1 10e7 1ca8 1 1 10e8 1ca9 1 1 10e9 1caa 1 1 10ea 1cab 1 1 10eb
      1cac 1 1 10ec 1cad 1 1 10ed 1cae 1 1 10ee 1caf 1 1 10ef 1cb0 1 1 10f0 1cb1 1 1 10f1 1cb2 1
      1 10f2 1cb3 1 1 10f3 1cb4 1 1 10f4 1cb5 1 1 10f5 1cb6 1 1 10f6 1cb7 1 1 10f7 1cb8 1 1 10f8
      1cb9 1 1 10f9 1cba 1 1 10fa 1cbb 4 1cbd 1 1 10fd 1cbe 1 1 10fe 1cbf 1 1 10ff 1cc0 0 1cc8 4
      1cd0 0 1cfb 4 1d00 0 1d2c 1 1 61 1d2d 1 1 e6 1d2e 1 1 62 1d2f 0 1d30 1 1 64 1d31 1 1 65
      1d32 1 1 1dd 1d33 1 1 67 1d34 1 1 68 1d35 1 1 69 1d36 1 1 6a 1d37 1 1 6b 1d38 1 1 6c 1d39
      1 1 6d 1d3a 1 1 6e 1d3b 0 1d3c 1 1 6f 1d3d 1 1 223 1d3e 1 1 70 1d3f 1 1 72 1d40 1 1 74
      1d41 1 1 75 1d42 1 1 77 1d43 1 1 61 1d44 1 1 250 1d45 1 1 251 1d46 1 1 1d02 1d47 1 1 62
      1d48 1 1 64 1d49 1 1 65 1d4a 1 1 259 1d4b 1 1 25b 1d4c 1 1 25c 1d4d 1 1 67 1d4e 0 1d4f 1 1
      6b 1d50 1 1 6d 1d51 1 1 14b 1d52 1 1 6f 1d53 1 1 254 1d54 1 1 1d16 1d55 1 1 1d17 1d56 1 1
      70 1d57 1 1 74 1d58 1 1 75 1d59 1 1 1d1d 1d5a 1 1 26f 1d5b 1 1 76 1d5c 1 1 1d25 1d5d 1 1
      3b2 1d5e 1 1 3b3 1d5f 1 1 3b4 1d60 1 1 3c6 1d61 1 1 3c7 1d62 1 1 69 1d63 1 1 72 1d64 1 1
      75 1d65 1 1 76 1d66 1 1 3b2 1d67 1 1 3b3 1d68 1 1 3c1 1d69 1 1 3c6 1d6a 1 1 3c7 1d6b 0
      1d78 1 1 43d 1d79 0 1d9b 1 1 252 1d9c 1 1 63 1d9d 1 1 255 1d9e 1 1 f0 1d9f 1 1 25c 1da0 1
      1 66 1da1 1 1 25f 1da2 1 1 261 1da3 1 1 265 1da4 1 1 268 1da5 1 1 269 1da6 1 1 26a 1da7 1
      1 1d7b 1da8 1 1 29d 1da9 1 1 26d 1daa 1 1 1d85 1dab 1 1 29f 1dac 1 1 271 1dad 1 1 270 1dae
      1 1 272 1daf 1 1 273 1db0 1 1 274 1db1 1 1 275 1db2 1 1 278 1db3 1 1 282 1db4 1 1 283 1db5
      1 1 1ab 1db6 1 1 289 1db7 1 1 28a 1db8 1 1 1d1c 1db9 1 1 28b 1dba 1 1 28c 1dbb 1 1 7a 1dbc
      1 1 290 1dbd 1 1 291 1dbe 1 1 292 1dbf 1 1 3b8 1dc0 0 1e00 1 1 1e01 1e01 0 1e02 1 1 1e03
      1e03 0 1e04 1 1 1e05 1e05 0 1e06 1 1 1e07 1e07 0 1e08 1 1 1e09 1e09 0 1e0a 1 1 1e0b 1e0b 0
      1e0c 1 1 1e0d 1e0d 0 1e0e 1 1 1e0f 1e0f 0 1e10 1 1 1e11 1e11 0 1e12 1 1 1e13 1e13 0 1e14 1
      1 1e15 1e15 0 1e16 1 1 1e17 1e17 0 1e18 1 1 1e19 1e19 0 1e1a 1 1 1e1b 1e1b 0 1e1c 1 1 1e1d
      1e1d 0 1e1e 1 1 1e1f 1e1f 0 1e20 1 1 1e21 1e21 0 1e22 1 1 1e23 1e23 0 1e24 1 1 1e25 1e25 0
      1e26 1 1 1e27 1e27 0 1e28 1 1 1e29 1e29 0 1e2a 1 1 1e2b 1e2b 0 1e2c 1 1 1e2d 1e2d 0 1e2e 1
      1 1e2f 1e2f 0 1e30 1 1 1e31 1e31 0 1e32 1 1 1e33 1e33 0 1e34 1 1 1e35 1e35 0 1e36 1 1 1e37
      1e37 0 1e38 1 1 1e39 1e39 0 1e3a 1 1 1e3b 1e3b 0 1e3c 1 1 1e3d 1e3d 0 1e3e 1 1 1e3f 1e3f 0
      1e40 1 1 1e41 1e41 0 1e42 1 1 1e43 1e43 0 1e44 1 1 1e45 1e45 0 1e46 1 1 1e47 1e47 0 1e48 1
      1 1e49 1e49 0 1e4a 1 1 1e4b 1e4b 0 1e4c 1 1 1e4d 1e4d 0 1e4e 1 1 1e4f 1e4f 0 1e50 1 1 1e51
      1e51 0 1e52 1 1 1e53 1e53 0 1e54 1 1 1e55 1e55 0 1e56 1 1 1e57 1e57 0 1e58 1 1 1e59 1e59 0
      1e5a 1 1 1e5b 1e5b 0 1e5c 1 1 1e5d 1e5d 0 1e5e 1 1 1e5f 1e5f 0 1e60 1 1 1e61 1e61 0 1e62 1
      1 1e63 1e63 0 1e64 1 1 1e65 1e65 0 1e66 1 1 1e67 1e67 0 1e68 1 1 1e69 1e69 0 1e6a 1 1 1e6b
      1e6b 0 1e6c 1 1 1e6d 1e6d 0 1e6e 1 1 1e6f 1e6f 0 1e70 1 1 1e71 1e71 0 1e72 1 1 1e73 1e73 0
      1e74 1 1 1e75 1e75 0 1e76 1 1 1e77 1e77 0 1e78 1 1 1e79 1e79 0 1e7a 1 1 1e7b 1e7b 0 1e7c 1
      1 1e7d 1e7d 0 1e7e 1 1 1e7f 1e7f 0 1e80 1 1 1e81 1e81 0 1e82 1 1 1e83 1e83 0 1e84 1 1 1e85
      1e85 0 1e86 1 1 1e87 1e87 0 1e88 1 1 1e89 1e89 0 1e8a 1 1 1e8b 1e8b 0 1e8c 1 1 1e8d 1e8d 0
      1e8e 1 1 1e8f 1e8f 0 1e90 1 1 1e91 1e91 0 1e92 1 1 1e93 1e93 0 1e94 1 1 1e95 1e95 0 1e9a 1
      2 61 2be 1e9b 1 1 1e61 1e9c 0 1e9e 1 1 df 1e9f 0 1ea0 1 1 1ea1 1ea1 0 1ea2 1 1 1ea3 1ea3 0
      1ea4 1 1 1ea5 1ea5 0 1ea6 1 1 1ea7 1ea7 0 1ea8 1 1 1ea9 1ea9 0 1eaa 1 1 1eab 1eab 0 1eac 1
      1 1ead 1ead 0 1eae 1 1 1eaf 1eaf 0 1eb0 1 1 1eb1 1eb1 0 1eb2 1 1 1eb3 1eb3 0 1eb4 1 1 1eb5
      1eb5 0 1eb6 1 1 1eb7 1eb7 0 1eb8 1 1 1eb9 1eb9 0 1eba 1 1 1ebb 1ebb 0 1ebc 1 1 1ebd 1ebd 0
      1ebe 1 1 1ebf 1ebf 0 1ec0 1 1 1ec1 1ec1 0 1ec2 1 1 1ec3 1ec3 0 1ec4 1 1 1ec5 1ec5 0 1ec6 1
      1 1ec7 1ec7 0 1ec8 1 1 1ec9 1ec9 0 1eca 1 1 1ecb 1ecb 0 1ecc 1 1 1ecd 1ecd 0 1ece 1 1 1ecf
      1ecf 0 1ed0 1 1 1ed1 1ed1 0 1ed2 1 1 1ed3 1ed3 0 1ed4 1 1 1ed5 1ed5 0 1ed6 1 1 1ed7 1ed7 0
      1ed8 1 1 1ed9 1ed9 0 1eda 1 1 1edb 1edb 0 1edc 1 1 1edd 1edd 0 1ede 1 1 1edf 1edf 0 1ee0 1
      1 1ee1 1ee1 0 1ee2 1 1 1ee3 1ee3 0 1ee4 1 1 1ee5 1ee5 0 1ee6 1 1 1ee7 1ee7 0 1ee8 1 1 1ee9
      1ee9 0 1eea 1 1 1eeb 1eeb 0 1eec 1 1 1eed 1eed 0 1eee 1 1 1eef 1eef 0 1ef0 1 1 1ef1 1ef1 0
      1ef2 1 1 1ef3 1ef3 0 1ef4 1 1 1ef5 1ef5 0 1ef6 1 1 1ef7 1ef7 0 1ef8 1 1 1ef9 1ef9 0 1efa 1
      1 1efb 1efb 0 1efc 1 1 1efd 1efd 0 1efe 1 1 1eff 1eff 0 1f08 1 1 1f00 1f09 1 1 1f01 1f0a 1
      1 1f02 1f0b 1 1 1f03 1f0c 1 1 1f04 1f0d 1 1 1f05 1f0e 1 1 1f06 1f0f 1 1 1f07 1f10 0 1f16 4
      1f18 1 1 1f10 1f19 1 1 1f11 1f1a 1 1 1f12 1f1b 1 1 1f13 1f1c 1 1 1f14 1f1d 1 1 1f15 1f1e 4
      1f20 0 1f28 1 1 1f20 1f29 1 1 1f21 1f2a 1 1 1f22 1f2b 1 1 1f23 1f2c 1 1 1f24 1f2d 1 1 1f25
      1f2e 1 1 1f26 1f2f 1 1 1f27 1f30 0 1f38 1 1 1f30 1f39 1 1 1f31 1f3a 1 1 1f32 1f3b 1 1 1f33
      1f3c 1 1 1f34 1f3d 1 1 1f35 1f3e 1 1 1f36 1f3f 1 1 1f37 1f40 0 1f46 4 1f48 1 1 1f40 1f49 1
      1 1f41 1f4a 1 1 1f42 1f4b 1 1 1f43 1f4c 1 1 1f44 1f4d 1 1 1f45 1f4e 4 1f50 0 1f58 4 1f59 1
      1 1f51 1f5a 4 1f5b 1 1 1f53 1f5c 4 1f5d 1 1 1f55 1f5e 4 1f5f 1 1 1f57 1f60 0 1f68 1 1 1f60
      1f69 1 1 1f61 1f6a 1 1 1f62 1f6b 1 1 1f63 1f6c 1 1 1f64 1f6d 1 1 1f65 1f6e 1 1 1f66 1f6f 1
      1 1f67 1f70 0 1f71 1 1 3ac 1f72 0 1f73 1 1 3ad 1f74 0 1f75 1 1 3ae 1f76 0 1f77 1 1 3af
      1f78 0 1f79 1 1 3cc 1f7a 0 1f7b 1 1 3cd 1f7c 0 1f7d 1 1 3ce 1f7e 4 1f80 1 2 1f00 3b9 1f81
      1 2 1f01 3b9 1f82 1 2 1f02 3b9 1f83 1 2 1f03 3b9 1f84 1 2 1f04 3b9 1f85 1 2 1f05 3b9 1f86
      1 2 1f06 3b9 1f87 1 2 1f07 3b9 1f88 1 2 1f00 3b9 1f89 1 2 1f01 3b9 1f8a 1 2 1f02 3b9 1f8b
      1 2 1f03 3b9 1f8c 1 2 1f04 3b9 1f8d 1 2 1f05 3b9 1f8e 1 2 1f06 3b9 1f8f 1 2 1f07 3b9 1f90
      1 2 1f20 3b9 1f91 1 2 1f21 3b9 1f92 1 2 1f22 3b9 1f93 1 2 1f23 3b9 1f94 1 2 1f24 3b9 1f95
      1 2 1f25 3b9 1f96 1 2 1f26 3b9 1f97 1 2 1f27 3b9 1f98 1 2 1f20 3b9 1f99 1 2 1f21 3b9 1f9a
      1 2 1f22 3b9 1f9b 1 2 1f23 3b9 1f9c 1 2 1f24 3b9 1f9d 1 2 1f25 3b9 1f9e 1 2 1f26 3b9 1f9f
      1 2 1f27 3b9 1fa0 1 2 1f60 3b9 1fa1 1 2 1f61 3b9 1fa2 1 2 1f62 3b9 1fa3 1 2 1f63 3b9 1fa4
      1 2 1f64 3b9 1fa5 1 2 1f65 3b9 1fa6 1 2 1f66 3b9 1fa7 1 2 1f67 3b9 1fa8 1 2 1f60 3b9 1fa9
      1 2 1f61 3b9 1faa 1 2 1f62 3b9 1fab 1 2 1f63 3b9 1fac 1 2 1f64 3b9 1fad 1 2 1f65 3b9 1fae
      1 2 1f66 3b9 1faf 1 2 1f67 3b9 1fb0 0 1fb2 1 2 1f70 3b9 1fb3 1 2 3b1 3b9 1fb4 1 2 3ac 3b9
      1fb5 4 1fb6 0 1fb7 1 2 1fb6 3b9 1fb8 1 1 1fb0 1fb9 1 1 1fb1 1fba 1 1 1f70 1fbb 1 1 3ac
      1fbc 1 2 3b1 3b9 1fbd 1 2 20 313 1fbe 1 1 3b9 1fbf 1 2 20 313 1fc0 1 2 20 342 1fc1 1 3 20
      308 342 1fc2 1 2 1f74 3b9 1fc3 1 2 3b7 3b9 1fc4 1 2 3ae 3b9 1fc5 4 1fc6 0 1fc7 1 2 1fc6
      3b9 1fc8 1 1 1f72 1fc9 1 1 3ad 1fca 1 1 1f74 1fcb 1 1 3ae 1fcc 1 2 3b7 3b9 1fcd 1 3 20 313
      300 1fce 1 3 20 313 301 1fcf 1 3 20 313 342 1fd0 0 1fd3 1 1 390 1fd4 4 1fd6 0 1fd8 1 1
      1fd0 1fd9 1 1 1fd1 1fda 1 1 1f76 1fdb 1 1 3af 1fdc 4 1fdd 1 3 20 314 300 1fde 1 3 20 314
      301 1fdf 1 3 20 314 342 1fe0 0 1fe3 1 1 3b0 1fe4 0 1fe8 1 1 1fe0 1fe9 1 1 1fe1 1fea 1 1
      1f7a 1feb 1 1 3cd 1fec 1 1 1fe5 1fed 1 3 20 308 300 1fee 1 3 20 308 301 1fef 1 1 60 1ff0 4
      1ff2 1 2 1f7c 3b9 1ff3 1 2 3c9 3b9 1ff4 1 2 3ce 3b9 1ff5 4 1ff6 0 1ff7 1 2 1ff6 3b9 1ff8 1
      1 1f78 1ff9 1 1 3cc 1ffa 1 1 1f7c 1ffb 1 1 3ce 1ffc 1 2 3c9 3b9 1ffd 1 2 20 301 1ffe 1 2
      20 314 1fff 4 2000 1 1 20 200b 3 200c 2 200e 4 2010 0 2011 1 1 2010 2012 0 2017 1 2 20 333
      2018 0 2024 4 2027 0 2028 4 202f 1 1 20 2030 0 2033 1 2 2032 2032 2034 1 3 2032 2032 2032
      2035 0 2036 1 2 2035 2035 2037 1 3 2035 2035 2035 2038 0 203c 1 2 21 21 203d 0 203e 1 2 20
      305 203f 0 2047 1 2 3f 3f 2048 1 2 3f 21 2049 1 2 21 3f 204a 0 2057 1 4 2032 2032 2032
      2032 2058 0 205f 1 1 20 2060 3 2065 4 206a 3 2070 1 1 30 2071 1 1 69 2072 4 2074 1 1 34
      2075 1 1 35 2076 1 1 36 2077 1 1 37 2078 1 1 38 2079 1 1 39 207a 1 1 2b 207b 1 1 2212 207c
      1 1 3d 207d 1 1 28 207e 1 1 29 207f 1 1 6e 2080 1 1 30 2081 1 1 31 2082 1 1 32 2083 1 1 33
      2084 1 1 34 2085 1 1 35 2086 1 1 36 2087 1 1 37 2088 1 1 38 2089 1 1 39 208a 1 1 2b 208b 1
      1 2212 208c 1 1 3d 208d 1 1 28 208e 1 1 29 208f 4 2090 1 1 61 2091 1 1 65 2092 1 1 6f 2093
      1 1 78 2094 1 1 259 2095 1 1 68 2096 1 1 6b 2097 1 1 6c 2098 1 1 6d 2099 1 1 6e 209a 1 1
      70 209b 1 1 73 209c 1 1 74 209d 4 20a0 0 20a8 1 2 72 73 20a9 0 20c2 4 20d0 0 20f1 4 2100 1
      3 61 2f 63 2101 1 3 61 2f 73 2102 1 1 63 2103 1 2 b0 63 2104 0 2105 1 3 63 2f 6f 2106 1 3
      63 2f 75 2107 1 1 25b 2108 0 2109 1 2 b0 66 210a 1 1 67 210b 1 1 68 210f 1 1 127 2110 1 1
      69 2112 1 1 6c 2114 0 2115 1 1 6e 2116 1 2 6e 6f 2117 0 2119 1 1 70 211a 1 1 71 211b 1 1
      72 211e 0 2120 1 2 73 6d 2121 1 3 74 65 6c 2122 1 2 74 6d 2123 0 2124 1 1 7a 2125 0 2126 1
      1 3c9 2127 0 2128 1 1 7a 2129 0 212a 1 1 6b 212b 1 1 e5 212c 1 1 62 212d 1 1 63 212e 0
      212f 1 1 65 2131 1 1 66 2132 1 1 214e 2133 1 1 6d 2134 1 1 6f 2135 1 1 5d0 2136 1 1 5d1
      2137 1 1 5d2 2138 1 1 5d3 2139 1 1 69 213a 0 213b 1 3 66 61 78 213c 1 1 3c0 213d 1 1 3b3
      213f 1 1 3c0 2140 1 1 2211 2141 0 2145 1 1 64 2147 1 1 65 2148 1 1 69 2149 1 1 6a 214a 0
      2150 1 3 31 2044 37 2151 1 3 31 2044 39 2152 1 4 31 2044 31 30 2153 1 3 31 2044 33 2154 1
      3 32 2044 33 2155 1 3 31 2044 35 2156 1 3 32 2044 35 2157 1 3 33 2044 35 2158 1 3 34 2044
      35 2159 1 3 31 2044 36 215a 1 3 35 2044 36 215b 1 3 31 2044 38 215c 1 3 33 2044 38 215d 1
      3 35 2044 38 215e 1 3 37 2044 38 215f 1 2 31 2044 2160 1 1 69 2161 1 2 69 69 2162 1 3 69
      69 69 2163 1 2 69 76 2164 1 1 76 2165 1 2 76 69 2166 1 3 76 69 69 2167 1 4 76 69 69 69
      2168 1 2 69 78 2169 1 1 78 216a 1 2 78 69 216b 1 3 78 69 69 216c 1 1 6c 216d 1 1 63 216e 1
      1 64 216f 1 1 6d 2170 1 1 69 2171 1 2 69 69 2172 1 3 69 69 69 2173 1 2 69 76 2174 1 1 76
      2175 1 2 76 69 2176 1 3 76 69 69 2177 1 4 76 69 69 69 2178 1 2 69 78 2179 1 1 78 217a 1 2
      78 69 217b 1 3 78 69 69 217c 1 1 6c 217d 1 1 63 217e 1 1 64 217f 1 1 6d 2180 0 2183 1 1
      2184 2184 0 2189 1 3 30 2044 33 218a 0 218c 4 2190 0 222c 1 2 222b 222b 222d 1 3 222b 222b
      222b 222e 0 222f 1 2 222e 222e 2230 1 3 222e 222e 222e 2231 0 2329 1 1 3008 232a 1 1 3009
      232b 0 242a 4 2440 0 244b 4 2460 1 1 31 2461 1 1 32 2462 1 1 33 2463 1 1 34 2464 1 1 35
      2465 1 1 36 2466 1 1 37 2467 1 1 38 2468 1 1 39 2469 1 2 31 30 246a 1 2 31 31 246b 1 2 31
      32 246c 1 2 31 33 246d 1 2 31 34 246e 1 2 31 35 246f 1 2 31 36 2470 1 2 31 37 2471 1 2 31
      38 2472 1 2 31 39 2473 1 2 32 30 2474 1 3 28 31 29 2475 1 3 28 32 29 2476 1 3 28 33 29
      2477 1 3 28 34 29 2478 1 3 28 35 29 2479 1 3 28 36 29 247a 1 3 28 37 29 247b 1 3 28 38 29
      247c 1 3 28 39 29 247d 1 4 28 31 30 29 247e 1 4 28 31 31 29 247f 1 4 28 31 32 29 2480 1 4
      28 31 33 29 2481 1 4 28 31 34 29 2482 1 4 28 31 35 29 2483 1 4 28 31 36 29 2484 1 4 28 31
      37 29 2485 1 4 28 31 38 29 2486 1 4 28 31 39 29 2487 1 4 28 32 30 29 2488 4 249c 1 3 28 61
      29 249d 1 3 28 62 29 249e 1 3 28 63 29 249f 1 3 28 64 29 24a0 1 3 28 65 29 24a1 1 3 28 66
      29 24a2 1 3 28 67 29 24a3 1 3 28 68 29 24a4 1 3 28 69 29 24a5 1 3 28 6a 29 24a6 1 3 28 6b
      29 24a7 1 3 28 6c 29 24a8 1 3 28 6d 29 24a9 1 3 28 6e 29 24aa 1 3 28 6f 29 24ab 1 3 28 70
      29 24ac 1 3 28 71 29 24ad 1 3 28 72 29 24ae 1 3 28 73 29 24af 1 3 28 74 29 24b0 1 3 28 75
      29 24b1 1 3 28 76 29 24b2 1 3 28 77 29 24b3 1 3 28 78 29 24b4 1 3 28 79 29 24b5 1 3 28 7a
      29 24b6 1 1 61 24b7 1 1 62 24b8 1 1 63 24b9 1 1 64 24ba 1 1 65 24bb 1 1 66 24bc 1 1 67
      24bd 1 1 68 24be 1 1 69 24bf 1 1 6a 24c0 1 1 6b 24c1 1 1 6c 24c2 1 1 6d 24c3 1 1 6e 24c4 1
      1 6f 24c5 1 1 70 24c6 1 1 71 24c7 1 1 72 24c8 1 1 73 24c9 1 1 74 24ca 1 1 75 24cb 1 1 76
      24cc 1 1 77 24cd 1 1 78 24ce 1 1 79 24cf 1 1 7a 24d0 1 1 61 24d1 1 1 62 24d2 1 1 63 24d3 1
      1 64 24d4 1 1 65 24d5 1 1 66 24d6 1 1 67 24d7 1 1 68 24d8 1 1 69 24d9 1 1 6a 24da 1 1 6b
      24db 1 1 6c 24dc 1 1 6d 24dd 1 1 6e 24de 1 1 6f 24df 1 1 70 24e0 1 1 71 24e1 1 1 72 24e2 1
      1 73 24e3 1 1 74 24e4 1 1 75 24e5 1 1 76 24e6 1 1 77 24e7 1 1 78 24e8 1 1 79 24e9 1 1 7a
      24ea 1 1 30 24eb 0 2a0c 1 4 222b 222b 222b 222b 2a0d 0 2a74 1 3 3a 3a 3d 2a75 1 2 3d 3d
      2a76 1 3 3d 3d 3d 2a77 0 2adc 1 2 2add 338 2add 0 2b74 4 2b76 0 2c00 1 1 2c30 2c01 1 1
      2c31 2c02 1 1 2c32 2c03 1 1 2c33 2c04 1 1 2c34 2c05 1 1 2c35 2c06 1 1 2c36 2c07 1 1 2c37
      2c08 1 1 2c38 2c09 1 1 2c39 2c0a 1 1 2c3a 2c0b 1 1 2c3b 2c0c 1 1 2c3c 2c0d 1 1 2c3d 2c0e 1
      1 2c3e 2c0f 1 1 2c3f 2c10 1 1 2c40 2c11 1 1 2c41 2c12 1 1 2c42 2c13 1 1 2c43 2c14 1 1 2c44
      2c15 1 1 2c45 2c16 1 1 2c46 2c17 1 1 2c47 2c18 1 1 2c48 2c19 1 1 2c49 2c1a 1 1 2c4a 2c1b 1
      1 2c4b 2c1c 1 1 2c4c 2c1d 1 1 2c4d 2c1e 1 1 2c4e 2c1f 1 1 2c4f 2c20 1 1 2c50 2c21 1 1 2c51
      2c22 1 1 2c52 2c23 1 1 2c53 2c24 1 1 2c54 2c25 1 1 2c55 2c26 1 1 2c56 2c27 1 1 2c57 2c28 1
      1 2c58 2c29 1 1 2c59 2c2a 1 1 2c5a 2c2b 1 1 2c5b 2c2c 1 1 2c5c 2c2d 1 1 2c5d 2c2e 1 1 2c5e
      2c2f 1 1 2c5f 2c30 0 2c60 1 1 2c61 2c61 0 2c62 1 1 26b 2c63 1 1 1d7d 2c64 1 1 27d 2c65 0
      2c67 1 1 2c68 2c68 0 2c69 1 1 2c6a 2c6a 0 2c6b 1 1 2c6c 2c6c 0 2c6d 1 1 251 2c6e 1 1 271
      2c6f 1 1 250 2c70 1 1 252 2c71 0 2c72 1 1 2c73 2c73 0 2c75 1 1 2c76 2c76 0 2c7c 1 1 6a
      2c7d 1 1 76 2c7e 1 1 23f 2c7f 1 1 240 2c80 1 1 2c81 2c81 0 2c82 1 1 2c83 2c83 0 2c84 1 1
      2c85 2c85 0 2c86 1 1 2c87 2c87 0 2c88 1 1 2c89 2c89 0 2c8a 1 1 2c8b 2c8b 0 2c8c 1 1 2c8d
      2c8d 0 2c8e 1 1 2c8f 2c8f 0 2c90 1 1 2c91 2c91 0 2c92 1 1 2c93 2c93 0 2c94 1 1 2c95 2c95 0
      2c96 1 1 2c97 2c97 0 2c98 1 1 2c99 2c99 0 2c9a 1 1 2c9b 2c9b 0 2c9c 1 1 2c9d 2c9d 0 2c9e 1
      1 2c9f 2c9f 0 2ca0 1 1 2ca1 2ca1 0 2ca2 1 1 2ca3 2ca3 0 2ca4 1 1 2ca5 2ca5 0 2ca6 1 1 2ca7
      2ca7 0 2ca8 1 1 2ca9 2ca9 0 2caa 1 1 2cab 2cab 0 2cac 1 1 2cad 2cad 0 2cae 1 1 2caf 2caf 0
      2cb0 1 1 2cb1 2cb1 0 2cb2 1 1 2cb3 2cb3 0 2cb4 1 1 2cb5 2cb5 0 2cb6 1 1 2cb7 2cb7 0 2cb8 1
      1 2cb9 2cb9 0 2cba 1 1 2cbb 2cbb 0 2cbc 1 1 2cbd 2cbd 0 2cbe 1 1 2cbf 2cbf 0 2cc0 1 1 2cc1
      2cc1 0 2cc2 1 1 2cc3 2cc3 0 2cc4 1 1 2cc5 2cc5 0 2cc6 1 1 2cc7 2cc7 0 2cc8 1 1 2cc9 2cc9 0
      2cca 1 1 2ccb 2ccb 0 2ccc 1 1 2ccd 2ccd 0 2cce 1 1 2ccf 2ccf 0 2cd0 1 1 2cd1 2cd1 0 2cd2 1
      1 2cd3 2cd3 0 2cd4 1 1 2cd5 2cd5 0 2cd6 1 1 2cd7 2cd7 0 2cd8 1 1 2cd9 2cd9 0 2cda 1 1 2cdb
      2cdb 0 2cdc 1 1 2cdd 2cdd 0 2cde 1 1 2cdf 2cdf 0 2ce0 1 1 2ce1 2ce1 0 2ce2 1 1 2ce3 2ce3 0
      2ceb 1 1 2cec 2cec 0 2ced 1 1 2cee 2cee 0 2cf2 1 1 2cf3 2cf3 0 2cf4 4 2cf9 0 2d26 4 2d27 0
      2d28 4 2d2d 0 2d2e 4 2d30 0 2d68 4 2d6f 1 1 2d61 2d70 0 2d71 4 2d7f 0 2d97 4 2da0 0 2da7 4
      2da8 0 2daf 4 2db0 0 2db7 4 2db8 0 2dbf 4 2dc0 0 2dc7 4 2dc8 0 2dcf 4 2dd0 0 2dd7 4 2dd8 0
      2ddf 4 2de0 0 2e5e 4 2e80 0 2e9a 4 2e9b 0 2e9f 1 1 6bcd 2ea0 0 2ef3 1 1 9f9f 2ef4 4 2f00 1
      1 4e00 2f01 1 1 4e28 2f02 1 1 4e36 2f03 1 1 4e3f 2f04 1 1 4e59 2f05 1 1 4e85 2f06 1 1 4e8c
      2f07 1 1 4ea0 2f08 1 1 4eba 2f09 1 1 513f 2f0a 1 1 5165 2f0b 1 1 516b 2f0c 1 1 5182 2f0d 1
      1 5196 2f0e 1 1 51ab 2f0f 1 1 51e0 2f10 1 1 51f5 2f11 1 1 5200 2f12 1 1 529b 2f13 1 1 52f9
      2f14 1 1 5315 2f15 1 1 531a 2f16 1 1 5338 2f17 1 1 5341 2f18 1 1 535c 2f19 1 1 5369 2f1a 1
      1 5382 2f1b 1 1 53b6 2f1c 1 1 53c8 2f1d 1 1 53e3 2f1e 1 1 56d7 2f1f 1 1 571f 2f20 1 1 58eb
      2f21 1 1 5902 2f22 1 1 590a 2f23 1 1 5915 2f24 1 1 5927 2f25 1 1 5973 2f26 1 1 5b50 2f27 1
      1 5b80 2f28 1 1 5bf8 2f29 1 1 5c0f 2f2a 1 1 5c22 2f2b 1 1 5c38 2f2c 1 1 5c6e 2f2d 1 1 5c71
      2f2e 1 1 5ddb 2f2f 1 1 5de5 2f30 1 1 5df1 2f31 1 1 5dfe 2f32 1 1 5e72 2f33 1 1 5e7a 2f34 1
      1 5e7f 2f35 1 1 5ef4 2f36 1 1 5efe 2f37 1 1 5f0b 2f38 1 1 5f13 2f39 1 1 5f50 2f3a 1 1 5f61
      2f3b 1 1 5f73 2f3c 1 1 5fc3 2f3d 1 1 6208 2f3e 1 1 6236 2f3f 1 1 624b 2f40 1 1 652f 2f41 1
      1 6534 2f42 1 1 6587 2f43 1 1 6597 2f44 1 1 65a4 2f45 1 1 65b9 2f46 1 1 65e0 2f47 1 1 65e5
      2f48 1 1 66f0 2f49 1 1 6708 2f4a 1 1 6728 2f4b 1 1 6b20 2f4c 1 1 6b62 2f4d 1 1 6b79 2f4e 1
      1 6bb3 2f4f 1 1 6bcb 2f50 1 1 6bd4 2f51 1 1 6bdb 2f52 1 1 6c0f 2f53 1 1 6c14 2f54 1 1 6c34
      2f55 1 1 706b 2f56 1 1 722a 2f57 1 1 7236 2f58 1 1 723b 2f59 1 1 723f 2f5a 1 1 7247 2f5b 1
      1 7259 2f5c 1 1 725b 2f5d 1 1 72ac 2f5e 1 1 7384 2f5f 1 1 7389 2f60 1 1 74dc 2f61 1 1 74e6
      2f62 1 1 7518 2f63 1 1 751f 2f64 1 1 7528 2f65 1 1 7530 2f66 1 1 758b 2f67 1 1 7592 2f68 1
      1 7676 2f69 1 1 767d 2f6a 1 1 76ae 2f6b 1 1 76bf 2f6c 1 1 76ee 2f6d 1 1 77db 2f6e 1 1 77e2
      2f6f 1 1 77f3 2f70 1 1 793a 2f71 1 1 79b8 2f72 1 1 79be 2f73 1 1 7a74 2f74 1 1 7acb 2f75 1
      1 7af9 2f76 1 1 7c73 2f77 1 1 7cf8 2f78 1 1 7f36 2f79 1 1 7f51 2f7a 1 1 7f8a 2f7b 1 1 7fbd
      2f7c 1 1 8001 2f7d 1 1 800c 2f7e 1 1 8012 2f7f 1 1 8033 2f80 1 1 807f 2f81 1 1 8089 2f82 1
      1 81e3 2f83 1 1 81ea 2f84 1 1 81f3 2f85 1 1 81fc 2f86 1 1 820c 2f87 1 1 821b 2f88 1 1 821f
      2f89 1 1 826e 2f8a 1 1 8272 2f8b 1 1 8278 2f8c 1 1 864d 2f8d 1 1 866b 2f8e 1 1 8840 2f8f 1
      1 884c 2f90 1 1 8863 2f91 1 1 897e 2f92 1 1 898b 2f93 1 1 89d2 2f94 1 1 8a00 2f95 1 1 8c37
      2f96 1 1 8c46 2f97 1 1 8c55 2f98 1 1 8c78 2f99 1 1 8c9d 2f9a 1 1 8d64 2f9b 1 1 8d70 2f9c 1
      1 8db3 2f9d 1 1 8eab 2f9e 1 1 8eca 2f9f 1 1 8f9b 2fa0 1 1 8fb0 2fa1 1 1 8fb5 2fa2 1 1 9091
      2fa3 1 1 9149 2fa4 1 1 91c6 2fa5 1 1 91cc 2fa6 1 1 91d1 2fa7 1 1 9577 2fa8 1 1 9580 2fa9 1
      1 961c 2faa 1 1 96b6 2fab 1 1 96b9 2fac 1 1 96e8 2fad 1 1 9751 2fae 1 1 975e 2faf 1 1 9762
      2fb0 1 1 9769 2fb1 1 1 97cb 2fb2 1 1 97ed 2fb3 1 1 97f3 2fb4 1 1 9801 2fb5 1 1 98a8 2fb6 1
      1 98db 2fb7 1 1 98df 2fb8 1 1 9996 2fb9 1 1 9999 2fba 1 1 99ac 2fbb 1 1 9aa8 2fbc 1 1 9ad8
      2fbd 1 1 9adf 2fbe 1 1 9b25 2fbf 1 1 9b2f 2fc0 1 1 9b32 2fc1 1 1 9b3c 2fc2 1 1 9b5a 2fc3 1
      1 9ce5 2fc4 1 1 9e75 2fc5 1 1 9e7f 2fc6 1 1 9ea5 2fc7 1 1 9ebb 2fc8 1 1 9ec3 2fc9 1 1 9ecd
      2fca 1 1 9ed1 2fcb 1 1 9ef9 2fcc 1 1 9efd 2fcd 1 1 9f0e 2fce 1 1 9f13 2fcf 1 1 9f20 2fd0 1
      1 9f3b 2fd1 1 1 9f4a 2fd2 1 1 9f52 2fd3 1 1 9f8d 2fd4 1 1 9f9c 2fd5 1 1 9fa0 2fd6 4 3000 1
      1 20 3001 0 3002 1 1 2e 3003 0 3036 1 1 3012 3037 0 3038 1 1 5341 3039 1 1 5344 303a 1 1
      5345 303b 0 3040 4 3041 0 3097 4 3099 0 309b 1 2 20 3099 309c 1 2 20 309a 309d 0 309f 1 2
      3088 308a 30a0 0 30ff 1 2 30b3 30c8 3100 4 3105 0 3130 4 3131 1 1 1100 3132 1 1 1101 3133
      1 1 11aa 3134 1 1 1102 3135 1 1 11ac 3136 1 1 11ad 3137 1 1 1103 3138 1 1 1104 3139 1 1
      1105 313a 1 1 11b0 313b 1 1 11b1 313c 1 1 11b2 313d 1 1 11b3 313e 1 1 11b4 313f 1 1 11b5
      3140 1 1 111a 3141 1 1 1106 3142 1 1 1107 3143 1 1 1108 3144 1 1 1121 3145 1 1 1109 3146 1
      1 110a 3147 1 1 110b 3148 1 1 110c 3149 1 1 110d 314a 1 1 110e 314b 1 1 110f 314c 1 1 1110
      314d 1 1 1111 314e 1 1 1112 314f 1 1 1161 3150 1 1 1162 3151 1 1 1163 3152 1 1 1164 3153 1
      1 1165 3154 1 1 1166 3155 1 1 1167 3156 1 1 1168 3157 1 1 1169 3158 1 1 116a 3159 1 1 116b
      315a 1 1 116c 315b 1 1 116d 315c 1 1 116e 315d 1 1 116f 315e 1 1 1170 315f 1 1 1171 3160 1
      1 1172 3161 1 1 1173 3162 1 1 1174 3163 1 1 1175 3164 3 3165 1 1 1114 3166 1 1 1115 3167 1
      1 11c7 3168 1 1 11c8 3169 1 1 11cc 316a 1 1 11ce 316b 1 1 11d3 316c 1 1 11d7 316d 1 1 11d9
      316e 1 1 111c 316f 1 1 11dd 3170 1 1 11df 3171 1 1 111d 3172 1 1 111e 3173 1 1 1120 3174 1
      1 1122 3175 1 1 1123 3176 1 1 1127 3177 1 1 1129 3178 1 1 112b 3179 1 1 112c 317a 1 1 112d
      317b 1 1 112e 317c 1 1 112f 317d 1 1 1132 317e 1 1 1136 317f 1 1 1140 3180 1 1 1147 3181 1
      1 114c 3182 1 1 11f1 3183 1 1 11f2 3184 1 1 1157 3185 1 1 1158 3186 1 1 1159 3187 1 1 1184
      3188 1 1 1185 3189 1 1 1188 318a 1 1 1191 318b 1 1 1192 318c 1 1 1194 318d 1 1 119e 318e 1
      1 11a1 318f 4 3190 0 3192 1 1 4e00 3193 1 1 4e8c 3194 1 1 4e09 3195 1 1 56db 3196 1 1 4e0a
      3197 1 1 4e2d 3198 1 1 4e0b 3199 1 1 7532 319a 1 1 4e59 319b 1 1 4e19 319c 1 1 4e01 319d 1
      1 5929 319e 1 1 5730 319f 1 1 4eba 31a0 0 31e6 4 31f0 0 3200 1 3 28 1100 29 3201 1 3 28
      1102 29 3202 1 3 28 1103 29 3203 1 3 28 1105 29 3204 1 3 28 1106 29 3205 1 3 28 1107 29
      3206 1 3 28 1109 29 3207 1 3 28 110b 29 3208 1 3 28 110c 29 3209 1 3 28 110e 29 320a 1 3
      28 110f 29 320b 1 3 28 1110 29 320c 1 3 28 1111 29 320d 1 3 28 1112 29 320e 1 3 28 ac00 29
      320f 1 3 28 b098 29 3210 1 3 28 b2e4 29 3211 1 3 28 b77c 29 3212 1 3 28 b9c8 29 3213 1 3
      28 bc14 29 3214 1 3 28 c0ac 29 3215 1 3 28 c544 29 3216 1 3 28 c790 29 3217 1 3 28 cc28 29
      3218 1 3 28 ce74 29 3219 1 3 28 d0c0 29 321a 1 3 28 d30c 29 321b 1 3 28 d558 29 321c 1 3
      28 c8fc 29 321d 1 4 28 c624 c804 29 321e 1 4 28 c624 d6c4 29 321f 4 3220 1 3 28 4e00 29
      3221 1 3 28 4e8c 29 3222 1 3 28 4e09 29 3223 1 3 28 56db 29 3224 1 3 28 4e94 29 3225 1 3
      28 516d 29 3226 1 3 28 4e03 29 3227 1 3 28 516b 29 3228 1 3 28 4e5d 29 3229 1 3 28 5341 29
      322a 1 3 28 6708 29 322b 1 3 28 706b 29 322c 1 3 28 6c34 29 322d 1 3 28 6728 29 322e 1 3
      28 91d1 29 322f 1 3 28 571f 29 3230 1 3 28 65e5 29 3231 1 3 28 682a 29 3232 1 3 28 6709 29
      3233 1 3 28 793e 29 3234 1 3 28 540d 29 3235 1 3 28 7279 29 3236 1 3 28 8ca1 29 3237 1 3
      28 795d 29 3238 1 3 28 52b4 29 3239 1 3 28 4ee3 29 323a 1 3 28 547c 29 323b 1 3 28 5b66 29
      323c 1 3 28 76e3 29 323d 1 3 28 4f01 29 323e 1 3 28 8cc7 29 323f 1 3 28 5354 29 3240 1 3
      28 796d 29 3241 1 3 28 4f11 29 3242 1 3 28 81ea 29 3243 1 3 28 81f3 29 3244 1 1 554f 3245
      1 1 5e7c 3246 1 1 6587 3247 1 1 7b8f 3248 0 3250 1 3 70 74 65 3251 1 2 32 31 3252 1 2 32
      32 3253 1 2 32 33 3254 1 2 32 34 3255 1 2 32 35 3256 1 2 32 36 3257 1 2 32 37 3258 1 2 32
      38 3259 1 2 32 39 325a 1 2 33 30 325b 1 2 33 31 325c 1 2 33 32 325d 1 2 33 33 325e 1 2 33
      34 325f 1 2 33 35 3260 1 1 1100 3261 1 1 1102 3262 1 1 1103 3263 1 1 1105 3264 1 1 1106
      3265 1 1 1107 3266 1 1 1109 3267 1 1 110b 3268 1 1 110c 3269 1 1 110e 326a 1 1 110f 326b 1
      1 1110 326c 1 1 1111 326d 1 1 1112 326e 1 1 ac00 326f 1 1 b098 3270 1 1 b2e4 3271 1 1 b77c
      3272 1 1 b9c8 3273 1 1 bc14 3274 1 1 c0ac 3275 1 1 c544 3276 1 1 c790 3277 1 1 cc28 3278 1
      1 ce74 3279 1 1 d0c0 327a 1 1 d30c 327b 1 1 d558 327c 1 2 cc38 ace0 327d 1 2 c8fc c758
      327e 1 1 c6b0 327f 0 3280 1 1 4e00 3281 1 1 4e8c 3282 1 1 4e09 3283 1 1 56db 3284 1 1 4e94
      3285 1 1 516d 3286 1 1 4e03 3287 1 1 516b 3288 1 1 4e5d 3289 1 1 5341 328a 1 1 6708 328b 1
      1 706b 328c 1 1 6c34 328d 1 1 6728 328e 1 1 91d1 328f 1 1 571f 3290 1 1 65e5 3291 1 1 682a
      3292 1 1 6709 3293 1 1 793e 3294 1 1 540d 3295 1 1 7279 3296 1 1 8ca1 3297 1 1 795d 3298 1
      1 52b4 3299 1 1 79d8 329a 1 1 7537 329b 1 1 5973 329c 1 1 9069 329d 1 1 512a 329e 1 1 5370
      329f 1 1 6ce8 32a0 1 1 9805 32a1 1 1 4f11 32a2 1 1 5199 32a3 1 1 6b63 32a4 1 1 4e0a 32a5 1
      1 4e2d 32a6 1 1 4e0b 32a7 1 1 5de6 32a8 1 1 53f3 32a9 1 1 533b 32aa 1 1 5b97 32ab 1 1 5b66
      32ac 1 1 76e3 32ad 1 1 4f01 32ae 1 1 8cc7 32af 1 1 5354 32b0 1 1 591c 32b1 1 2 33 36 32b2
      1 2 33 37 32b3 1 2 33 38 32b4 1 2 33 39 32b5 1 2 34 30 32b6 1 2 34 31 32b7 1 2 34 32 32b8
      1 2 34 33 32b9 1 2 34 34 32ba 1 2 34 35 32bb 1 2 34 36 32bc 1 2 34 37 32bd 1 2 34 38 32be
      1 2 34 39 32bf 1 2 35 30 32c0 1 2 31 6708 32c1 1 2 32 6708 32c2 1 2 33 6708 32c3 1 2 34
      6708 32c4 1 2 35 6708 32c5 1 2 36 6708 32c6 1 2 37 6708 32c7 1 2 38 6708 32c8 1 2 39 6708
      32c9 1 3 31 30 6708 32ca 1 3 31 31 6708 32cb 1 3 31 32 6708 32cc 1 2 68 67 32cd 1 3 65 72
      67 32ce 1 2 65 76 32cf 1 3 6c 74 64 32d0 1 1 30a2 32d1 1 1 30a4 32d2 1 1 30a6 32d3 1 1
      30a8 32d4 1 1 30aa 32d5 1 1 30ab 32d6 1 1 30ad 32d7 1 1 30af 32d8 1 1 30b1 32d9 1 1 30b3
      32da 1 1 30b5 32db 1 1 30b7 32dc 1 1 30b9 32dd 1 1 30bb 32de 1 1 30bd 32df 1 1 30bf 32e0 1
      1 30c1 32e1 1 1 30c4 32e2 1 1 30c6 32e3 1 1 30c8 32e4 1 1 30ca 32e5 1 1 30cb 32e6 1 1 30cc
      32e7 1 1 30cd 32e8 1 1 30ce 32e9 1 1 30cf 32ea 1 1 30d2 32eb 1 1 30d5 32ec 1 1 30d8 32ed 1
      1 30db 32ee 1 1 30de 32ef 1 1 30df 32f0 1 1 30e0 32f1 1 1 30e1 32f2 1 1 30e2 32f3 1 1 30e4
      32f4 1 1 30e6 32f5 1 1 30e8 32f6 1 1 30e9 32f7 1 1 30ea 32f8 1 1 30eb 32f9 1 1 30ec 32fa 1
      1 30ed 32fb 1 1 30ef 32fc 1 1 30f0 32fd 1 1 30f1 32fe 1 1 30f2 32ff 1 2 4ee4 548c 3300 1 4
      30a2 30d1 30fc 30c8 3301 1 4 30a2 30eb 30d5 30a1 3302 1 4 30a2 30f3 30da 30a2 3303 1 3
      30a2 30fc 30eb 3304 1 4 30a4 30cb 30f3 30b0 3305 1 3 30a4 30f3 30c1 3306 1 3 30a6 30a9
      30f3 3307 1 5 30a8 30b9 30af 30fc 30c9 3308 1 4 30a8 30fc 30ab 30fc 3309 1 3 30aa 30f3
      30b9 330a 1 3 30aa 30fc 30e0 330b 1 3 30ab 30a4 30ea 330c 1 4 30ab 30e9 30c3 30c8 330d 1 4
      30ab 30ed 30ea 30fc 330e 1 3 30ac 30ed 30f3 330f 1 3 30ac 30f3 30de 3310 1 2 30ae 30ac
      3311 1 3 30ae 30cb 30fc 3312 1 4 30ad 30e5 30ea 30fc 3313 1 4 30ae 30eb 30c0 30fc 3314 1 2
      30ad 30ed 3315 1 5 30ad 30ed 30b0 30e9 30e0 3316 1 6 30ad 30ed 30e1 30fc 30c8 30eb 3317 1
      5 30ad 30ed 30ef 30c3 30c8 3318 1 3 30b0 30e9 30e0 3319 1 5 30b0 30e9 30e0 30c8 30f3 331a
      1 5 30af 30eb 30bc 30a4 30ed 331b 1 4 30af 30ed 30fc 30cd 331c 1 3 30b1 30fc 30b9 331d 1 3
      30b3 30eb 30ca 331e 1 3 30b3 30fc 30dd 331f 1 4 30b5 30a4 30af 30eb 3320 1 5 30b5 30f3
      30c1 30fc 30e0 3321 1 4 30b7 30ea 30f3 30b0 3322 1 3 30bb 30f3 30c1 3323 1 3 30bb 30f3
      30c8 3324 1 3 30c0 30fc 30b9 3325 1 2 30c7 30b7 3326 1 2 30c9 30eb 3327 1 2 30c8 30f3 3328
      1 2 30ca 30ce 3329 1 3 30ce 30c3 30c8 332a 1 3 30cf 30a4 30c4 332b 1 5 30d1 30fc 30bb 30f3
      30c8 332c 1 3 30d1 30fc 30c4 332d 1 4 30d0 30fc 30ec 30eb 332e 1 5 30d4 30a2 30b9 30c8
      30eb 332f 1 3 30d4 30af 30eb 3330 1 2 30d4 30b3 3331 1 2 30d3 30eb 3332 1 5 30d5 30a1 30e9
      30c3 30c9 3333 1 4 30d5 30a3 30fc 30c8 3334 1 5 30d6 30c3 30b7 30a7 30eb 3335 1 3 30d5
      30e9 30f3 3336 1 5 30d8 30af 30bf 30fc 30eb 3337 1 2 30da 30bd 3338 1 3 30da 30cb 30d2
      3339 1 3 30d8 30eb 30c4 333a 1 3 30da 30f3 30b9 333b 1 3 30da 30fc 30b8 333c 1 3 30d9 30fc
      30bf 333d 1 4 30dd 30a4 30f3 30c8 333e 1 3 30dc 30eb 30c8 333f 1 2 30db 30f3 3340 1 3 30dd
      30f3 30c9 3341 1 3 30db 30fc 30eb 3342 1 3 30db 30fc 30f3 3343 1 4 30de 30a4 30af 30ed
      3344 1 3 30de 30a4 30eb 3345 1 3 30de 30c3 30cf 3346 1 3 30de 30eb 30af 3347 1 5 30de 30f3
      30b7 30e7 30f3 3348 1 4 30df 30af 30ed 30f3 3349 1 2 30df 30ea 334a 1 5 30df 30ea 30d0
      30fc 30eb 334b 1 2 30e1 30ac 334c 1 4 30e1 30ac 30c8 30f3 334d 1 4 30e1 30fc 30c8 30eb
      334e 1 3 30e4 30fc 30c9 334f 1 3 30e4 30fc 30eb 3350 1 3 30e6 30a2 30f3 3351 1 4 30ea 30c3
      30c8 30eb 3352 1 2 30ea 30e9 3353 1 3 30eb 30d4 30fc 3354 1 4 30eb 30fc 30d6 30eb 3355 1 2
      30ec 30e0 3356 1 5 30ec 30f3 30c8 30b2 30f3 3357 1 3 30ef 30c3 30c8 3358 1 2 30 70b9 3359
      1 2 31 70b9 335a 1 2 32 70b9 335b 1 2 33 70b9 335c 1 2 34 70b9 335d 1 2 35 70b9 335e 1 2
      36 70b9 335f 1 2 37 70b9 3360 1 2 38 70b9 3361 1 2 39 70b9 3362 1 3 31 30 70b9 3363 1 3 31
      31 70b9 3364 1 3 31 32 70b9 3365 1 3 31 33 70b9 3366 1 3 31 34 70b9 3367 1 3 31 35 70b9
      3368 1 3 31 36 70b9 3369 1 3 31 37 70b9 336a 1 3 31 38 70b9 336b 1 3 31 39 70b9 336c 1 3
      32 30 70b9 336d 1 3 32 31 70b9 336e 1 3 32 32 70b9 336f 1 3 32 33 70b9 3370 1 3 32 34 70b9
      3371 1 3 68 70 61 3372 1 2 64 61 3373 1 2 61 75 3374 1 3 62 61 72 3375 1 2 6f 76 3376 1 2
      70 63 3377 1 2 64 6d 3378 1 3 64 6d 32 3379 1 3 64 6d 33 337a 1 2 69 75 337b 1 2 5e73 6210
      337c 1 2 662d 548c 337d 1 2 5927 6b63 337e 1 2 660e 6cbb 337f 1 4 682a 5f0f 4f1a 793e 3380
      1 2 70 61 3381 1 2 6e 61 3382 1 2 3bc 61 3383 1 2 6d 61 3384 1 2 6b 61 3385 1 2 6b 62 3386
      1 2 6d 62 3387 1 2 67 62 3388 1 3 63 61 6c 3389 1 4 6b 63 61 6c 338a 1 2 70 66 338b 1 2 6e
      66 338c 1 2 3bc 66 338d 1 2 3bc 67 338e 1 2 6d 67 338f 1 2 6b 67 3390 1 2 68 7a 3391 1 3
      6b 68 7a 3392 1 3 6d 68 7a 3393 1 3 67 68 7a 3394 1 3 74 68 7a 3395 1 2 3bc 6c 3396 1 2 6d
      6c 3397 1 2 64 6c 3398 1 2 6b 6c 3399 1 2 66 6d 339a 1 2 6e 6d 339b 1 2 3bc 6d 339c 1 2 6d
      6d 339d 1 2 63 6d 339e 1 2 6b 6d 339f 1 3 6d 6d 32 33a0 1 3 63 6d 32 33a1 1 2 6d 32 33a2 1
      3 6b 6d 32 33a3 1 3 6d 6d 33 33a4 1 3 63 6d 33 33a5 1 2 6d 33 33a6 1 3 6b 6d 33 33a7 1 3
      6d 2215 73 33a8 1 4 6d 2215 73 32 33a9 1 2 70 61 33aa 1 3 6b 70 61 33ab 1 3 6d 70 61 33ac
      1 3 67 70 61 33ad 1 3 72 61 64 33ae 1 5 72 61 64 2215 73 33af 1 6 72 61 64 2215 73 32 33b0
      1 2 70 73 33b1 1 2 6e 73 33b2 1 2 3bc 73 33b3 1 2 6d 73 33b4 1 2 70 76 33b5 1 2 6e 76 33b6
      1 2 3bc 76 33b7 1 2 6d 76 33b8 1 2 6b 76 33b9 1 2 6d 76 33ba 1 2 70 77 33bb 1 2 6e 77 33bc
      1 2 3bc 77 33bd 1 2 6d 77 33be 1 2 6b 77 33bf 1 2 6d 77 33c0 1 2 6b 3c9 33c1 1 2 6d 3c9
      33c2 4 33c3 1 2 62 71 33c4 1 2 63 63 33c5 1 2 63 64 33c6 1 4 63 2215 6b 67 33c7 4 33c8 1 2
      64 62 33c9 1 2 67 79 33ca 1 2 68 61 33cb 1 2 68 70 33cc 1 2 69 6e 33cd 1 2 6b 6b 33ce 1 2
      6b 6d 33cf 1 2 6b 74 33d0 1 2 6c 6d 33d1 1 2 6c 6e 33d2 1 3 6c 6f 67 33d3 1 2 6c 78 33d4 1
      2 6d 62 33d5 1 3 6d 69 6c 33d6 1 3 6d 6f 6c 33d7 1 2 70 68 33d8 4 33d9 1 3 70 70 6d 33da 1
      2 70 72 33db 1 2 73 72 33dc 1 2 73 76 33dd 1 2 77 62 33de 1 3 76 2215 6d 33df 1 3 61 2215
      6d 33e0 1 2 31 65e5 33e1 1 2 32 65e5 33e2 1 2 33 65e5 33e3 1 2 34 65e5 33e4 1 2 35 65e5
      33e5 1 2 36 65e5 33e6 1 2 37 65e5 33e7 1 2 38 65e5 33e8 1 2 39 65e5 33e9 1 3 31 30 65e5
      33ea 1 3 31 31 65e5 33eb 1 3 31 32 65e5 33ec 1 3 31 33 65e5 33ed 1 3 31 34 65e5 33ee 1 3
      31 35 65e5 33ef 1 3 31 36 65e5 33f0 1 3 31 37 65e5 33f1 1 3 31 38 65e5 33f2 1 3 31 39 65e5
      33f3 1 3 32 30 65e5 33f4 1 3 32 31 65e5 33f5 1 3 32 32 65e5 33f6 1 3 32 33 65e5 33f7 1 3
      32 34 65e5 33f8 1 3 32 35 65e5 33f9 1 3 32 36 65e5 33fa 1 3 32 37 65e5 33fb 1 3 32 38 65e5
      33fc 1 3 32 39 65e5 33fd 1 3 33 30 65e5 33fe 1 3 33 31 65e5 33ff 1 3 67 61 6c 3400 0 a48d
      4 a490 0 a4c7 4 a4d0 0 a62c 4 a640 1 1 a641 a641 0 a642 1 1 a643 a643 0 a644 1 1 a645 a645
      0 a646 1 1 a647 a647 0 a648 1 1 a649 a649 0 a64a 1 1 a64b a64b 0 a64c 1 1 a64d a64d 0 a64e
      1 1 a64f a64f 0 a650 1 1 a651 a651 0 a652 1 1 a653 a653 0 a654 1 1 a655 a655 0 a656 1 1
      a657 a657 0 a658 1 1 a659 a659 0 a65a 1 1 a65b a65b 0 a65c 1 1 a65d a65d 0 a65e 1 1 a65f
      a65f 0 a660 1 1 a661 a661 0 a662 1 1 a663 a663 0 a664 1 1 a665 a665 0 a666 1 1 a667 a667 0
      a668 1 1 a669 a669 0 a66a 1 1 a66b a66b 0 a66c 1 1 a66d a66d 0 a680 1 1 a681 a681 0 a682 1
      1 a683 a683 0 a684 1 1 a685 a685 0 a686 1 1 a687 a687 0 a688 1 1 a689 a689 0 a68a 1 1 a68b
      a68b 0 a68c 1 1 a68d a68d 0 a68e 1 1 a68f a68f 0 a690 1 1 a691 a691 0 a692 1 1 a693 a693 0
      a694 1 1 a695 a695 0 a696 1 1 a697 a697 0 a698 1 1 a699 a699 0 a69a 1 1 a69b a69b 0 a69c 1
      1 44a a69d 1 1 44c a69e 0 a6f8 4 a700 0 a722 1 1 a723 a723 0 a724 1 1 a725 a725 0 a726 1 1
      a727 a727 0 a728 1 1 a729 a729 0 a72a 1 1 a72b a72b 0 a72c 1 1 a72d a72d 0 a72e 1 1 a72f
      a72f 0 a732 1 1 a733 a733 0 a734 1 1 a735 a735 0 a736 1 1 a737 a737 0 a738 1 1 a739 a739 0
      a73a 1 1 a73b a73b 0 a73c 1 1 a73d a73d 0 a73e 1 1 a73f a73f 0 a740 1 1 a741 a741 0 a742 1
      1 a743 a743 0 a744 1 1 a745 a745 0 a746 1 1 a747 a747 0 a748 1 1 a749 a749 0 a74a 1 1 a74b
      a74b 0 a74c 1 1 a74d a74d 0 a74e 1 1 a74f a74f 0 a750 1 1 a751 a751 0 a752 1 1 a753 a753 0
      a754 1 1 a755 a755 0 a756 1 1 a757 a757 0 a758 1 1 a759 a759 0 a75a 1 1 a75b a75b 0 a75c 1
      1 a75d a75d 0 a75e 1 1 a75f a75f 0 a760 1 1 a761 a761 0 a762 1 1 a763 a763 0 a764 1 1 a765
      a765 0 a766 1 1 a767 a767 0 a768 1 1 a769 a769 0 a76a 1 1 a76b a76b 0 a76c 1 1 a76d a76d 0
      a76e 1 1 a76f a76f 0 a770 1 1 a76f a771 0 a779 1 1 a77a a77a 0 a77b 1 1 a77c a77c 0 a77d 1
      1 1d79 a77e 1 1 a77f a77f 0 a780 1 1 a781 a781 0 a782 1 1 a783 a783 0 a784 1 1 a785 a785 0
      a786 1 1 a787 a787 0 a78b 1 1 a78c a78c 0 a78d 1 1 265 a78e 0 a790 1 1 a791 a791 0 a792 1
      1 a793 a793 0 a796 1 1 a797 a797 0 a798 1 1 a799 a799 0 a79a 1 1 a79b a79b 0 a79c 1 1 a79d
      a79d 0 a79e 1 1 a79f a79f 0 a7a0 1 1 a7a1 a7a1 0 a7a2 1 1 a7a3 a7a3 0 a7a4 1 1 a7a5 a7a5 0
      a7a6 1 1 a7a7 a7a7 0 a7a8 1 1 a7a9 a7a9 0 a7aa 1 1 266 a7ab 1 1 25c a7ac 1 1 261 a7ad 1 1
      26c a7ae 1 1 26a a7af 0 a7b0 1 1 29e a7b1 1 1 287 a7b2 1 1 29d a7b3 1 1 ab53 a7b4 1 1 a7b5
      a7b5 0 a7b6 1 1 a7b7 a7b7 0 a7b8 1 1 a7b9 a7b9 0 a7ba 1 1 a7bb a7bb 0 a7bc 1 1 a7bd a7bd 0
      a7be 1 1 a7bf a7bf 0 a7c0 1 1 a7c1 a7c1 0 a7c2 1 1 a7c3 a7c3 0 a7c4 1 1 a794 a7c5 1 1 282
      a7c6 1 1 1d8e a7c7 1 1 a7c8 a7c8 0 a7c9 1 1 a7ca a7ca 0 a7cb 1 1 264 a7cc 1 1 a7cd a7cd 0
      a7ce 1 1 a7cf a7cf 0 a7d0 1 1 a7d1 a7d1 0 a7d2 1 1 a7d3 a7d3 0 a7d4 1 1 a7d5 a7d5 0 a7d6 1
      1 a7d7 a7d7 0 a7d8 1 1 a7d9 a7d9 0 a7da 1 1 a7db a7db 0 a7dc 1 1 19b a7dd 4 a7f1 1 1 73
      a7f2 1 1 63 a7f3 1 1 66 a7f4 1 1 71 a7f5 1 1 a7f6 a7f6 0 a7f8 1 1 127 a7f9 1 1 153 a7fa 0
      a82d 4 a830 0 a83a 4 a840 0 a878 4 a880 0 a8c6 4 a8ce 0 a8da 4 a8e0 0 a954 4 a95f 0 a97d 4
      a980 0 a9ce 4 a9cf 0 a9da 4 a9de 0 a9ff 4 aa00 0 aa37 4 aa40 0 aa4e 4 aa50 0 aa5a 4 aa5c 0
      aac3 4 aadb 0 aaf7 4 ab01 0 ab07 4 ab09 0 ab0f 4 ab11 0 ab17 4 ab20 0 ab27 4 ab28 0 ab2f 4
      ab30 0 ab5c 1 1 a727 ab5d 1 1 ab37 ab5e 1 1 26b ab5f 1 1 ab52 ab60 0 ab69 1 1 28d ab6a 0
      ab6c 4 ab70 1 1 13a0 ab71 1 1 13a1 ab72 1 1 13a2 ab73 1 1 13a3 ab74 1 1 13a4 ab75 1 1 13a5
      ab76 1 1 13a6 ab77 1 1 13a7 ab78 1 1 13a8 ab79 1 1 13a9 ab7a 1 1 13aa ab7b 1 1 13ab ab7c 1
      1 13ac ab7d 1 1 13ad ab7e 1 1 13ae ab7f 1 1 13af ab80 1 1 13b0 ab81 1 1 13b1 ab82 1 1 13b2
      ab83 1 1 13b3 ab84 1 1 13b4 ab85 1 1 13b5 ab86 1 1 13b6 ab87 1 1 13b7 ab88 1 1 13b8 ab89 1
      1 13b9 ab8a 1 1 13ba ab8b 1 1 13bb ab8c 1 1 13bc ab8d 1 1 13bd ab8e 1 1 13be ab8f 1 1 13bf
      ab90 1 1 13c0 ab91 1 1 13c1 ab92 1 1 13c2 ab93 1 1 13c3 ab94 1 1 13c4 ab95 1 1 13c5 ab96 1
      1 13c6 ab97 1 1 13c7 ab98 1 1 13c8 ab99 1 1 13c9 ab9a 1 1 13ca ab9b 1 1 13cb ab9c 1 1 13cc
      ab9d 1 1 13cd ab9e 1 1 13ce ab9f 1 1 13cf aba0 1 1 13d0 aba1 1 1 13d1 aba2 1 1 13d2 aba3 1
      1 13d3 aba4 1 1 13d4 aba5 1 1 13d5 aba6 1 1 13d6 aba7 1 1 13d7 aba8 1 1 13d8 aba9 1 1 13d9
      abaa 1 1 13da abab 1 1 13db abac 1 1 13dc abad 1 1 13dd abae 1 1 13de abaf 1 1 13df abb0 1
      1 13e0 abb1 1 1 13e1 abb2 1 1 13e2 abb3 1 1 13e3 abb4 1 1 13e4 abb5 1 1 13e5 abb6 1 1 13e6
      abb7 1 1 13e7 abb8 1 1 13e8 abb9 1 1 13e9 abba 1 1 13ea abbb 1 1 13eb abbc 1 1 13ec abbd 1
      1 13ed abbe 1 1 13ee abbf 1 1 13ef abc0 0 abee 4 abf0 0 abfa 4 ac00 0 d7a4 4 d7b0 0 d7c7 4
      d7cb 0 d7fc 4 f900 1 1 8c48 f901 1 1 66f4 f902 1 1 8eca f903 1 1 8cc8 f904 1 1 6ed1 f905 1
      1 4e32 f906 1 1 53e5 f907 1 1 9f9c f909 1 1 5951 f90a 1 1 91d1 f90b 1 1 5587 f90c 1 1 5948
      f90d 1 1 61f6 f90e 1 1 7669 f90f 1 1 7f85 f910 1 1 863f f911 1 1 87ba f912 1 1 88f8 f913 1
      1 908f f914 1 1 6a02 f915 1 1 6d1b f916 1 1 70d9 f917 1 1 73de f918 1 1 843d f919 1 1 916a
      f91a 1 1 99f1 f91b 1 1 4e82 f91c 1 1 5375 f91d 1 1 6b04 f91e 1 1 721b f91f 1 1 862d f920 1
      1 9e1e f921 1 1 5d50 f922 1 1 6feb f923 1 1 85cd f924 1 1 8964 f925 1 1 62c9 f926 1 1 81d8
      f927 1 1 881f f928 1 1 5eca f929 1 1 6717 f92a 1 1 6d6a f92b 1 1 72fc f92c 1 1 90ce f92d 1
      1 4f86 f92e 1 1 51b7 f92f 1 1 52de f930 1 1 64c4 f931 1 1 6ad3 f932 1 1 7210 f933 1 1 76e7
      f934 1 1 8001 f935 1 1 8606 f936 1 1 865c f937 1 1 8def f938 1 1 9732 f939 1 1 9b6f f93a 1
      1 9dfa f93b 1 1 788c f93c 1 1 797f f93d 1 1 7da0 f93e 1 1 83c9 f93f 1 1 9304 f940 1 1 9e7f
      f941 1 1 8ad6 f942 1 1 58df f943 1 1 5f04 f944 1 1 7c60 f945 1 1 807e f946 1 1 7262 f947 1
      1 78ca f948 1 1 8cc2 f949 1 1 96f7 f94a 1 1 58d8 f94b 1 1 5c62 f94c 1 1 6a13 f94d 1 1 6dda
      f94e 1 1 6f0f f94f 1 1 7d2f f950 1 1 7e37 f951 1 1 964b f952 1 1 52d2 f953 1 1 808b f954 1
      1 51dc f955 1 1 51cc f956 1 1 7a1c f957 1 1 7dbe f958 1 1 83f1 f959 1 1 9675 f95a 1 1 8b80
      f95b 1 1 62cf f95c 1 1 6a02 f95d 1 1 8afe f95e 1 1 4e39 f95f 1 1 5be7 f960 1 1 6012 f961 1
      1 7387 f962 1 1 7570 f963 1 1 5317 f964 1 1 78fb f965 1 1 4fbf f966 1 1 5fa9 f967 1 1 4e0d
      f968 1 1 6ccc f969 1 1 6578 f96a 1 1 7d22 f96b 1 1 53c3 f96c 1 1 585e f96d 1 1 7701 f96e 1
      1 8449 f96f 1 1 8aaa f970 1 1 6bba f971 1 1 8fb0 f972 1 1 6c88 f973 1 1 62fe f974 1 1 82e5
      f975 1 1 63a0 f976 1 1 7565 f977 1 1 4eae f978 1 1 5169 f979 1 1 51c9 f97a 1 1 6881 f97b 1
      1 7ce7 f97c 1 1 826f f97d 1 1 8ad2 f97e 1 1 91cf f97f 1 1 52f5 f980 1 1 5442 f981 1 1 5973
      f982 1 1 5eec f983 1 1 65c5 f984 1 1 6ffe f985 1 1 792a f986 1 1 95ad f987 1 1 9a6a f988 1
      1 9e97 f989 1 1 9ece f98a 1 1 529b f98b 1 1 66c6 f98c 1 1 6b77 f98d 1 1 8f62 f98e 1 1 5e74
      f98f 1 1 6190 f990 1 1 6200 f991 1 1 649a f992 1 1 6f23 f993 1 1 7149 f994 1 1 7489 f995 1
      1 79ca f996 1 1 7df4 f997 1 1 806f f998 1 1 8f26 f999 1 1 84ee f99a 1 1 9023 f99b 1 1 934a
      f99c 1 1 5217 f99d 1 1 52a3 f99e 1 1 54bd f99f 1 1 70c8 f9a0 1 1 88c2 f9a1 1 1 8aaa f9a2 1
      1 5ec9 f9a3 1 1 5ff5 f9a4 1 1 637b f9a5 1 1 6bae f9a6 1 1 7c3e f9a7 1 1 7375 f9a8 1 1 4ee4
      f9a9 1 1 56f9 f9aa 1 1 5be7 f9ab 1 1 5dba f9ac 1 1 601c f9ad 1 1 73b2 f9ae 1 1 7469 f9af 1
      1 7f9a f9b0 1 1 8046 f9b1 1 1 9234 f9b2 1 1 96f6 f9b3 1 1 9748 f9b4 1 1 9818 f9b5 1 1 4f8b
      f9b6 1 1 79ae f9b7 1 1 91b4 f9b8 1 1 96b8 f9b9 1 1 60e1 f9ba 1 1 4e86 f9bb 1 1 50da f9bc 1
      1 5bee f9bd 1 1 5c3f f9be 1 1 6599 f9bf 1 1 6a02 f9c0 1 1 71ce f9c1 1 1 7642 f9c2 1 1 84fc
      f9c3 1 1 907c f9c4 1 1 9f8d f9c5 1 1 6688 f9c6 1 1 962e f9c7 1 1 5289 f9c8 1 1 677b f9c9 1
      1 67f3 f9ca 1 1 6d41 f9cb 1 1 6e9c f9cc 1 1 7409 f9cd 1 1 7559 f9ce 1 1 786b f9cf 1 1 7d10
      f9d0 1 1 985e f9d1 1 1 516d f9d2 1 1 622e f9d3 1 1 9678 f9d4 1 1 502b f9d5 1 1 5d19 f9d6 1
      1 6dea f9d7 1 1 8f2a f9d8 1 1 5f8b f9d9 1 1 6144 f9da 1 1 6817 f9db 1 1 7387 f9dc 1 1 9686
      f9dd 1 1 5229 f9de 1 1 540f f9df 1 1 5c65 f9e0 1 1 6613 f9e1 1 1 674e f9e2 1 1 68a8 f9e3 1
      1 6ce5 f9e4 1 1 7406 f9e5 1 1 75e2 f9e6 1 1 7f79 f9e7 1 1 88cf f9e8 1 1 88e1 f9e9 1 1 91cc
      f9ea 1 1 96e2 f9eb 1 1 533f f9ec 1 1 6eba f9ed 1 1 541d f9ee 1 1 71d0 f9ef 1 1 7498 f9f0 1
      1 85fa f9f1 1 1 96a3 f9f2 1 1 9c57 f9f3 1 1 9e9f f9f4 1 1 6797 f9f5 1 1 6dcb f9f6 1 1 81e8
      f9f7 1 1 7acb f9f8 1 1 7b20 f9f9 1 1 7c92 f9fa 1 1 72c0 f9fb 1 1 7099 f9fc 1 1 8b58 f9fd 1
      1 4ec0 f9fe 1 1 8336 f9ff 1 1 523a fa00 1 1 5207 fa01 1 1 5ea6 fa02 1 1 62d3 fa03 1 1 7cd6
      fa04 1 1 5b85 fa05 1 1 6d1e fa06 1 1 66b4 fa07 1 1 8f3b fa08 1 1 884c fa09 1 1 964d fa0a 1
      1 898b fa0b 1 1 5ed3 fa0c 1 1 5140 fa0d 1 1 55c0 fa0e 0 fa10 1 1 585a fa11 0 fa12 1 1 6674
      fa13 0 fa15 1 1 51de fa16 1 1 732a fa17 1 1 76ca fa18 1 1 793c fa19 1 1 795e fa1a 1 1 7965
      fa1b 1 1 798f fa1c 1 1 9756 fa1d 1 1 7cbe fa1e 1 1 7fbd fa1f 0 fa20 1 1 8612 fa21 0 fa22 1
      1 8af8 fa23 0 fa25 1 1 9038 fa26 1 1 90fd fa27 0 fa2a 1 1 98ef fa2b 1 1 98fc fa2c 1 1 9928
      fa2d 1 1 9db4 fa2e 1 1 90de fa2f 1 1 96b7 fa30 1 1 4fae fa31 1 1 50e7 fa32 1 1 514d fa33 1
      1 52c9 fa34 1 1 52e4 fa35 1 1 5351 fa36 1 1 559d fa37 1 1 5606 fa38 1 1 5668 fa39 1 1 5840
      fa3a 1 1 58a8 fa3b 1 1 5c64 fa3c 1 1 5c6e fa3d 1 1 6094 fa3e 1 1 6168 fa3f 1 1 618e fa40 1
      1 61f2 fa41 1 1 654f fa42 1 1 65e2 fa43 1 1 6691 fa44 1 1 6885 fa45 1 1 6d77 fa46 1 1 6e1a
      fa47 1 1 6f22 fa48 1 1 716e fa49 1 1 722b fa4a 1 1 7422 fa4b 1 1 7891 fa4c 1 1 793e fa4d 1
      1 7949 fa4e 1 1 7948 fa4f 1 1 7950 fa50 1 1 7956 fa51 1 1 795d fa52 1 1 798d fa53 1 1 798e
      fa54 1 1 7a40 fa55 1 1 7a81 fa56 1 1 7bc0 fa57 1 1 7df4 fa58 1 1 7e09 fa59 1 1 7e41 fa5a 1
      1 7f72 fa5b 1 1 8005 fa5c 1 1 81ed fa5d 1 1 8279 fa5f 1 1 8457 fa60 1 1 8910 fa61 1 1 8996
      fa62 1 1 8b01 fa63 1 1 8b39 fa64 1 1 8cd3 fa65 1 1 8d08 fa66 1 1 8fb6 fa67 1 1 9038 fa68 1
      1 96e3 fa69 1 1 97ff fa6a 1 1 983b fa6b 1 1 6075 fa6c 1 1 242ee fa6d 1 1 8218 fa6e 4 fa70
      1 1 4e26 fa71 1 1 51b5 fa72 1 1 5168 fa73 1 1 4f80 fa74 1 1 5145 fa75 1 1 5180 fa76 1 1
      52c7 fa77 1 1 52fa fa78 1 1 559d fa79 1 1 5555 fa7a 1 1 5599 fa7b 1 1 55e2 fa7c 1 1 585a
      fa7d 1 1 58b3 fa7e 1 1 5944 fa7f 1 1 5954 fa80 1 1 5a62 fa81 1 1 5b28 fa82 1 1 5ed2 fa83 1
      1 5ed9 fa84 1 1 5f69 fa85 1 1 5fad fa86 1 1 60d8 fa87 1 1 614e fa88 1 1 6108 fa89 1 1 618e
      fa8a 1 1 6160 fa8b 1 1 61f2 fa8c 1 1 6234 fa8d 1 1 63c4 fa8e 1 1 641c fa8f 1 1 6452 fa90 1
      1 6556 fa91 1 1 6674 fa92 1 1 6717 fa93 1 1 671b fa94 1 1 6756 fa95 1 1 6b79 fa96 1 1 6bba
      fa97 1 1 6d41 fa98 1 1 6edb fa99 1 1 6ecb fa9a 1 1 6f22 fa9b 1 1 701e fa9c 1 1 716e fa9d 1
      1 77a7 fa9e 1 1 7235 fa9f 1 1 72af faa0 1 1 732a faa1 1 1 7471 faa2 1 1 7506 faa3 1 1 753b
      faa4 1 1 761d faa5 1 1 761f faa6 1 1 76ca faa7 1 1 76db faa8 1 1 76f4 faa9 1 1 774a faaa 1
      1 7740 faab 1 1 78cc faac 1 1 7ab1 faad 1 1 7bc0 faae 1 1 7c7b faaf 1 1 7d5b fab0 1 1 7df4
      fab1 1 1 7f3e fab2 1 1 8005 fab3 1 1 8352 fab4 1 1 83ef fab5 1 1 8779 fab6 1 1 8941 fab7 1
      1 8986 fab8 1 1 8996 fab9 1 1 8abf faba 1 1 8af8 fabb 1 1 8acb fabc 1 1 8b01 fabd 1 1 8afe
      fabe 1 1 8aed fabf 1 1 8b39 fac0 1 1 8b8a fac1 1 1 8d08 fac2 1 1 8f38 fac3 1 1 9072 fac4 1
      1 9199 fac5 1 1 9276 fac6 1 1 967c fac7 1 1 96e3 fac8 1 1 9756 fac9 1 1 97db faca 1 1 97ff
      facb 1 1 980b facc 1 1 983b facd 1 1 9b12 face 1 1 9f9c facf 1 1 2284a fad0 1 1 22844 fad1
      1 1 233d5 fad2 1 1 3b9d fad3 1 1 4018 fad4 1 1 4039 fad5 1 1 25249 fad6 1 1 25cd0 fad7 1 1
      27ed3 fad8 1 1 9f43 fad9 1 1 9f8e fada 4 fb00 1 2 66 66 fb01 1 2 66 69 fb02 1 2 66 6c fb03
      1 3 66 66 69 fb04 1 3 66 66 6c fb05 1 2 73 74 fb07 4 fb13 1 2 574 576 fb14 1 2 574 565
      fb15 1 2 574 56b fb16 1 2 57e 576 fb17 1 2 574 56d fb18 4 fb1d 1 2 5d9 5b4 fb1e 0 fb1f 1 2
      5f2 5b7 fb20 1 1 5e2 fb21 1 1 5d0 fb22 1 1 5d3 fb23 1 1 5d4 fb24 1 1 5db fb25 1 1 5dc fb26
      1 1 5dd fb27 1 1 5e8 fb28 1 1 5ea fb29 1 1 2b fb2a 1 2 5e9 5c1 fb2b 1 2 5e9 5c2 fb2c 1 3
      5e9 5bc 5c1 fb2d 1 3 5e9 5bc 5c2 fb2e 1 2 5d0 5b7 fb2f 1 2 5d0 5b8 fb30 1 2 5d0 5bc fb31 1
      2 5d1 5bc fb32 1 2 5d2 5bc fb33 1 2 5d3 5bc fb34 1 2 5d4 5bc fb35 1 2 5d5 5bc fb36 1 2 5d6
      5bc fb37 4 fb38 1 2 5d8 5bc fb39 1 2 5d9 5bc fb3a 1 2 5da 5bc fb3b 1 2 5db 5bc fb3c 1 2
      5dc 5bc fb3d 4 fb3e 1 2 5de 5bc fb3f 4 fb40 1 2 5e0 5bc fb41 1 2 5e1 5bc fb42 4 fb43 1 2
      5e3 5bc fb44 1 2 5e4 5bc fb45 4 fb46 1 2 5e6 5bc fb47 1 2 5e7 5bc fb48 1 2 5e8 5bc fb49 1
      2 5e9 5bc fb4a 1 2 5ea 5bc fb4b 1 2 5d5 5b9 fb4c 1 2 5d1 5bf fb4d 1 2 5db 5bf fb4e 1 2 5e4
      5bf fb4f 1 2 5d0 5dc fb50 1 1 671 fb52 1 1 67b fb56 1 1 67e fb5a 1 1 680 fb5e 1 1 67a fb62
      1 1 67f fb66 1 1 679 fb6a 1 1 6a4 fb6e 1 1 6a6 fb72 1 1 684 fb76 1 1 683 fb7a 1 1 686 fb7e
      1 1 687 fb82 1 1 68d fb84 1 1 68c fb86 1 1 68e fb88 1 1 688 fb8a 1 1 698 fb8c 1 1 691 fb8e
      1 1 6a9 fb92 1 1 6af fb96 1 1 6b3 fb9a 1 1 6b1 fb9e 1 1 6ba fba0 1 1 6bb fba4 1 1 6c0 fba6
      1 1 6c1 fbaa 1 1 6be fbae 1 1 6d2 fbb0 1 1 6d3 fbb2 0 fbd3 1 1 6ad fbd7 1 1 6c7 fbd9 1 1
      6c6 fbdb 1 1 6c8 fbdd 1 2 6c7 674 fbde 1 1 6cb fbe0 1 1 6c5 fbe2 1 1 6c9 fbe4 1 1 6d0 fbe8
      1 1 649 fbea 1 2 626 627 fbec 1 2 626 6d5 fbee 1 2 626 648 fbf0 1 2 626 6c7 fbf2 1 2 626
      6c6 fbf4 1 2 626 6c8 fbf6 1 2 626 6d0 fbf9 1 2 626 649 fbfc 1 1 6cc fc00 1 2 626 62c fc01
      1 2 626 62d fc02 1 2 626 645 fc03 1 2 626 649 fc04 1 2 626 64a fc05 1 2 628 62c fc06 1 2
      628 62d fc07 1 2 628 62e fc08 1 2 628 645 fc09 1 2 628 649 fc0a 1 2 628 64a fc0b 1 2 62a
      62c fc0c 1 2 62a 62d fc0d 1 2 62a 62e fc0e 1 2 62a 645 fc0f 1 2 62a 649 fc10 1 2 62a 64a
      fc11 1 2 62b 62c fc12 1 2 62b 645 fc13 1 2 62b 649 fc14 1 2 62b 64a fc15 1 2 62c 62d fc16
      1 2 62c 645 fc17 1 2 62d 62c fc18 1 2 62d 645 fc19 1 2 62e 62c fc1a 1 2 62e 62d fc1b 1 2
      62e 645 fc1c 1 2 633 62c fc1d 1 2 633 62d fc1e 1 2 633 62e fc1f 1 2 633 645 fc20 1 2 635
      62d fc21 1 2 635 645 fc22 1 2 636 62c fc23 1 2 636 62d fc24 1 2 636 62e fc25 1 2 636 645
      fc26 1 2 637 62d fc27 1 2 637 645 fc28 1 2 638 645 fc29 1 2 639 62c fc2a 1 2 639 645 fc2b
      1 2 63a 62c fc2c 1 2 63a 645 fc2d 1 2 641 62c fc2e 1 2 641 62d fc2f 1 2 641 62e fc30 1 2
      641 645 fc31 1 2 641 649 fc32 1 2 641 64a fc33 1 2 642 62d fc34 1 2 642 645 fc35 1 2 642
      649 fc36 1 2 642 64a fc37 1 2 643 627 fc38 1 2 643 62c fc39 1 2 643 62d fc3a 1 2 643 62e
      fc3b 1 2 643 644 fc3c 1 2 643 645 fc3d 1 2 643 649 fc3e 1 2 643 64a fc3f 1 2 644 62c fc40
      1 2 644 62d fc41 1 2 644 62e fc42 1 2 644 645 fc43 1 2 644 649 fc44 1 2 644 64a fc45 1 2
      645 62c fc46 1 2 645 62d fc47 1 2 645 62e fc48 1 2 645 645 fc49 1 2 645 649 fc4a 1 2 645
      64a fc4b 1 2 646 62c fc4c 1 2 646 62d fc4d 1 2 646 62e fc4e 1 2 646 645 fc4f 1 2 646 649
      fc50 1 2 646 64a fc51 1 2 647 62c fc52 1 2 647 645 fc53 1 2 647 649 fc54 1 2 647 64a fc55
      1 2 64a 62c fc56 1 2 64a 62d fc57 1 2 64a 62e fc58 1 2 64a 645 fc59 1 2 64a 649 fc5a 1 2
      64a 64a fc5b 1 2 630 670 fc5c 1 2 631 670 fc5d 1 2 649 670 fc5e 1 3 20 64c 651 fc5f 1 3 20
      64d 651 fc60 1 3 20 64e 651 fc61 1 3 20 64f 651 fc62 1 3 20 650 651 fc63 1 3 20 651 670
      fc64 1 2 626 631 fc65 1 2 626 632 fc66 1 2 626 645 fc67 1 2 626 646 fc68 1 2 626 649 fc69
      1 2 626 64a fc6a 1 2 628 631 fc6b 1 2 628 632 fc6c 1 2 628 645 fc6d 1 2 628 646 fc6e 1 2
      628 649 fc6f 1 2 628 64a fc70 1 2 62a 631 fc71 1 2 62a 632 fc72 1 2 62a 645 fc73 1 2 62a
      646 fc74 1 2 62a 649 fc75 1 2 62a 64a fc76 1 2 62b 631 fc77 1 2 62b 632 fc78 1 2 62b 645
      fc79 1 2 62b 646 fc7a 1 2 62b 649 fc7b 1 2 62b 64a fc7c 1 2 641 649 fc7d 1 2 641 64a fc7e
      1 2 642 649 fc7f 1 2 642 64a fc80 1 2 643 627 fc81 1 2 643 644 fc82 1 2 643 645 fc83 1 2
      643 649 fc84 1 2 643 64a fc85 1 2 644 645 fc86 1 2 644 649 fc87 1 2 644 64a fc88 1 2 645
      627 fc89 1 2 645 645 fc8a 1 2 646 631 fc8b 1 2 646 632 fc8c 1 2 646 645 fc8d 1 2 646 646
      fc8e 1 2 646 649 fc8f 1 2 646 64a fc90 1 2 649 670 fc91 1 2 64a 631 fc92 1 2 64a 632 fc93
      1 2 64a 645 fc94 1 2 64a 646 fc95 1 2 64a 649 fc96 1 2 64a 64a fc97 1 2 626 62c fc98 1 2
      626 62d fc99 1 2 626 62e fc9a 1 2 626 645 fc9b 1 2 626 647 fc9c 1 2 628 62c fc9d 1 2 628
      62d fc9e 1 2 628 62e fc9f 1 2 628 645 fca0 1 2 628 647 fca1 1 2 62a 62c fca2 1 2 62a 62d
      fca3 1 2 62a 62e fca4 1 2 62a 645 fca5 1 2 62a 647 fca6 1 2 62b 645 fca7 1 2 62c 62d fca8
      1 2 62c 645 fca9 1 2 62d 62c fcaa 1 2 62d 645 fcab 1 2 62e 62c fcac 1 2 62e 645 fcad 1 2
      633 62c fcae 1 2 633 62d fcaf 1 2 633 62e fcb0 1 2 633 645 fcb1 1 2 635 62d fcb2 1 2 635
      62e fcb3 1 2 635 645 fcb4 1 2 636 62c fcb5 1 2 636 62d fcb6 1 2 636 62e fcb7 1 2 636 645
      fcb8 1 2 637 62d fcb9 1 2 638 645 fcba 1 2 639 62c fcbb 1 2 639 645 fcbc 1 2 63a 62c fcbd
      1 2 63a 645 fcbe 1 2 641 62c fcbf 1 2 641 62d fcc0 1 2 641 62e fcc1 1 2 641 645 fcc2 1 2
      642 62d fcc3 1 2 642 645 fcc4 1 2 643 62c fcc5 1 2 643 62d fcc6 1 2 643 62e fcc7 1 2 643
      644 fcc8 1 2 643 645 fcc9 1 2 644 62c fcca 1 2 644 62d fccb 1 2 644 62e fccc 1 2 644 645
      fccd 1 2 644 647 fcce 1 2 645 62c fccf 1 2 645 62d fcd0 1 2 645 62e fcd1 1 2 645 645 fcd2
      1 2 646 62c fcd3 1 2 646 62d fcd4 1 2 646 62e fcd5 1 2 646 645 fcd6 1 2 646 647 fcd7 1 2
      647 62c fcd8 1 2 647 645 fcd9 1 2 647 670 fcda 1 2 64a 62c fcdb 1 2 64a 62d fcdc 1 2 64a
      62e fcdd 1 2 64a 645 fcde 1 2 64a 647 fcdf 1 2 626 645 fce0 1 2 626 647 fce1 1 2 628 645
      fce2 1 2 628 647 fce3 1 2 62a 645 fce4 1 2 62a 647 fce5 1 2 62b 645 fce6 1 2 62b 647 fce7
      1 2 633 645 fce8 1 2 633 647 fce9 1 2 634 645 fcea 1 2 634 647 fceb 1 2 643 644 fcec 1 2
      643 645 fced 1 2 644 645 fcee 1 2 646 645 fcef 1 2 646 647 fcf0 1 2 64a 645 fcf1 1 2 64a
      647 fcf2 1 3 640 64e 651 fcf3 1 3 640 64f 651 fcf4 1 3 640 650 651 fcf5 1 2 637 649 fcf6 1
      2 637 64a fcf7 1 2 639 649 fcf8 1 2 639 64a fcf9 1 2 63a 649 fcfa 1 2 63a 64a fcfb 1 2 633
      649 fcfc 1 2 633 64a fcfd 1 2 634 649 fcfe 1 2 634 64a fcff 1 2 62d 649 fd00 1 2 62d 64a
      fd01 1 2 62c 649 fd02 1 2 62c 64a fd03 1 2 62e 649 fd04 1 2 62e 64a fd05 1 2 635 649 fd06
      1 2 635 64a fd07 1 2 636 649 fd08 1 2 636 64a fd09 1 2 634 62c fd0a 1 2 634 62d fd0b 1 2
      634 62e fd0c 1 2 634 645 fd0d 1 2 634 631 fd0e 1 2 633 631 fd0f 1 2 635 631 fd10 1 2 636
      631 fd11 1 2 637 649 fd12 1 2 637 64a fd13 1 2 639 649 fd14 1 2 639 64a fd15 1 2 63a 649
      fd16 1 2 63a 64a fd17 1 2 633 649 fd18 1 2 633 64a fd19 1 2 634 649 fd1a 1 2 634 64a fd1b
      1 2 62d 649 fd1c 1 2 62d 64a fd1d 1 2 62c 649 fd1e 1 2 62c 64a fd1f 1 2 62e 649 fd20 1 2
      62e 64a fd21 1 2 635 649 fd22 1 2 635 64a fd23 1 2 636 649 fd24 1 2 636 64a fd25 1 2 634
      62c fd26 1 2 634 62d fd27 1 2 634 62e fd28 1 2 634 645 fd29 1 2 634 631 fd2a 1 2 633 631
      fd2b 1 2 635 631 fd2c 1 2 636 631 fd2d 1 2 634 62c fd2e 1 2 634 62d fd2f 1 2 634 62e fd30
      1 2 634 645 fd31 1 2 633 647 fd32 1 2 634 647 fd33 1 2 637 645 fd34 1 2 633 62c fd35 1 2
      633 62d fd36 1 2 633 62e fd37 1 2 634 62c fd38 1 2 634 62d fd39 1 2 634 62e fd3a 1 2 637
      645 fd3b 1 2 638 645 fd3c 1 2 627 64b fd3e 0 fd50 1 3 62a 62c 645 fd51 1 3 62a 62d 62c
      fd53 1 3 62a 62d 645 fd54 1 3 62a 62e 645 fd55 1 3 62a 645 62c fd56 1 3 62a 645 62d fd57 1
      3 62a 645 62e fd58 1 3 62c 645 62d fd5a 1 3 62d 645 64a fd5b 1 3 62d 645 649 fd5c 1 3 633
      62d 62c fd5d 1 3 633 62c 62d fd5e 1 3 633 62c 649 fd5f 1 3 633 645 62d fd61 1 3 633 645
      62c fd62 1 3 633 645 645 fd64 1 3 635 62d 62d fd66 1 3 635 645 645 fd67 1 3 634 62d 645
      fd69 1 3 634 62c 64a fd6a 1 3 634 645 62e fd6c 1 3 634 645 645 fd6e 1 3 636 62d 649 fd6f 1
      3 636 62e 645 fd71 1 3 637 645 62d fd73 1 3 637 645 645 fd74 1 3 637 645 64a fd75 1 3 639
      62c 645 fd76 1 3 639 645 645 fd78 1 3 639 645 649 fd79 1 3 63a 645 645 fd7a 1 3 63a 645
      64a fd7b 1 3 63a 645 649 fd7c 1 3 641 62e 645 fd7e 1 3 642 645 62d fd7f 1 3 642 645 645
      fd80 1 3 644 62d 645 fd81 1 3 644 62d 64a fd82 1 3 644 62d 649 fd83 1 3 644 62c 62c fd85 1
      3 644 62e 645 fd87 1 3 644 645 62d fd89 1 3 645 62d 62c fd8a 1 3 645 62d 645 fd8b 1 3 645
      62d 64a fd8c 1 3 645 62c 62d fd8d 1 3 645 62c 645 fd8e 1 3 645 62e 62c fd8f 1 3 645 62e
      645 fd90 0 fd92 1 3 645 62c 62e fd93 1 3 647 645 62c fd94 1 3 647 645 645 fd95 1 3 646 62d
      645 fd96 1 3 646 62d 649 fd97 1 3 646 62c 645 fd99 1 3 646 62c 649 fd9a 1 3 646 645 64a
      fd9b 1 3 646 645 649 fd9c 1 3 64a 645 645 fd9e 1 3 628 62e 64a fd9f 1 3 62a 62c 64a fda0 1
      3 62a 62c 649 fda1 1 3 62a 62e 64a fda2 1 3 62a 62e 649 fda3 1 3 62a 645 64a fda4 1 3 62a
      645 649 fda5 1 3 62c 645 64a fda6 1 3 62c 62d 649 fda7 1 3 62c 645 649 fda8 1 3 633 62e
      649 fda9 1 3 635 62d 64a fdaa 1 3 634 62d 64a fdab 1 3 636 62d 64a fdac 1 3 644 62c 64a
      fdad 1 3 644 645 64a fdae 1 3 64a 62d 64a fdaf 1 3 64a 62c 64a fdb0 1 3 64a 645 64a fdb1 1
      3 645 645 64a fdb2 1 3 642 645 64a fdb3 1 3 646 62d 64a fdb4 1 3 642 645 62d fdb5 1 3 644
      62d 645 fdb6 1 3 639 645 64a fdb7 1 3 643 645 64a fdb8 1 3 646 62c 62d fdb9 1 3 645 62e
      64a fdba 1 3 644 62c 645 fdbb 1 3 643 645 645 fdbc 1 3 644 62c 645 fdbd 1 3 646 62c 62d
      fdbe 1 3 62c 62d 64a fdbf 1 3 62d 62c 64a fdc0 1 3 645 62c 64a fdc1 1 3 641 645 64a fdc2 1
      3 628 62d 64a fdc3 1 3 643 645 645 fdc4 1 3 639 62c 645 fdc5 1 3 635 645 645 fdc6 1 3 633
      62e 64a fdc7 1 3 646 62c 64a fdc8 0 fdd0 4 fdf0 1 3 635 644 6d2 fdf1 1 3 642 644 6d2 fdf2
      1 4 627 644 644 647 fdf3 1 4 627 643 628 631 fdf4 1 4 645 62d 645 62f fdf5 1 4 635 644 639
      645 fdf6 1 4 631 633 648 644 fdf7 1 4 639 644 64a 647 fdf8 1 4 648 633 644 645 fdf9 1 3
      635 644 649 fdfa 1 12 635 644 649 20 627 644 644 647 20 639 644 64a 647 20 648 633 644 645
      fdfb 1 8 62c 644 20 62c 644 627 644 647 fdfc 1 4 631 6cc 627 644 fdfd 0 fe00 3 fe10 1 1 2c
      fe11 1 1 3001 fe12 4 fe13 1 1 3a fe14 1 1 3b fe15 1 1 21 fe16 1 1 3f fe17 1 1 3016 fe18 1
      1 3017 fe19 4 fe20 0 fe30 4 fe31 1 1 2014 fe32 1 1 2013 fe33 1 1 5f fe35 1 1 28 fe36 1 1
      29 fe37 1 1 7b fe38 1 1 7d fe39 1 1 3014 fe3a 1 1 3015 fe3b 1 1 3010 fe3c 1 1 3011 fe3d 1
      1 300a fe3e 1 1 300b fe3f 1 1 3008 fe40 1 1 3009 fe41 1 1 300c fe42 1 1 300d fe43 1 1 300e
      fe44 1 1 300f fe45 0 fe47 1 1 5b fe48 1 1 5d fe49 1 2 20 305 fe4d 1 1 5f fe50 1 1 2c fe51
      1 1 3001 fe52 4 fe54 1 1 3b fe55 1 1 3a fe56 1 1 3f fe57 1 1 21 fe58 1 1 2014 fe59 1 1 28
      fe5a 1 1 29 fe5b 1 1 7b fe5c 1 1 7d fe5d 1 1 3014 fe5e 1 1 3015 fe5f 1 1 23 fe60 1 1 26
      fe61 1 1 2a fe62 1 1 2b fe63 1 1 2d fe64 1 1 3c fe65 1 1 3e fe66 1 1 3d fe67 4 fe68 1 1 5c
      fe69 1 1 24 fe6a 1 1 25 fe6b 1 1 40 fe6c 4 fe70 1 2 20 64b fe71 1 2 640 64b fe72 1 2 20
      64c fe73 0 fe74 1 2 20 64d fe75 4 fe76 1 2 20 64e fe77 1 2 640 64e fe78 1 2 20 64f fe79 1
      2 640 64f fe7a 1 2 20 650 fe7b 1 2 640 650 fe7c 1 2 20 651 fe7d 1 2 640 651 fe7e 1 2 20
      652 fe7f 1 2 640 652 fe80 1 1 621 fe81 1 1 622 fe83 1 1 623 fe85 1 1 624 fe87 1 1 625 fe89
      1 1 626 fe8d 1 1 627 fe8f 1 1 628 fe93 1 1 629 fe95 1 1 62a fe99 1 1 62b fe9d 1 1 62c fea1
      1 1 62d fea5 1 1 62e fea9 1 1 62f feab 1 1 630 fead 1 1 631 feaf 1 1 632 feb1 1 1 633 feb5
      1 1 634 feb9 1 1 635 febd 1 1 636 fec1 1 1 637 fec5 1 1 638 fec9 1 1 639 fecd 1 1 63a fed1
      1 1 641 fed5 1 1 642 fed9 1 1 643 fedd 1 1 644 fee1 1 1 645 fee5 1 1 646 fee9 1 1 647 feed
      1 1 648 feef 1 1 649 fef1 1 1 64a fef5 1 2 644 622 fef7 1 2 644 623 fef9 1 2 644 625 fefb
      1 2 644 627 fefd 4 feff 3 ff00 4 ff01 1 1 21 ff02 1 1 22 ff03 1 1 23 ff04 1 1 24 ff05 1 1
      25 ff06 1 1 26 ff07 1 1 27 ff08 1 1 28 ff09 1 1 29 ff0a 1 1 2a ff0b 1 1 2b ff0c 1 1 2c
      ff0d 1 1 2d ff0e 1 1 2e ff0f 1 1 2f ff10 1 1 30 ff11 1 1 31 ff12 1 1 32 ff13 1 1 33 ff14 1
      1 34 ff15 1 1 35 ff16 1 1 36 ff17 1 1 37 ff18 1 1 38 ff19 1 1 39 ff1a 1 1 3a ff1b 1 1 3b
      ff1c 1 1 3c ff1d 1 1 3d ff1e 1 1 3e ff1f 1 1 3f ff20 1 1 40 ff21 1 1 61 ff22 1 1 62 ff23 1
      1 63 ff24 1 1 64 ff25 1 1 65 ff26 1 1 66 ff27 1 1 67 ff28 1 1 68 ff29 1 1 69 ff2a 1 1 6a
      ff2b 1 1 6b ff2c 1 1 6c ff2d 1 1 6d ff2e 1 1 6e ff2f 1 1 6f ff30 1 1 70 ff31 1 1 71 ff32 1
      1 72 ff33 1 1 73 ff34 1 1 74 ff35 1 1 75 ff36 1 1 76 ff37 1 1 77 ff38 1 1 78 ff39 1 1 79
      ff3a 1 1 7a ff3b 1 1 5b ff3c 1 1 5c ff3d 1 1 5d ff3e 1 1 5e ff3f 1 1 5f ff40 1 1 60 ff41 1
      1 61 ff42 1 1 62 ff43 1 1 63 ff44 1 1 64 ff45 1 1 65 ff46 1 1 66 ff47 1 1 67 ff48 1 1 68
      ff49 1 1 69 ff4a 1 1 6a ff4b 1 1 6b ff4c 1 1 6c ff4d 1 1 6d ff4e 1 1 6e ff4f 1 1 6f ff50 1
      1 70 ff51 1 1 71 ff52 1 1 72 ff53 1 1 73 ff54 1 1 74 ff55 1 1 75 ff56 1 1 76 ff57 1 1 77
      ff58 1 1 78 ff59 1 1 79 ff5a 1 1 7a ff5b 1 1 7b ff5c 1 1 7c ff5d 1 1 7d ff5e 1 1 7e ff5f 1
      1 2985 ff60 1 1 2986 ff61 1 1 2e ff62 1 1 300c ff63 1 1 300d ff64 1 1 3001 ff65 1 1 30fb
      ff66 1 1 30f2 ff67 1 1 30a1 ff68 1 1 30a3 ff69 1 1 30a5 ff6a 1 1 30a7 ff6b 1 1 30a9 ff6c 1
      1 30e3 ff6d 1 1 30e5 ff6e 1 1 30e7 ff6f 1 1 30c3 ff70 1 1 30fc ff71 1 1 30a2 ff72 1 1 30a4
      ff73 1 1 30a6 ff74 1 1 30a8 ff75 1 1 30aa ff76 1 1 30ab ff77 1 1 30ad ff78 1 1 30af ff79 1
      1 30b1 ff7a 1 1 30b3 ff7b 1 1 30b5 ff7c 1 1 30b7 ff7d 1 1 30b9 ff7e 1 1 30bb ff7f 1 1 30bd
      ff80 1 1 30bf ff81 1 1 30c1 ff82 1 1 30c4 ff83 1 1 30c6 ff84 1 1 30c8 ff85 1 1 30ca ff86 1
      1 30cb ff87 1 1 30cc ff88 1 1 30cd ff89 1 1 30ce ff8a 1 1 30cf ff8b 1 1 30d2 ff8c 1 1 30d5
      ff8d 1 1 30d8 ff8e 1 1 30db ff8f 1 1 30de ff90 1 1 30df ff91 1 1 30e0 ff92 1 1 30e1 ff93 1
      1 30e2 ff94 1 1 30e4 ff95 1 1 30e6 ff96 1 1 30e8 ff97 1 1 30e9 ff98 1 1 30ea ff99 1 1 30eb
      ff9a 1 1 30ec ff9b 1 1 30ed ff9c 1 1 30ef ff9d 1 1 30f3 ff9e 1 1 3099 ff9f 1 1 309a ffa0 3
      ffa1 1 1 1100 ffa2 1 1 1101 ffa3 1 1 11aa ffa4 1 1 1102 ffa5 1 1 11ac ffa6 1 1 11ad ffa7 1
      1 1103 ffa8 1 1 1104 ffa9 1 1 1105 ffaa 1 1 11b0 ffab 1 1 11b1 ffac 1 1 11b2 ffad 1 1 11b3
      ffae 1 1 11b4 ffaf 1 1 11b5 ffb0 1 1 111a ffb1 1 1 1106 ffb2 1 1 1107 ffb3 1 1 1108 ffb4 1
      1 1121 ffb5 1 1 1109 ffb6 1 1 110a ffb7 1 1 110b ffb8 1 1 110c ffb9 1 1 110d ffba 1 1 110e
      ffbb 1 1 110f ffbc 1 1 1110 ffbd 1 1 1111 ffbe 1 1 1112 ffbf 4 ffc2 1 1 1161 ffc3 1 1 1162
      ffc4 1 1 1163 ffc5 1 1 1164 ffc6 1 1 1165 ffc7 1 1 1166 ffc8 4 ffca 1 1 1167 ffcb 1 1 1168
      ffcc 1 1 1169 ffcd 1 1 116a ffce 1 1 116b ffcf 1 1 116c ffd0 4 ffd2 1 1 116d ffd3 1 1 116e
      ffd4 1 1 116f ffd5 1 1 1170 ffd6 1 1 1171 ffd7 1 1 1172 ffd8 4 ffda 1 1 1173 ffdb 1 1 1174
      ffdc 1 1 1175 ffdd 4 ffe0 1 1 a2 ffe1 1 1 a3 ffe2 1 1 ac ffe3 1 2 20 304 ffe4 1 1 a6 ffe5
      1 1 a5 ffe6 1 1 20a9 ffe7 4 ffe8 1 1 2502 ffe9 1 1 2190 ffea 1 1 2191 ffeb 1 1 2192 ffec 1
      1 2193 ffed 1 1 25a0 ffee 1 1 25cb ffef 4 10000 0 1000c 4 1000d 0 10027 4 10028 0 1003b 4
      1003c 0 1003e 4 1003f 0 1004e 4 10050 0 1005e 4 10080 0 100fb 4 10100 0 10103 4 10107 0
      10134 4 10137 0 1018f 4 10190 0 1019d 4 101a0 0 101a1 4 101d0 0 101fe 4 10280 0 1029d 4
      102a0 0 102d1 4 102e0 0 102fc 4 10300 0 10324 4 1032d 0 1034b 4 10350 0 1037b 4 10380 0
      1039e 4 1039f 0 103c4 4 103c8 0 103d6 4 10400 1 1 10428 10401 1 1 10429 10402 1 1 1042a
      10403 1 1 1042b 10404 1 1 1042c 10405 1 1 1042d 10406 1 1 1042e 10407 1 1 1042f 10408 1 1
      10430 10409 1 1 10431 1040a 1 1 10432 1040b 1 1 10433 1040c 1 1 10434 1040d 1 1 10435
      1040e 1 1 10436 1040f 1 1 10437 10410 1 1 10438 10411 1 1 10439 10412 1 1 1043a 10413 1 1
      1043b 10414 1 1 1043c 10415 1 1 1043d 10416 1 1 1043e 10417 1 1 1043f 10418 1 1 10440
      10419 1 1 10441 1041a 1 1 10442 1041b 1 1 10443 1041c 1 1 10444 1041d 1 1 10445 1041e 1 1
      10446 1041f 1 1 10447 10420 1 1 10448 10421 1 1 10449 10422 1 1 1044a 10423 1 1 1044b
      10424 1 1 1044c 10425 1 1 1044d 10426 1 1 1044e 10427 1 1 1044f 10428 0 1049e 4 104a0 0
      104aa 4 104b0 1 1 104d8 104b1 1 1 104d9 104b2 1 1 104da 104b3 1 1 104db 104b4 1 1 104dc
      104b5 1 1 104dd 104b6 1 1 104de 104b7 1 1 104df 104b8 1 1 104e0 104b9 1 1 104e1 104ba 1 1
      104e2 104bb 1 1 104e3 104bc 1 1 104e4 104bd 1 1 104e5 104be 1 1 104e6 104bf 1 1 104e7
      104c0 1 1 104e8 104c1 1 1 104e9 104c2 1 1 104ea 104c3 1 1 104eb 104c4 1 1 104ec 104c5 1 1
      104ed 104c6 1 1 104ee 104c7 1 1 104ef 104c8 1 1 104f0 104c9 1 1 104f1 104ca 1 1 104f2
      104cb 1 1 104f3 104cc 1 1 104f4 104cd 1 1 104f5 104ce 1 1 104f6 104cf 1 1 104f7 104d0 1 1
      104f8 104d1 1 1 104f9 104d2 1 1 104fa 104d3 1 1 104fb 104d4 4 104d8 0 104fc 4 10500 0
      10528 4 10530 0 10564 4 1056f 0 10570 1 1 10597 10571 1 1 10598 10572 1 1 10599 10573 1 1
      1059a 10574 1 1 1059b 10575 1 1 1059c 10576 1 1 1059d 10577 1 1 1059e 10578 1 1 1059f
      10579 1 1 105a0 1057a 1 1 105a1 1057b 4 1057c 1 1 105a3 1057d 1 1 105a4 1057e 1 1 105a5
      1057f 1 1 105a6 10580 1 1 105a7 10581 1 1 105a8 10582 1 1 105a9 10583 1 1 105aa 10584 1 1
      105ab 10585 1 1 105ac 10586 1 1 105ad 10587 1 1 105ae 10588 1 1 105af 10589 1 1 105b0
      1058a 1 1 105b1 1058b 4 1058c 1 1 105b3 1058d 1 1 105b4 1058e 1 1 105b5 1058f 1 1 105b6
      10590 1 1 105b7 10591 1 1 105b8 10592 1 1 105b9 10593 4 10594 1 1 105bb 10595 1 1 105bc
      10596 4 10597 0 105a2 4 105a3 0 105b2 4 105b3 0 105ba 4 105bb 0 105bd 4 105c0 0 105f4 4
      10600 0 10737 4 10740 0 10756 4 10760 0 10768 4 10780 0 10781 1 1 2d0 10782 1 1 2d1 10783
      1 1 e6 10784 1 1 299 10785 1 1 253 10786 4 10787 1 1 2a3 10788 1 1 ab66 10789 1 1 2a5
      1078a 1 1 2a4 1078b 1 1 256 1078c 1 1 257 1078d 1 1 1d91 1078e 1 1 258 1078f 1 1 25e 10790
      1 1 2a9 10791 1 1 264 10792 1 1 262 10793 1 1 260 10794 1 1 29b 10795 1 1 127 10796 1 1
      29c 10797 1 1 267 10798 1 1 284 10799 1 1 2aa 1079a 1 1 2ab 1079b 1 1 26c 1079c 1 1 1df04
      1079d 1 1 a78e 1079e 1 1 26e 1079f 1 1 1df05 107a0 1 1 28e 107a1 1 1 1df06 107a2 1 1 f8
      107a3 1 1 276 107a4 1 1 277 107a5 1 1 71 107a6 1 1 27a 107a7 1 1 1df08 107a8 1 1 27d 107a9
      1 1 27e 107aa 1 1 280 107ab 1 1 2a8 107ac 1 1 2a6 107ad 1 1 ab67 107ae 1 1 2a7 107af 1 1
      288 107b0 1 1 2c71 107b1 4 107b2 1 1 28f 107b3 1 1 2a1 107b4 1 1 2a2 107b5 1 1 298 107b6 1
      1 1c0 107b7 1 1 1c1 107b8 1 1 1c2 107b9 1 1 1df0a 107ba 1 1 1df1e 107bb 4 10800 0 10806 4
      10808 0 10809 4 1080a 0 10836 4 10837 0 10839 4 1083c 0 1083d 4 1083f 0 10856 4 10857 0
      1089f 4 108a7 0 108b0 4 108e0 0 108f3 4 108f4 0 108f6 4 108fb 0 1091c 4 1091f 0 1093a 4
      1093f 0 1095a 4 10980 0 109b8 4 109bc 0 109d0 4 109d2 0 10a04 4 10a05 0 10a07 4 10a0c 0
      10a14 4 10a15 0 10a18 4 10a19 0 10a36 4 10a38 0 10a3b 4 10a3f 0 10a49 4 10a50 0 10a59 4
      10a60 0 10aa0 4 10ac0 0 10ae7 4 10aeb 0 10af7 4 10b00 0 10b36 4 10b39 0 10b56 4 10b58 0
      10b73 4 10b78 0 10b92 4 10b99 0 10b9d 4 10ba9 0 10bb0 4 10c00 0 10c49 4 10c80 1 1 10cc0
      10c81 1 1 10cc1 10c82 1 1 10cc2 10c83 1 1 10cc3 10c84 1 1 10cc4 10c85 1 1 10cc5 10c86 1 1
      10cc6 10c87 1 1 10cc7 10c88 1 1 10cc8 10c89 1 1 10cc9 10c8a 1 1 10cca 10c8b 1 1 10ccb
      10c8c 1 1 10ccc 10c8d 1 1 10ccd 10c8e 1 1 10cce 10c8f 1 1 10ccf 10c90 1 1 10cd0 10c91 1 1
      10cd1 10c92 1 1 10cd2 10c93 1 1 10cd3 10c94 1 1 10cd4 10c95 1 1 10cd5 10c96 1 1 10cd6
      10c97 1 1 10cd7 10c98 1 1 10cd8 10c99 1 1 10cd9 10c9a 1 1 10cda 10c9b 1 1 10cdb 10c9c 1 1
      10cdc 10c9d 1 1 10cdd 10c9e 1 1 10cde 10c9f 1 1 10cdf 10ca0 1 1 10ce0 10ca1 1 1 10ce1
      10ca2 1 1 10ce2 10ca3 1 1 10ce3 10ca4 1 1 10ce4 10ca5 1 1 10ce5 10ca6 1 1 10ce6 10ca7 1 1
      10ce7 10ca8 1 1 10ce8 10ca9 1 1 10ce9 10caa 1 1 10cea 10cab 1 1 10ceb 10cac 1 1 10cec
      10cad 1 1 10ced 10cae 1 1 10cee 10caf 1 1 10cef 10cb0 1 1 10cf0 10cb1 1 1 10cf1 10cb2 1 1
      10cf2 10cb3 4 10cc0 0 10cf3 4 10cfa 0 10d28 4 10d30 0 10d3a 4 10d40 0 10d50 1 1 10d70
      10d51 1 1 10d71 10d52 1 1 10d72 10d53 1 1 10d73 10d54 1 1 10d74 10d55 1 1 10d75 10d56 1 1
      10d76 10d57 1 1 10d77 10d58 1 1 10d78 10d59 1 1 10d79 10d5a 1 1 10d7a 10d5b 1 1 10d7b
      10d5c 1 1 10d7c 10d5d 1 1 10d7d 10d5e 1 1 10d7e 10d5f 1 1 10d7f 10d60 1 1 10d80 10d61 1 1
      10d81 10d62 1 1 10d82 10d63 1 1 10d83 10d64 1 1 10d84 10d65 1 1 10d85 10d66 4 10d69 0
      10d86 4 10d8e 0 10d90 4 10e60 0 10e7f 4 10e80 0 10eaa 4 10eab 0 10eae 4 10eb0 0 10eb2 4
      10ec2 0 10ec8 4 10ed0 0 10ed9 4 10efa 0 10f28 4 10f30 0 10f5a 4 10f70 0 10f8a 4 10fb0 0
      10fcc 4 10fe0 0 10ff7 4 11000 0 1104e 4 11052 0 11076 4 1107f 0 110bd 4 110be 0 110c3 4
      110d0 0 110e9 4 110f0 0 110fa 4 11100 0 11135 4 11136 0 11148 4 11150 0 11177 4 11180 0
      111e0 4 111e1 0 111f5 4 11200 0 11212 4 11213 0 11242 4 11280 0 11287 4 11288 0 11289 4
      1128a 0 1128e 4 1128f 0 1129e 4 1129f 0 112aa 4 112b0 0 112eb 4 112f0 0 112fa 4 11300 0
      11304 4 11305 0 1130d 4 1130f 0 11311 4 11313 0 11329 4 1132a 0 11331 4 11332 0 11334 4
      11335 0 1133a 4 1133b 0 11345 4 11347 0 11349 4 1134b 0 1134e 4 11350 0 11351 4 11357 0
      11358 4 1135d 0 11364 4 11366 0 1136d 4 11370 0 11375 4 11380 0 1138a 4 1138b 0 1138c 4
      1138e 0 1138f 4 11390 0 113b6 4 113b7 0 113c1 4 113c2 0 113c3 4 113c5 0 113c6 4 113c7 0
      113cb 4 113cc 0 113d6 4 113d7 0 113d9 4 113e1 0 113e3 4 11400 0 1145c 4 1145d 0 11462 4
      11480 0 114c8 4 114d0 0 114da 4 11580 0 115b6 4 115b8 0 115de 4 11600 0 11645 4 11650 0
      1165a 4 11660 0 1166d 4 11680 0 116ba 4 116c0 0 116ca 4 116d0 0 116e4 4 11700 0 1171b 4
      1171d 0 1172c 4 11730 0 11747 4 11800 0 1183c 4 118a0 1 1 118c0 118a1 1 1 118c1 118a2 1 1
      118c2 118a3 1 1 118c3 118a4 1 1 118c4 118a5 1 1 118c5 118a6 1 1 118c6 118a7 1 1 118c7
      118a8 1 1 118c8 118a9 1 1 118c9 118aa 1 1 118ca 118ab 1 1 118cb 118ac 1 1 118cc 118ad 1 1
      118cd 118ae 1 1 118ce 118af 1 1 118cf 118b0 1 1 118d0 118b1 1 1 118d1 118b2 1 1 118d2
      118b3 1 1 118d3 118b4 1 1 118d4 118b5 1 1 118d5 118b6 1 1 118d6 118b7 1 1 118d7 118b8 1 1
      118d8 118b9 1 1 118d9 118ba 1 1 118da 118bb 1 1 118db 118bc 1 1 118dc 118bd 1 1 118dd
      118be 1 1 118de 118bf 1 1 118df 118c0 0 118f3 4 118ff 0 11907 4 11909 0 1190a 4 1190c 0
      11914 4 11915 0 11917 4 11918 0 11936 4 11937 0 11939 4 1193b 0 11947 4 11950 0 1195a 4
      119a0 0 119a8 4 119aa 0 119d8 4 119da 0 119e5 4 11a00 0 11a48 4 11a50 0 11aa3 4 11ab0 0
      11af9 4 11b00 0 11b0a 4 11b60 0 11b68 4 11bc0 0 11be2 4 11bf0 0 11bfa 4 11c00 0 11c09 4
      11c0a 0 11c37 4 11c38 0 11c46 4 11c50 0 11c6d 4 11c70 0 11c90 4 11c92 0 11ca8 4 11ca9 0
      11cb7 4 11d00 0 11d07 4 11d08 0 11d0a 4 11d0b 0 11d37 4 11d3a 0 11d3b 4 11d3c 0 11d3e 4
      11d3f 0 11d48 4 11d50 0 11d5a 4 11d60 0 11d66 4 11d67 0 11d69 4 11d6a 0 11d8f 4 11d90 0
      11d92 4 11d93 0 11d99 4 11da0 0 11daa 4 11db0 0 11ddc 4 11de0 0 11dea 4 11ee0 0 11ef9 4
      11f00 0 11f11 4 11f12 0 11f3b 4 11f3e 0 11f5b 4 11fb0 0 11fb1 4 11fc0 0 11ff2 4 11fff 0
      1239a 4 12400 0 1246f 4 12470 0 12475 4 12480 0 12544 4 12f90 0 12ff3 4 13000 0 13430 4
      13440 0 13456 4 13460 0 143fb 4 14400 0 14647 4 16100 0 1613a 4 16800 0 16a39 4 16a40 0
      16a5f 4 16a60 0 16a6a 4 16a6e 0 16abf 4 16ac0 0 16aca 4 16ad0 0 16aee 4 16af0 0 16af6 4
      16b00 0 16b46 4 16b50 0 16b5a 4 16b5b 0 16b62 4 16b63 0 16b78 4 16b7d 0 16b90 4 16d40 0
      16d7a 4 16e40 1 1 16e60 16e41 1 1 16e61 16e42 1 1 16e62 16e43 1 1 16e63 16e44 1 1 16e64
      16e45 1 1 16e65 16e46 1 1 16e66 16e47 1 1 16e67 16e48 1 1 16e68 16e49 1 1 16e69 16e4a 1 1
      16e6a 16e4b 1 1 16e6b 16e4c 1 1 16e6c 16e4d 1 1 16e6d 16e4e 1 1 16e6e 16e4f 1 1 16e6f
      16e50 1 1 16e70 16e51 1 1 16e71 16e52 1 1 16e72 16e53 1 1 16e73 16e54 1 1 16e74 16e55 1 1
      16e75 16e56 1 1 16e76 16e57 1 1 16e77 16e58 1 1 16e78 16e59 1 1 16e79 16e5a 1 1 16e7a
      16e5b 1 1 16e7b 16e5c 1 1 16e7c 16e5d 1 1 16e7d 16e5e 1 1 16e7e 16e5f 1 1 16e7f 16e60 0
      16e9b 4 16ea0 1 1 16ebb 16ea1 1 1 16ebc 16ea2 1 1 16ebd 16ea3 1 1 16ebe 16ea4 1 1 16ebf
      16ea5 1 1 16ec0 16ea6 1 1 16ec1 16ea7 1 1 16ec2 16ea8 1 1 16ec3 16ea9 1 1 16ec4 16eaa 1 1
      16ec5 16eab 1 1 16ec6 16eac 1 1 16ec7 16ead 1 1 16ec8 16eae 1 1 16ec9 16eaf 1 1 16eca
      16eb0 1 1 16ecb 16eb1 1 1 16ecc 16eb2 1 1 16ecd 16eb3 1 1 16ece 16eb4 1 1 16ecf 16eb5 1 1
      16ed0 16eb6 1 1 16ed1 16eb7 1 1 16ed2 16eb8 1 1 16ed3 16eb9 4 16ebb 0 16ed4 4 16f00 0
      16f4b 4 16f4f 0 16f88 4 16f8f 0 16fa0 4 16fe0 0 16fe5 4 16ff0 0 16ff7 4 17000 0 18cd6 4
      18cff 0 18d1f 4 18d80 0 18df3 4 1aff0 0 1aff4 4 1aff5 0 1affc 4 1affd 0 1afff 4 1b000 0
      1b123 4 1b132 0 1b133 4 1b150 0 1b153 4 1b155 0 1b156 4 1b164 0 1b168 4 1b170 0 1b2fc 4
      1bc00 0 1bc6b 4 1bc70 0 1bc7d 4 1bc80 0 1bc89 4 1bc90 0 1bc9a 4 1bc9c 0 1bca0 3 1bca4 4
      1cc00 0 1ccd6 1 1 61 1ccd7 1 1 62 1ccd8 1 1 63 1ccd9 1 1 64 1ccda 1 1 65 1ccdb 1 1 66
      1ccdc 1 1 67 1ccdd 1 1 68 1ccde 1 1 69 1ccdf 1 1 6a 1cce0 1 1 6b 1cce1 1 1 6c 1cce2 1 1 6d
      1cce3 1 1 6e 1cce4 1 1 6f 1cce5 1 1 70 1cce6 1 1 71 1cce7 1 1 72 1cce8 1 1 73 1cce9 1 1 74
      1ccea 1 1 75 1cceb 1 1 76 1ccec 1 1 77 1cced 1 1 78 1ccee 1 1 79 1ccef 1 1 7a 1ccf0 1 1 30
      1ccf1 1 1 31 1ccf2 1 1 32 1ccf3 1 1 33 1ccf4 1 1 34 1ccf5 1 1 35 1ccf6 1 1 36 1ccf7 1 1 37
      1ccf8 1 1 38 1ccf9 1 1 39 1ccfa 0 1ccfd 4 1cd00 0 1ceb4 4 1ceba 0 1ced1 4 1cee0 0 1cef1 4
      1cf00 0 1cf2e 4 1cf30 0 1cf47 4 1cf50 0 1cfc4 4 1d000 0 1d0f6 4 1d100 0 1d127 4 1d129 0
      1d15e 1 2 1d157 1d165 1d15f 1 2 1d158 1d165 1d160 1 3 1d158 1d165 1d16e 1d161 1 3 1d158
      1d165 1d16f 1d162 1 3 1d158 1d165 1d170 1d163 1 3 1d158 1d165 1d171 1d164 1 3 1d158 1d165
      1d172 1d165 0 1d173 3 1d17b 0 1d1bb 1 2 1d1b9 1d165 1d1bc 1 2 1d1ba 1d165 1d1bd 1 3 1d1b9
      1d165 1d16e 1d1be 1 3 1d1ba 1d165 1d16e 1d1bf 1 3 1d1b9 1d165 1d16f 1d1c0 1 3 1d1ba 1d165
      1d16f 1d1c1 0 1d1eb 4 1d200 0 1d246 4 1d2c0 0 1d2d4 4 1d2e0 0 1d2f4 4 1d300 0 1d357 4
      1d360 0 1d379 4 1d400 1 1 61 1d401 1 1 62 1d402 1 1 63 1d403 1 1 64 1d404 1 1 65 1d405 1 1
      66 1d406 1 1 67 1d407 1 1 68 1d408 1 1 69 1d409 1 1 6a 1d40a 1 1 6b 1d40b 1 1 6c 1d40c 1 1
      6d 1d40d 1 1 6e 1d40e 1 1 6f 1d40f 1 1 70 1d410 1 1 71 1d411 1 1 72 1d412 1 1 73 1d413 1 1
      74 1d414 1 1 75 1d415 1 1 76 1d416 1 1 77 1d417 1 1 78 1d418 1 1 79 1d419 1 1 7a 1d41a 1 1
      61 1d41b 1 1 62 1d41c 1 1 63 1d41d 1 1 64 1d41e 1 1 65 1d41f 1 1 66 1d420 1 1 67 1d421 1 1
      68 1d422 1 1 69 1d423 1 1 6a 1d424 1 1 6b 1d425 1 1 6c 1d426 1 1 6d 1d427 1 1 6e 1d428 1 1
      6f 1d429 1 1 70 1d42a 1 1 71 1d42b 1 1 72 1d42c 1 1 73 1d42d 1 1 74 1d42e 1 1 75 1d42f 1 1
      76 1d430 1 1 77 1d431 1 1 78 1d432 1 1 79 1d433 1 1 7a 1d434 1 1 61 1d435 1 1 62 1d436 1 1
      63 1d437 1 1 64 1d438 1 1 65 1d439 1 1 66 1d43a 1 1 67 1d43b 1 1 68 1d43c 1 1 69 1d43d 1 1
      6a 1d43e 1 1 6b 1d43f 1 1 6c 1d440 1 1 6d 1d441 1 1 6e 1d442 1 1 6f 1d443 1 1 70 1d444 1 1
      71 1d445 1 1 72 1d446 1 1 73 1d447 1 1 74 1d448 1 1 75 1d449 1 1 76 1d44a 1 1 77 1d44b 1 1
      78 1d44c 1 1 79 1d44d 1 1 7a 1d44e 1 1 61 1d44f 1 1 62 1d450 1 1 63 1d451 1 1 64 1d452 1 1
      65 1d453 1 1 66 1d454 1 1 67 1d455 4 1d456 1 1 69 1d457 1 1 6a 1d458 1 1 6b 1d459 1 1 6c
      1d45a 1 1 6d 1d45b 1 1 6e 1d45c 1 1 6f 1d45d 1 1 70 1d45e 1 1 71 1d45f 1 1 72 1d460 1 1 73
      1d461 1 1 74 1d462 1 1 75 1d463 1 1 76 1d464 1 1 77 1d465 1 1 78 1d466 1 1 79 1d467 1 1 7a
      1d468 1 1 61 1d469 1 1 62 1d46a 1 1 63 1d46b 1 1 64 1d46c 1 1 65 1d46d 1 1 66 1d46e 1 1 67
      1d46f 1 1 68 1d470 1 1 69 1d471 1 1 6a 1d472 1 1 6b 1d473 1 1 6c 1d474 1 1 6d 1d475 1 1 6e
      1d476 1 1 6f 1d477 1 1 70 1d478 1 1 71 1d479 1 1 72 1d47a 1 1 73 1d47b 1 1 74 1d47c 1 1 75
      1d47d 1 1 76 1d47e 1 1 77 1d47f 1 1 78 1d480 1 1 79 1d481 1 1 7a 1d482 1 1 61 1d483 1 1 62
      1d484 1 1 63 1d485 1 1 64 1d486 1 1 65 1d487 1 1 66 1d488 1 1 67 1d489 1 1 68 1d48a 1 1 69
      1d48b 1 1 6a 1d48c 1 1 6b 1d48d 1 1 6c 1d48e 1 1 6d 1d48f 1 1 6e 1d490 1 1 6f 1d491 1 1 70
      1d492 1 1 71 1d493 1 1 72 1d494 1 1 73 1d495 1 1 74 1d496 1 1 75 1d497 1 1 76 1d498 1 1 77
      1d499 1 1 78 1d49a 1 1 79 1d49b 1 1 7a 1d49c 1 1 61 1d49d 4 1d49e 1 1 63 1d49f 1 1 64
      1d4a0 4 1d4a2 1 1 67 1d4a3 4 1d4a5 1 1 6a 1d4a6 1 1 6b 1d4a7 4 1d4a9 1 1 6e 1d4aa 1 1 6f
      1d4ab 1 1 70 1d4ac 1 1 71 1d4ad 4 1d4ae 1 1 73 1d4af 1 1 74 1d4b0 1 1 75 1d4b1 1 1 76
      1d4b2 1 1 77 1d4b3 1 1 78 1d4b4 1 1 79 1d4b5 1 1 7a 1d4b6 1 1 61 1d4b7 1 1 62 1d4b8 1 1 63
      1d4b9 1 1 64 1d4ba 4 1d4bb 1 1 66 1d4bc 4 1d4bd 1 1 68 1d4be 1 1 69 1d4bf 1 1 6a 1d4c0 1 1
      6b 1d4c1 1 1 6c 1d4c2 1 1 6d 1d4c3 1 1 6e 1d4c4 4 1d4c5 1 1 70 1d4c6 1 1 71 1d4c7 1 1 72
      1d4c8 1 1 73 1d4c9 1 1 74 1d4ca 1 1 75 1d4cb 1 1 76 1d4cc 1 1 77 1d4cd 1 1 78 1d4ce 1 1 79
      1d4cf 1 1 7a 1d4d0 1 1 61 1d4d1 1 1 62 1d4d2 1 1 63 1d4d3 1 1 64 1d4d4 1 1 65 1d4d5 1 1 66
      1d4d6 1 1 67 1d4d7 1 1 68 1d4d8 1 1 69 1d4d9 1 1 6a 1d4da 1 1 6b 1d4db 1 1 6c 1d4dc 1 1 6d
      1d4dd 1 1 6e 1d4de 1 1 6f 1d4df 1 1 70 1d4e0 1 1 71 1d4e1 1 1 72 1d4e2 1 1 73 1d4e3 1 1 74
      1d4e4 1 1 75 1d4e5 1 1 76 1d4e6 1 1 77 1d4e7 1 1 78 1d4e8 1 1 79 1d4e9 1 1 7a 1d4ea 1 1 61
      1d4eb 1 1 62 1d4ec 1 1 63 1d4ed 1 1 64 1d4ee 1 1 65 1d4ef 1 1 66 1d4f0 1 1 67 1d4f1 1 1 68
      1d4f2 1 1 69 1d4f3 1 1 6a 1d4f4 1 1 6b 1d4f5 1 1 6c 1d4f6 1 1 6d 1d4f7 1 1 6e 1d4f8 1 1 6f
      1d4f9 1 1 70 1d4fa 1 1 71 1d4fb 1 1 72 1d4fc 1 1 73 1d4fd 1 1 74 1d4fe 1 1 75 1d4ff 1 1 76
      1d500 1 1 77 1d501 1 1 78 1d502 1 1 79 1d503 1 1 7a 1d504 1 1 61 1d505 1 1 62 1d506 4
      1d507 1 1 64 1d508 1 1 65 1d509 1 1 66 1d50a 1 1 67 1d50b 4 1d50d 1 1 6a 1d50e 1 1 6b
      1d50f 1 1 6c 1d510 1 1 6d 1d511 1 1 6e 1d512 1 1 6f 1d513 1 1 70 1d514 1 1 71 1d515 4
      1d516 1 1 73 1d517 1 1 74 1d518 1 1 75 1d519 1 1 76 1d51a 1 1 77 1d51b 1 1 78 1d51c 1 1 79
      1d51d 4 1d51e 1 1 61 1d51f 1 1 62 1d520 1 1 63 1d521 1 1 64 1d522 1 1 65 1d523 1 1 66
      1d524 1 1 67 1d525 1 1 68 1d526 1 1 69 1d527 1 1 6a 1d528 1 1 6b 1d529 1 1 6c 1d52a 1 1 6d
      1d52b 1 1 6e 1d52c 1 1 6f 1d52d 1 1 70 1d52e 1 1 71 1d52f 1 1 72 1d530 1 1 73 1d531 1 1 74
      1d532 1 1 75 1d533 1 1 76 1d534 1 1 77 1d535 1 1 78 1d536 1 1 79 1d537 1 1 7a 1d538 1 1 61
      1d539 1 1 62 1d53a 4 1d53b 1 1 64 1d53c 1 1 65 1d53d 1 1 66 1d53e 1 1 67 1d53f 4 1d540 1 1
      69 1d541 1 1 6a 1d542 1 1 6b 1d543 1 1 6c 1d544 1 1 6d 1d545 4 1d546 1 1 6f 1d547 4 1d54a
      1 1 73 1d54b 1 1 74 1d54c 1 1 75 1d54d 1 1 76 1d54e 1 1 77 1d54f 1 1 78 1d550 1 1 79 1d551
      4 1d552 1 1 61 1d553 1 1 62 1d554 1 1 63 1d555 1 1 64 1d556 1 1 65 1d557 1 1 66 1d558 1 1
      67 1d559 1 1 68 1d55a 1 1 69 1d55b 1 1 6a 1d55c 1 1 6b 1d55d 1 1 6c 1d55e 1 1 6d 1d55f 1 1
      6e 1d560 1 1 6f 1d561 1 1 70 1d562 1 1 71 1d563 1 1 72 1d564 1 1 73 1d565 1 1 74 1d566 1 1
      75 1d567 1 1 76 1d568 1 1 77 1d569 1 1 78 1d56a 1 1 79 1d56b 1 1 7a 1d56c 1 1 61 1d56d 1 1
      62 1d56e 1 1 63 1d56f 1 1 64 1d570 1 1 65 1d571 1 1 66 1d572 1 1 67 1d573 1 1 68 1d574 1 1
      69 1d575 1 1 6a 1d576 1 1 6b 1d577 1 1 6c 1d578 1 1 6d 1d579 1 1 6e 1d57a 1 1 6f 1d57b 1 1
      70 1d57c 1 1 71 1d57d 1 1 72 1d57e 1 1 73 1d57f 1 1 74 1d580 1 1 75 1d581 1 1 76 1d582 1 1
      77 1d583 1 1 78 1d584 1 1 79 1d585 1 1 7a 1d586 1 1 61 1d587 1 1 62 1d588 1 1 63 1d589 1 1
      64 1d58a 1 1 65 1d58b 1 1 66 1d58c 1 1 67 1d58d 1 1 68 1d58e 1 1 69 1d58f 1 1 6a 1d590 1 1
      6b 1d591 1 1 6c 1d592 1 1 6d 1d593 1 1 6e 1d594 1 1 6f 1d595 1 1 70 1d596 1 1 71 1d597 1 1
      72 1d598 1 1 73 1d599 1 1 74 1d59a 1 1 75 1d59b 1 1 76 1d59c 1 1 77 1d59d 1 1 78 1d59e 1 1
      79 1d59f 1 1 7a 1d5a0 1 1 61 1d5a1 1 1 62 1d5a2 1 1 63 1d5a3 1 1 64 1d5a4 1 1 65 1d5a5 1 1
      66 1d5a6 1 1 67 1d5a7 1 1 68 1d5a8 1 1 69 1d5a9 1 1 6a 1d5aa 1 1 6b 1d5ab 1 1 6c 1d5ac 1 1
      6d 1d5ad 1 1 6e 1d5ae 1 1 6f 1d5af 1 1 70 1d5b0 1 1 71 1d5b1 1 1 72 1d5b2 1 1 73 1d5b3 1 1
      74 1d5b4 1 1 75 1d5b5 1 1 76 1d5b6 1 1 77 1d5b7 1 1 78 1d5b8 1 1 79 1d5b9 1 1 7a 1d5ba 1 1
      61 1d5bb 1 1 62 1d5bc 1 1 63 1d5bd 1 1 64 1d5be 1 1 65 1d5bf 1 1 66 1d5c0 1 1 67 1d5c1 1 1
      68 1d5c2 1 1 69 1d5c3 1 1 6a 1d5c4 1 1 6b 1d5c5 1 1 6c 1d5c6 1 1 6d 1d5c7 1 1 6e 1d5c8 1 1
      6f 1d5c9 1 1 70 1d5ca 1 1 71 1d5cb 1 1 72 1d5cc 1 1 73 1d5cd 1 1 74 1d5ce 1 1 75 1d5cf 1 1
      76 1d5d0 1 1 77 1d5d1 1 1 78 1d5d2 1 1 79 1d5d3 1 1 7a 1d5d4 1 1 61 1d5d5 1 1 62 1d5d6 1 1
      63 1d5d7 1 1 64 1d5d8 1 1 65 1d5d9 1 1 66 1d5da 1 1 67 1d5db 1 1 68 1d5dc 1 1 69 1d5dd 1 1
      6a 1d5de 1 1 6b 1d5df 1 1 6c 1d5e0 1 1 6d 1d5e1 1 1 6e 1d5e2 1 1 6f 1d5e3 1 1 70 1d5e4 1 1
      71 1d5e5 1 1 72 1d5e6 1 1 73 1d5e7 1 1 74 1d5e8 1 1 75 1d5e9 1 1 76 1d5ea 1 1 77 1d5eb 1 1
      78 1d5ec 1 1 79 1d5ed 1 1 7a 1d5ee 1 1 61 1d5ef 1 1 62 1d5f0 1 1 63 1d5f1 1 1 64 1d5f2 1 1
      65 1d5f3 1 1 66 1d5f4 1 1 67 1d5f5 1 1 68 1d5f6 1 1 69 1d5f7 1 1 6a 1d5f8 1 1 6b 1d5f9 1 1
      6c 1d5fa 1 1 6d 1d5fb 1 1 6e 1d5fc 1 1 6f 1d5fd 1 1 70 1d5fe 1 1 71 1d5ff 1 1 72 1d600 1 1
      73 1d601 1 1 74 1d602 1 1 75 1d603 1 1 76 1d604 1 1 77 1d605 1 1 78 1d606 1 1 79 1d607 1 1
      7a 1d608 1 1 61 1d609 1 1 62 1d60a 1 1 63 1d60b 1 1 64 1d60c 1 1 65 1d60d 1 1 66 1d60e 1 1
      67 1d60f 1 1 68 1d610 1 1 69 1d611 1 1 6a 1d612 1 1 6b 1d613 1 1 6c 1d614 1 1 6d 1d615 1 1
      6e 1d616 1 1 6f 1d617 1 1 70 1d618 1 1 71 1d619 1 1 72 1d61a 1 1 73 1d61b 1 1 74 1d61c 1 1
      75 1d61d 1 1 76 1d61e 1 1 77 1d61f 1 1 78 1d620 1 1 79 1d621 1 1 7a 1d622 1 1 61 1d623 1 1
      62 1d624 1 1 63 1d625 1 1 64 1d626 1 1 65 1d627 1 1 66 1d628 1 1 67 1d629 1 1 68 1d62a 1 1
      69 1d62b 1 1 6a 1d62c 1 1 6b 1d62d 1 1 6c 1d62e 1 1 6d 1d62f 1 1 6e 1d630 1 1 6f 1d631 1 1
      70 1d632 1 1 71 1d633 1 1 72 1d634 1 1 73 1d635 1 1 74 1d636 1 1 75 1d637 1 1 76 1d638 1 1
      77 1d639 1 1 78 1d63a 1 1 79 1d63b 1 1 7a 1d63c 1 1 61 1d63d 1 1 62 1d63e 1 1 63 1d63f 1 1
      64 1d640 1 1 65 1d641 1 1 66 1d642 1 1 67 1d643 1 1 68 1d644 1 1 69 1d645 1 1 6a 1d646 1 1
      6b 1d647 1 1 6c 1d648 1 1 6d 1d649 1 1 6e 1d64a 1 1 6f 1d64b 1 1 70 1d64c 1 1 71 1d64d 1 1
      72 1d64e 1 1 73 1d64f 1 1 74 1d650 1 1 75 1d651 1 1 76 1d652 1 1 77 1d653 1 1 78 1d654 1 1
      79 1d655 1 1 7a 1d656 1 1 61 1d657 1 1 62 1d658 1 1 63 1d659 1 1 64 1d65a 1 1 65 1d65b 1 1
      66 1d65c 1 1 67 1d65d 1 1 68 1d65e 1 1 69 1d65f 1 1 6a 1d660 1 1 6b 1d661 1 1 6c 1d662 1 1
      6d 1d663 1 1 6e 1d664 1 1 6f 1d665 1 1 70 1d666 1 1 71 1d667 1 1 72 1d668 1 1 73 1d669 1 1
      74 1d66a 1 1 75 1d66b 1 1 76 1d66c 1 1 77 1d66d 1 1 78 1d66e 1 1 79 1d66f 1 1 7a 1d670 1 1
      61 1d671 1 1 62 1d672 1 1 63 1d673 1 1 64 1d674 1 1 65 1d675 1 1 66 1d676 1 1 67 1d677 1 1
      68 1d678 1 1 69 1d679 1 1 6a 1d67a 1 1 6b 1d67b 1 1 6c 1d67c 1 1 6d 1d67d 1 1 6e 1d67e 1 1
      6f 1d67f 1 1 70 1d680 1 1 71 1d681 1 1 72 1d682 1 1 73 1d683 1 1 74 1d684 1 1 75 1d685 1 1
      76 1d686 1 1 77 1d687 1 1 78 1d688 1 1 79 1d689 1 1 7a 1d68a 1 1 61 1d68b 1 1 62 1d68c 1 1
      63 1d68d 1 1 64 1d68e 1 1 65 1d68f 1 1 66 1d690 1 1 67 1d691 1 1 68 1d692 1 1 69 1d693 1 1
      6a 1d694 1 1 6b 1d695 1 1 6c 1d696 1 1 6d 1d697 1 1 6e 1d698 1 1 6f 1d699 1 1 70 1d69a 1 1
      71 1d69b 1 1 72 1d69c 1 1 73 1d69d 1 1 74 1d69e 1 1 75 1d69f 1 1 76 1d6a0 1 1 77 1d6a1 1 1
      78 1d6a2 1 1 79 1d6a3 1 1 7a 1d6a4 1 1 131 1d6a5 1 1 237 1d6a6 4 1d6a8 1 1 3b1 1d6a9 1 1
      3b2 1d6aa 1 1 3b3 1d6ab 1 1 3b4 1d6ac 1 1 3b5 1d6ad 1 1 3b6 1d6ae 1 1 3b7 1d6af 1 1 3b8
      1d6b0 1 1 3b9 1d6b1 1 1 3ba 1d6b2 1 1 3bb 1d6b3 1 1 3bc 1d6b4 1 1 3bd 1d6b5 1 1 3be 1d6b6
      1 1 3bf 1d6b7 1 1 3c0 1d6b8 1 1 3c1 1d6b9 1 1 3b8 1d6ba 1 1 3c3 1d6bb 1 1 3c4 1d6bc 1 1
      3c5 1d6bd 1 1 3c6 1d6be 1 1 3c7 1d6bf 1 1 3c8 1d6c0 1 1 3c9 1d6c1 1 1 2207 1d6c2 1 1 3b1
      1d6c3 1 1 3b2 1d6c4 1 1 3b3 1d6c5 1 1 3b4 1d6c6 1 1 3b5 1d6c7 1 1 3b6 1d6c8 1 1 3b7 1d6c9
      1 1 3b8 1d6ca 1 1 3b9 1d6cb 1 1 3ba 1d6cc 1 1 3bb 1d6cd 1 1 3bc 1d6ce 1 1 3bd 1d6cf 1 1
      3be 1d6d0 1 1 3bf 1d6d1 1 1 3c0 1d6d2 1 1 3c1 1d6d3 1 1 3c3 1d6d5 1 1 3c4 1d6d6 1 1 3c5
      1d6d7 1 1 3c6 1d6d8 1 1 3c7 1d6d9 1 1 3c8 1d6da 1 1 3c9 1d6db 1 1 2202 1d6dc 1 1 3b5 1d6dd
      1 1 3b8 1d6de 1 1 3ba 1d6df 1 1 3c6 1d6e0 1 1 3c1 1d6e1 1 1 3c0 1d6e2 1 1 3b1 1d6e3 1 1
      3b2 1d6e4 1 1 3b3 1d6e5 1 1 3b4 1d6e6 1 1 3b5 1d6e7 1 1 3b6 1d6e8 1 1 3b7 1d6e9 1 1 3b8
      1d6ea 1 1 3b9 1d6eb 1 1 3ba 1d6ec 1 1 3bb 1d6ed 1 1 3bc 1d6ee 1 1 3bd 1d6ef 1 1 3be 1d6f0
      1 1 3bf 1d6f1 1 1 3c0 1d6f2 1 1 3c1 1d6f3 1 1 3b8 1d6f4 1 1 3c3 1d6f5 1 1 3c4 1d6f6 1 1
      3c5 1d6f7 1 1 3c6 1d6f8 1 1 3c7 1d6f9 1 1 3c8 1d6fa 1 1 3c9 1d6fb 1 1 2207 1d6fc 1 1 3b1
      1d6fd 1 1 3b2 1d6fe 1 1 3b3 1d6ff 1 1 3b4 1d700 1 1 3b5 1d701 1 1 3b6 1d702 1 1 3b7 1d703
      1 1 3b8 1d704 1 1 3b9 1d705 1 1 3ba 1d706 1 1 3bb 1d707 1 1 3bc 1d708 1 1 3bd 1d709 1 1
      3be 1d70a 1 1 3bf 1d70b 1 1 3c0 1d70c 1 1 3c1 1d70d 1 1 3c3 1d70f 1 1 3c4 1d710 1 1 3c5
      1d711 1 1 3c6 1d712 1 1 3c7 1d713 1 1 3c8 1d714 1 1 3c9 1d715 1 1 2202 1d716 1 1 3b5 1d717
      1 1 3b8 1d718 1 1 3ba 1d719 1 1 3c6 1d71a 1 1 3c1 1d71b 1 1 3c0 1d71c 1 1 3b1 1d71d 1 1
      3b2 1d71e 1 1 3b3 1d71f 1 1 3b4 1d720 1 1 3b5 1d721 1 1 3b6 1d722 1 1 3b7 1d723 1 1 3b8
      1d724 1 1 3b9 1d725 1 1 3ba 1d726 1 1 3bb 1d727 1 1 3bc 1d728 1 1 3bd 1d729 1 1 3be 1d72a
      1 1 3bf 1d72b 1 1 3c0 1d72c 1 1 3c1 1d72d 1 1 3b8 1d72e 1 1 3c3 1d72f 1 1 3c4 1d730 1 1
      3c5 1d731 1 1 3c6 1d732 1 1 3c7 1d733 1 1 3c8 1d734 1 1 3c9 1d735 1 1 2207 1d736 1 1 3b1
      1d737 1 1 3b2 1d738 1 1 3b3 1d739 1 1 3b4 1d73a 1 1 3b5 1d73b 1 1 3b6 1d73c 1 1 3b7 1d73d
      1 1 3b8 1d73e 1 1 3b9 1d73f 1 1 3ba 1d740 1 1 3bb 1d741 1 1 3bc 1d742 1 1 3bd 1d743 1 1
      3be 1d744 1 1 3bf 1d745 1 1 3c0 1d746 1 1 3c1 1d747 1 1 3c3 1d749 1 1 3c4 1d74a 1 1 3c5
      1d74b 1 1 3c6 1d74c 1 1 3c7 1d74d 1 1 3c8 1d74e 1 1 3c9 1d74f 1 1 2202 1d750 1 1 3b5 1d751
      1 1 3b8 1d752 1 1 3ba 1d753 1 1 3c6 1d754 1 1 3c1 1d755 1 1 3c0 1d756 1 1 3b1 1d757 1 1
      3b2 1d758 1 1 3b3 1d759 1 1 3b4 1d75a 1 1 3b5 1d75b 1 1 3b6 1d75c 1 1 3b7 1d75d 1 1 3b8
      1d75e 1 1 3b9 1d75f 1 1 3ba 1d760 1 1 3bb 1d761 1 1 3bc 1d762 1 1 3bd 1d763 1 1 3be 1d764
      1 1 3bf 1d765 1 1 3c0 1d766 1 1 3c1 1d767 1 1 3b8 1d768 1 1 3c3 1d769 1 1 3c4 1d76a 1 1
      3c5 1d76b 1 1 3c6 1d76c 1 1 3c7 1d76d 1 1 3c8 1d76e 1 1 3c9 1d76f 1 1 2207 1d770 1 1 3b1
      1d771 1 1 3b2 1d772 1 1 3b3 1d773 1 1 3b4 1d774 1 1 3b5 1d775 1 1 3b6 1d776 1 1 3b7 1d777
      1 1 3b8 1d778 1 1 3b9 1d779 1 1 3ba 1d77a 1 1 3bb 1d77b 1 1 3bc 1d77c 1 1 3bd 1d77d 1 1
      3be 1d77e 1 1 3bf 1d77f 1 1 3c0 1d780 1 1 3c1 1d781 1 1 3c3 1d783 1 1 3c4 1d784 1 1 3c5
      1d785 1 1 3c6 1d786 1 1 3c7 1d787 1 1 3c8 1d788 1 1 3c9 1d789 1 1 2202 1d78a 1 1 3b5 1d78b
      1 1 3b8 1d78c 1 1 3ba 1d78d 1 1 3c6 1d78e 1 1 3c1 1d78f 1 1 3c0 1d790 1 1 3b1 1d791 1 1
      3b2 1d792 1 1 3b3 1d793 1 1 3b4 1d794 1 1 3b5 1d795 1 1 3b6 1d796 1 1 3b7 1d797 1 1 3b8
      1d798 1 1 3b9 1d799 1 1 3ba 1d79a 1 1 3bb 1d79b 1 1 3bc 1d79c 1 1 3bd 1d79d 1 1 3be 1d79e
      1 1 3bf 1d79f 1 1 3c0 1d7a0 1 1 3c1 1d7a1 1 1 3b8 1d7a2 1 1 3c3 1d7a3 1 1 3c4 1d7a4 1 1
      3c5 1d7a5 1 1 3c6 1d7a6 1 1 3c7 1d7a7 1 1 3c8 1d7a8 1 1 3c9 1d7a9 1 1 2207 1d7aa 1 1 3b1
      1d7ab 1 1 3b2 1d7ac 1 1 3b3 1d7ad 1 1 3b4 1d7ae 1 1 3b5 1d7af 1 1 3b6 1d7b0 1 1 3b7 1d7b1
      1 1 3b8 1d7b2 1 1 3b9 1d7b3 1 1 3ba 1d7b4 1 1 3bb 1d7b5 1 1 3bc 1d7b6 1 1 3bd 1d7b7 1 1
      3be 1d7b8 1 1 3bf 1d7b9 1 1 3c0 1d7ba 1 1 3c1 1d7bb 1 1 3c3 1d7bd 1 1 3c4 1d7be 1 1 3c5
      1d7bf 1 1 3c6 1d7c0 1 1 3c7 1d7c1 1 1 3c8 1d7c2 1 1 3c9 1d7c3 1 1 2202 1d7c4 1 1 3b5 1d7c5
      1 1 3b8 1d7c6 1 1 3ba 1d7c7 1 1 3c6 1d7c8 1 1 3c1 1d7c9 1 1 3c0 1d7ca 1 1 3dd 1d7cc 4
      1d7ce 1 1 30 1d7cf 1 1 31 1d7d0 1 1 32 1d7d1 1 1 33 1d7d2 1 1 34 1d7d3 1 1 35 1d7d4 1 1 36
      1d7d5 1 1 37 1d7d6 1 1 38 1d7d7 1 1 39 1d7d8 1 1 30 1d7d9 1 1 31 1d7da 1 1 32 1d7db 1 1 33
      1d7dc 1 1 34 1d7dd 1 1 35 1d7de 1 1 36 1d7df 1 1 37 1d7e0 1 1 38 1d7e1 1 1 39 1d7e2 1 1 30
      1d7e3 1 1 31 1d7e4 1 1 32 1d7e5 1 1 33 1d7e6 1 1 34 1d7e7 1 1 35 1d7e8 1 1 36 1d7e9 1 1 37
      1d7ea 1 1 38 1d7eb 1 1 39 1d7ec 1 1 30 1d7ed 1 1 31 1d7ee 1 1 32 1d7ef 1 1 33 1d7f0 1 1 34
      1d7f1 1 1 35 1d7f2 1 1 36 1d7f3 1 1 37 1d7f4 1 1 38 1d7f5 1 1 39 1d7f6 1 1 30 1d7f7 1 1 31
      1d7f8 1 1 32 1d7f9 1 1 33 1d7fa 1 1 34 1d7fb 1 1 35 1d7fc 1 1 36 1d7fd 1 1 37 1d7fe 1 1 38
      1d7ff 1 1 39 1d800 0 1da8c 4 1da9b 0 1daa0 4 1daa1 0 1dab0 4 1df00 0 1df1f 4 1df25 0 1df2b
      4 1e000 0 1e007 4 1e008 0 1e019 4 1e01b 0 1e022 4 1e023 0 1e025 4 1e026 0 1e02b 4 1e030 1
      1 430 1e031 1 1 431 1e032 1 1 432 1e033 1 1 433 1e034 1 1 434 1e035 1 1 435 1e036 1 1 436
      1e037 1 1 437 1e038 1 1 438 1e039 1 1 43a 1e03a 1 1 43b 1e03b 1 1 43c 1e03c 1 1 43e 1e03d
      1 1 43f 1e03e 1 1 440 1e03f 1 1 441 1e040 1 1 442 1e041 1 1 443 1e042 1 1 444 1e043 1 1
      445 1e044 1 1 446 1e045 1 1 447 1e046 1 1 448 1e047 1 1 44b 1e048 1 1 44d 1e049 1 1 44e
      1e04a 1 1 a689 1e04b 1 1 4d9 1e04c 1 1 456 1e04d 1 1 458 1e04e 1 1 4e9 1e04f 1 1 4af 1e050
      1 1 4cf 1e051 1 1 430 1e052 1 1 431 1e053 1 1 432 1e054 1 1 433 1e055 1 1 434 1e056 1 1
      435 1e057 1 1 436 1e058 1 1 437 1e059 1 1 438 1e05a 1 1 43a 1e05b 1 1 43b 1e05c 1 1 43e
      1e05d 1 1 43f 1e05e 1 1 441 1e05f 1 1 443 1e060 1 1 444 1e061 1 1 445 1e062 1 1 446 1e063
      1 1 447 1e064 1 1 448 1e065 1 1 44a 1e066 1 1 44b 1e067 1 1 491 1e068 1 1 456 1e069 1 1
      455 1e06a 1 1 45f 1e06b 1 1 4ab 1e06c 1 1 a651 1e06d 1 1 4b1 1e06e 4 1e08f 0 1e090 4 1e100
      0 1e12d 4 1e130 0 1e13e 4 1e140 0 1e14a 4 1e14e 0 1e150 4 1e290 0 1e2af 4 1e2c0 0 1e2fa 4
      1e2ff 0 1e300 4 1e4d0 0 1e4fa 4 1e5d0 0 1e5fb 4 1e5ff 0 1e600 4 1e6c0 0 1e6df 4 1e6e0 0
      1e6f6 4 1e6fe 0 1e700 4 1e7e0 0 1e7e7 4 1e7e8 0 1e7ec 4 1e7ed 0 1e7ef 4 1e7f0 0 1e7ff 4
      1e800 0 1e8c5 4 1e8c7 0 1e8d7 4 1e900 1 1 1e922 1e901 1 1 1e923 1e902 1 1 1e924 1e903 1 1
      1e925 1e904 1 1 1e926 1e905 1 1 1e927 1e906 1 1 1e928 1e907 1 1 1e929 1e908 1 1 1e92a
      1e909 1 1 1e92b 1e90a 1 1 1e92c 1e90b 1 1 1e92d 1e90c 1 1 1e92e 1e90d 1 1 1e92f 1e90e 1 1
      1e930 1e90f 1 1 1e931 1e910 1 1 1e932 1e911 1 1 1e933 1e912 1 1 1e934 1e913 1 1 1e935
      1e914 1 1 1e936 1e915 1 1 1e937 1e916 1 1 1e938 1e917 1 1 1e939 1e918 1 1 1e93a 1e919 1 1
      1e93b 1e91a 1 1 1e93c 1e91b 1 1 1e93d 1e91c 1 1 1e93e 1e91d 1 1 1e93f 1e91e 1 1 1e940
      1e91f 1 1 1e941 1e920 1 1 1e942 1e921 1 1 1e943 1e922 0 1e94c 4 1e950 0 1e95a 4 1e95e 0
      1e960 4 1ec71 0 1ecb5 4 1ed01 0 1ed3e 4 1ee00 1 1 627 1ee01 1 1 628 1ee02 1 1 62c 1ee03 1
      1 62f 1ee04 4 1ee05 1 1 648 1ee06 1 1 632 1ee07 1 1 62d 1ee08 1 1 637 1ee09 1 1 64a 1ee0a
      1 1 643 1ee0b 1 1 644 1ee0c 1 1 645 1ee0d 1 1 646 1ee0e 1 1 633 1ee0f 1 1 639 1ee10 1 1
      641 1ee11 1 1 635 1ee12 1 1 642 1ee13 1 1 631 1ee14 1 1 634 1ee15 1 1 62a 1ee16 1 1 62b
      1ee17 1 1 62e 1ee18 1 1 630 1ee19 1 1 636 1ee1a 1 1 638 1ee1b 1 1 63a 1ee1c 1 1 66e 1ee1d
      1 1 6ba 1ee1e 1 1 6a1 1ee1f 1 1 66f 1ee20 4 1ee21 1 1 628 1ee22 1 1 62c 1ee23 4 1ee24 1 1
      647 1ee25 4 1ee27 1 1 62d 1ee28 4 1ee29 1 1 64a 1ee2a 1 1 643 1ee2b 1 1 644 1ee2c 1 1 645
      1ee2d 1 1 646 1ee2e 1 1 633 1ee2f 1 1 639 1ee30 1 1 641 1ee31 1 1 635 1ee32 1 1 642 1ee33
      4 1ee34 1 1 634 1ee35 1 1 62a 1ee36 1 1 62b 1ee37 1 1 62e 1ee38 4 1ee39 1 1 636 1ee3a 4
      1ee3b 1 1 63a 1ee3c 4 1ee42 1 1 62c 1ee43 4 1ee47 1 1 62d 1ee48 4 1ee49 1 1 64a 1ee4a 4
      1ee4b 1 1 644 1ee4c 4 1ee4d 1 1 646 1ee4e 1 1 633 1ee4f 1 1 639 1ee50 4 1ee51 1 1 635
      1ee52 1 1 642 1ee53 4 1ee54 1 1 634 1ee55 4 1ee57 1 1 62e 1ee58 4 1ee59 1 1 636 1ee5a 4
      1ee5b 1 1 63a 1ee5c 4 1ee5d 1 1 6ba 1ee5e 4 1ee5f 1 1 66f 1ee60 4 1ee61 1 1 628 1ee62 1 1
      62c 1ee63 4 1ee64 1 1 647 1ee65 4 1ee67 1 1 62d 1ee68 1 1 637 1ee69 1 1 64a 1ee6a 1 1 643
      1ee6b 4 1ee6c 1 1 645 1ee6d 1 1 646 1ee6e 1 1 633 1ee6f 1 1 639 1ee70 1 1 641 1ee71 1 1
      635 1ee72 1 1 642 1ee73 4 1ee74 1 1 634 1ee75 1 1 62a 1ee76 1 1 62b 1ee77 1 1 62e 1ee78 4
      1ee79 1 1 636 1ee7a 1 1 638 1ee7b 1 1 63a 1ee7c 1 1 66e 1ee7d 4 1ee7e 1 1 6a1 1ee7f 4
      1ee80 1 1 627 1ee81 1 1 628 1ee82 1 1 62c 1ee83 1 1 62f 1ee84 1 1 647 1ee85 1 1 648 1ee86
      1 1 632 1ee87 1 1 62d 1ee88 1 1 637 1ee89 1 1 64a 1ee8a 4 1ee8b 1 1 644 1ee8c 1 1 645
      1ee8d 1 1 646 1ee8e 1 1 633 1ee8f 1 1 639 1ee90 1 1 641 1ee91 1 1 635 1ee92 1 1 642 1ee93
      1 1 631 1ee94 1 1 634 1ee95 1 1 62a 1ee96 1 1 62b 1ee97 1 1 62e 1ee98 1 1 630 1ee99 1 1
      636 1ee9a 1 1 638 1ee9b 1 1 63a 1ee9c 4 1eea1 1 1 628 1eea2 1 1 62c 1eea3 1 1 62f 1eea4 4
      1eea5 1 1 648 1eea6 1 1 632 1eea7 1 1 62d 1eea8 1 1 637 1eea9 1 1 64a 1eeaa 4 1eeab 1 1
      644 1eeac 1 1 645 1eead 1 1 646 1eeae 1 1 633 1eeaf 1 1 639 1eeb0 1 1 641 1eeb1 1 1 635
      1eeb2 1 1 642 1eeb3 1 1 631 1eeb4 1 1 634 1eeb5 1 1 62a 1eeb6 1 1 62b 1eeb7 1 1 62e 1eeb8
      1 1 630 1eeb9 1 1 636 1eeba 1 1 638 1eebb 1 1 63a 1eebc 4 1eef0 0 1eef2 4 1f000 0 1f02c 4
      1f030 0 1f094 4 1f0a0 0 1f0af 4 1f0b1 0 1f0c0 4 1f0c1 0 1f0d0 4 1f0d1 0 1f0f6 4 1f101 1 2
      30 2c 1f102 1 2 31 2c 1f103 1 2 32 2c 1f104 1 2 33 2c 1f105 1 2 34 2c 1f106 1 2 35 2c
      1f107 1 2 36 2c 1f108 1 2 37 2c 1f109 1 2 38 2c 1f10a 1 2 39 2c 1f10b 0 1f110 1 3 28 61 29
      1f111 1 3 28 62 29 1f112 1 3 28 63 29 1f113 1 3 28 64 29 1f114 1 3 28 65 29 1f115 1 3 28
      66 29 1f116 1 3 28 67 29 1f117 1 3 28 68 29 1f118 1 3 28 69 29 1f119 1 3 28 6a 29 1f11a 1
      3 28 6b 29 1f11b 1 3 28 6c 29 1f11c 1 3 28 6d 29 1f11d 1 3 28 6e 29 1f11e 1 3 28 6f 29
      1f11f 1 3 28 70 29 1f120 1 3 28 71 29 1f121 1 3 28 72 29 1f122 1 3 28 73 29 1f123 1 3 28
      74 29 1f124 1 3 28 75 29 1f125 1 3 28 76 29 1f126 1 3 28 77 29 1f127 1 3 28 78 29 1f128 1
      3 28 79 29 1f129 1 3 28 7a 29 1f12a 1 3 3014 73 3015 1f12b 1 1 63 1f12c 1 1 72 1f12d 1 2
      63 64 1f12e 1 2 77 7a 1f12f 0 1f130 1 1 61 1f131 1 1 62 1f132 1 1 63 1f133 1 1 64 1f134 1
      1 65 1f135 1 1 66 1f136 1 1 67 1f137 1 1 68 1f138 1 1 69 1f139 1 1 6a 1f13a 1 1 6b 1f13b 1
      1 6c 1f13c 1 1 6d 1f13d 1 1 6e 1f13e 1 1 6f 1f13f 1 1 70 1f140 1 1 71 1f141 1 1 72 1f142 1
      1 73 1f143 1 1 74 1f144 1 1 75 1f145 1 1 76 1f146 1 1 77 1f147 1 1 78 1f148 1 1 79 1f149 1
      1 7a 1f14a 1 2 68 76 1f14b 1 2 6d 76 1f14c 1 2 73 64 1f14d 1 2 73 73 1f14e 1 3 70 70 76
      1f14f 1 2 77 63 1f150 0 1f16a 1 2 6d 63 1f16b 1 2 6d 64 1f16c 1 2 6d 72 1f16d 0 1f190 1 2
      64 6a 1f191 0 1f1ae 4 1f1e6 0 1f200 1 2 307b 304b 1f201 1 2 30b3 30b3 1f202 1 1 30b5 1f203
      4 1f210 1 1 624b 1f211 1 1 5b57 1f212 1 1 53cc 1f213 1 1 30c7 1f214 1 1 4e8c 1f215 1 1
      591a 1f216 1 1 89e3 1f217 1 1 5929 1f218 1 1 4ea4 1f219 1 1 6620 1f21a 1 1 7121 1f21b 1 1
      6599 1f21c 1 1 524d 1f21d 1 1 5f8c 1f21e 1 1 518d 1f21f 1 1 65b0 1f220 1 1 521d 1f221 1 1
      7d42 1f222 1 1 751f 1f223 1 1 8ca9 1f224 1 1 58f0 1f225 1 1 5439 1f226 1 1 6f14 1f227 1 1
      6295 1f228 1 1 6355 1f229 1 1 4e00 1f22a 1 1 4e09 1f22b 1 1 904a 1f22c 1 1 5de6 1f22d 1 1
      4e2d 1f22e 1 1 53f3 1f22f 1 1 6307 1f230 1 1 8d70 1f231 1 1 6253 1f232 1 1 7981 1f233 1 1
      7a7a 1f234 1 1 5408 1f235 1 1 6e80 1f236 1 1 6709 1f237 1 1 6708 1f238 1 1 7533 1f239 1 1
      5272 1f23a 1 1 55b6 1f23b 1 1 914d 1f23c 4 1f240 1 3 3014 672c 3015 1f241 1 3 3014 4e09
      3015 1f242 1 3 3014 4e8c 3015 1f243 1 3 3014 5b89 3015 1f244 1 3 3014 70b9 3015 1f245 1 3
      3014 6253 3015 1f246 1 3 3014 76d7 3015 1f247 1 3 3014 52dd 3015 1f248 1 3 3014 6557 3015
      1f249 4 1f250 1 1 5f97 1f251 1 1 53ef 1f252 4 1f260 0 1f266 4 1f300 0 1f6d9 4 1f6dc 0
      1f6ed 4 1f6f0 0 1f6fd 4 1f700 0 1f7da 4 1f7e0 0 1f7ec 4 1f7f0 0 1f7f1 4 1f800 0 1f80c 4
      1f810 0 1f848 4 1f850 0 1f85a 4 1f860 0 1f888 4 1f890 0 1f8ae 4 1f8b0 0 1f8bc 4 1f8c0 0
      1f8c2 4 1f8d0 0 1f8d9 4 1f900 0 1fa58 4 1fa60 0 1fa6e 4 1fa70 0 1fa7d 4 1fa80 0 1fa8b 4
      1fa8e 0 1fac7 4 1fac8 0 1fac9 4 1facd 0 1fadd 4 1fadf 0 1faeb 4 1faef 0 1faf9 4 1fb00 0
      1fb93 4 1fb94 0 1fbf0 1 1 30 1fbf1 1 1 31 1fbf2 1 1 32 1fbf3 1 1 33 1fbf4 1 1 34 1fbf5 1 1
      35 1fbf6 1 1 36 1fbf7 1 1 37 1fbf8 1 1 38 1fbf9 1 1 39 1fbfa 0 1fbfb 4 20000 0 2a6e0 4
      2a700 0 2b81e 4 2b820 0 2ceae 4 2ceb0 0 2ebe1 4 2ebf0 0 2ee5e 4 2f800 1 1 4e3d 2f801 1 1
      4e38 2f802 1 1 4e41 2f803 1 1 20122 2f804 1 1 4f60 2f805 1 1 4fae 2f806 1 1 4fbb 2f807 1 1
      5002 2f808 1 1 507a 2f809 1 1 5099 2f80a 1 1 50e7 2f80b 1 1 50cf 2f80c 1 1 349e 2f80d 1 1
      2063a 2f80e 1 1 514d 2f80f 1 1 5154 2f810 1 1 5164 2f811 1 1 5177 2f812 1 1 2051c 2f813 1
      1 34b9 2f814 1 1 5167 2f815 1 1 518d 2f816 1 1 2054b 2f817 1 1 5197 2f818 1 1 51a4 2f819 1
      1 4ecc 2f81a 1 1 51ac 2f81b 1 1 51b5 2f81c 1 1 291df 2f81d 1 1 51f5 2f81e 1 1 5203 2f81f 1
      1 34df 2f820 1 1 523b 2f821 1 1 5246 2f822 1 1 5272 2f823 1 1 5277 2f824 1 1 3515 2f825 1
      1 52c7 2f826 1 1 52c9 2f827 1 1 52e4 2f828 1 1 52fa 2f829 1 1 5305 2f82a 1 1 5306 2f82b 1
      1 5317 2f82c 1 1 5349 2f82d 1 1 5351 2f82e 1 1 535a 2f82f 1 1 5373 2f830 1 1 537d 2f831 1
      1 537f 2f834 1 1 20a2c 2f835 1 1 7070 2f836 1 1 53ca 2f837 1 1 53df 2f838 1 1 20b63 2f839
      1 1 53eb 2f83a 1 1 53f1 2f83b 1 1 5406 2f83c 1 1 549e 2f83d 1 1 5438 2f83e 1 1 5448 2f83f
      1 1 5468 2f840 1 1 54a2 2f841 1 1 54f6 2f842 1 1 5510 2f843 1 1 5553 2f844 1 1 5563 2f845
      1 1 5584 2f847 1 1 5599 2f848 1 1 55ab 2f849 1 1 55b3 2f84a 1 1 55c2 2f84b 1 1 5716 2f84c
      1 1 5606 2f84d 1 1 5717 2f84e 1 1 5651 2f84f 1 1 5674 2f850 1 1 5207 2f851 1 1 58ee 2f852
      1 1 57ce 2f853 1 1 57f4 2f854 1 1 580d 2f855 1 1 578b 2f856 1 1 5832 2f857 1 1 5831 2f858
      1 1 58ac 2f859 1 1 214e4 2f85a 1 1 58f2 2f85b 1 1 58f7 2f85c 1 1 5906 2f85d 1 1 591a 2f85e
      1 1 5922 2f85f 1 1 5962 2f860 1 1 216a8 2f861 1 1 216ea 2f862 1 1 59ec 2f863 1 1 5a1b
      2f864 1 1 5a27 2f865 1 1 59d8 2f866 1 1 5a66 2f867 1 1 36ee 2f868 1 1 36fc 2f869 1 1 5b08
      2f86a 1 1 5b3e 2f86c 1 1 219c8 2f86d 1 1 5bc3 2f86e 1 1 5bd8 2f86f 1 1 5be7 2f870 1 1 5bf3
      2f871 1 1 21b18 2f872 1 1 5bff 2f873 1 1 5c06 2f874 1 1 5f53 2f875 1 1 5c22 2f876 1 1 3781
      2f877 1 1 5c60 2f878 1 1 5c6e 2f879 1 1 5cc0 2f87a 1 1 5c8d 2f87b 1 1 21de4 2f87c 1 1 5d43
      2f87d 1 1 21de6 2f87e 1 1 5d6e 2f87f 1 1 5d6b 2f880 1 1 5d7c 2f881 1 1 5de1 2f882 1 1 5de2
      2f883 1 1 382f 2f884 1 1 5dfd 2f885 1 1 5e28 2f886 1 1 5e3d 2f887 1 1 5e69 2f888 1 1 3862
      2f889 1 1 22183 2f88a 1 1 387c 2f88b 1 1 5eb0 2f88c 1 1 5eb3 2f88d 1 1 5eb6 2f88e 1 1 5eca
      2f88f 1 1 2a392 2f890 1 1 5efe 2f891 1 1 22331 2f893 1 1 8201 2f894 1 1 5f22 2f896 1 1
      38c7 2f897 1 1 232b8 2f898 1 1 261da 2f899 1 1 5f62 2f89a 1 1 5f6b 2f89b 1 1 38e3 2f89c 1
      1 5f9a 2f89d 1 1 5fcd 2f89e 1 1 5fd7 2f89f 1 1 5ff9 2f8a0 1 1 6081 2f8a1 1 1 393a 2f8a2 1
      1 391c 2f8a3 1 1 6094 2f8a4 1 1 226d4 2f8a5 1 1 60c7 2f8a6 1 1 6148 2f8a7 1 1 614c 2f8a8 1
      1 614e 2f8a9 1 1 614c 2f8aa 1 1 617a 2f8ab 1 1 618e 2f8ac 1 1 61b2 2f8ad 1 1 61a4 2f8ae 1
      1 61af 2f8af 1 1 61de 2f8b0 1 1 61f2 2f8b1 1 1 61f6 2f8b2 1 1 6210 2f8b3 1 1 621b 2f8b4 1
      1 625d 2f8b5 1 1 62b1 2f8b6 1 1 62d4 2f8b7 1 1 6350 2f8b8 1 1 22b0c 2f8b9 1 1 633d 2f8ba 1
      1 62fc 2f8bb 1 1 6368 2f8bc 1 1 6383 2f8bd 1 1 63e4 2f8be 1 1 22bf1 2f8bf 1 1 6422 2f8c0 1
      1 63c5 2f8c1 1 1 63a9 2f8c2 1 1 3a2e 2f8c3 1 1 6469 2f8c4 1 1 647e 2f8c5 1 1 649d 2f8c6 1
      1 6477 2f8c7 1 1 3a6c 2f8c8 1 1 654f 2f8c9 1 1 656c 2f8ca 1 1 2300a 2f8cb 1 1 65e3 2f8cc 1
      1 66f8 2f8cd 1 1 6649 2f8ce 1 1 3b19 2f8cf 1 1 6691 2f8d0 1 1 3b08 2f8d1 1 1 3ae4 2f8d2 1
      1 5192 2f8d3 1 1 5195 2f8d4 1 1 6700 2f8d5 1 1 669c 2f8d6 1 1 80ad 2f8d7 1 1 43d9 2f8d8 1
      1 6717 2f8d9 1 1 671b 2f8da 1 1 6721 2f8db 1 1 675e 2f8dc 1 1 6753 2f8dd 1 1 233c3 2f8de 1
      1 3b49 2f8df 1 1 67fa 2f8e0 1 1 6785 2f8e1 1 1 6852 2f8e2 1 1 6885 2f8e3 1 1 2346d 2f8e4 1
      1 688e 2f8e5 1 1 681f 2f8e6 1 1 6914 2f8e7 1 1 3b9d 2f8e8 1 1 6942 2f8e9 1 1 69a3 2f8ea 1
      1 69ea 2f8eb 1 1 6aa8 2f8ec 1 1 236a3 2f8ed 1 1 6adb 2f8ee 1 1 3c18 2f8ef 1 1 6b21 2f8f0 1
      1 238a7 2f8f1 1 1 6b54 2f8f2 1 1 3c4e 2f8f3 1 1 6b72 2f8f4 1 1 6b9f 2f8f5 1 1 6bba 2f8f6 1
      1 6bbb 2f8f7 1 1 23a8d 2f8f8 1 1 21d0b 2f8f9 1 1 23afa 2f8fa 1 1 6c4e 2f8fb 1 1 23cbc
      2f8fc 1 1 6cbf 2f8fd 1 1 6ccd 2f8fe 1 1 6c67 2f8ff 1 1 6d16 2f900 1 1 6d3e 2f901 1 1 6d77
      2f902 1 1 6d41 2f903 1 1 6d69 2f904 1 1 6d78 2f905 1 1 6d85 2f906 1 1 23d1e 2f907 1 1 6d34
      2f908 1 1 6e2f 2f909 1 1 6e6e 2f90a 1 1 3d33 2f90b 1 1 6ecb 2f90c 1 1 6ec7 2f90d 1 1 23ed1
      2f90e 1 1 6df9 2f90f 1 1 6f6e 2f910 1 1 23f5e 2f911 1 1 23f8e 2f912 1 1 6fc6 2f913 1 1
      7039 2f914 1 1 701e 2f915 1 1 701b 2f916 1 1 3d96 2f917 1 1 704a 2f918 1 1 707d 2f919 1 1
      7077 2f91a 1 1 70ad 2f91b 1 1 20525 2f91c 1 1 7145 2f91d 1 1 24263 2f91e 1 1 719c 2f91f 1
      1 243ab 2f920 1 1 7228 2f921 1 1 7235 2f922 1 1 7250 2f923 1 1 24608 2f924 1 1 7280 2f925
      1 1 7295 2f926 1 1 24735 2f927 1 1 24814 2f928 1 1 737a 2f929 1 1 738b 2f92a 1 1 3eac
      2f92b 1 1 73a5 2f92c 1 1 3eb8 2f92e 1 1 7447 2f92f 1 1 745c 2f930 1 1 7471 2f931 1 1 7485
      2f932 1 1 74ca 2f933 1 1 3f1b 2f934 1 1 7524 2f935 1 1 24c36 2f936 1 1 753e 2f937 1 1
      24c92 2f938 1 1 7570 2f939 1 1 2219f 2f93a 1 1 7610 2f93b 1 1 24fa1 2f93c 1 1 24fb8 2f93d
      1 1 25044 2f93e 1 1 3ffc 2f93f 1 1 4008 2f940 1 1 76f4 2f941 1 1 250f3 2f942 1 1 250f2
      2f943 1 1 25119 2f944 1 1 25133 2f945 1 1 771e 2f946 1 1 771f 2f948 1 1 774a 2f949 1 1
      4039 2f94a 1 1 778b 2f94b 1 1 4046 2f94c 1 1 4096 2f94d 1 1 2541d 2f94e 1 1 784e 2f94f 1 1
      788c 2f950 1 1 78cc 2f951 1 1 40e3 2f952 1 1 25626 2f953 1 1 7956 2f954 1 1 2569a 2f955 1
      1 256c5 2f956 1 1 798f 2f957 1 1 79eb 2f958 1 1 412f 2f959 1 1 7a40 2f95a 1 1 7a4a 2f95b 1
      1 7a4f 2f95c 1 1 2597c 2f95d 1 1 25aa7 2f95f 1 1 7aee 2f960 1 1 4202 2f961 1 1 25bab 2f962
      1 1 7bc6 2f963 1 1 7bc9 2f964 1 1 4227 2f965 1 1 25c80 2f966 1 1 7cd2 2f967 1 1 42a0 2f968
      1 1 7ce8 2f969 1 1 7ce3 2f96a 1 1 7d00 2f96b 1 1 25f86 2f96c 1 1 7d63 2f96d 1 1 4301 2f96e
      1 1 7dc7 2f96f 1 1 7e02 2f970 1 1 7e45 2f971 1 1 4334 2f972 1 1 26228 2f973 1 1 26247
      2f974 1 1 4359 2f975 1 1 262d9 2f976 1 1 7f7a 2f977 1 1 2633e 2f978 1 1 7f95 2f979 1 1
      7ffa 2f97a 1 1 8005 2f97b 1 1 264da 2f97c 1 1 26523 2f97d 1 1 8060 2f97e 1 1 265a8 2f97f 1
      1 8070 2f980 1 1 2335f 2f981 1 1 43d5 2f982 1 1 80b2 2f983 1 1 8103 2f984 1 1 440b 2f985 1
      1 813e 2f986 1 1 5ab5 2f987 1 1 267a7 2f988 1 1 267b5 2f989 1 1 23393 2f98a 1 1 2339c
      2f98b 1 1 8201 2f98c 1 1 8204 2f98d 1 1 8f9e 2f98e 1 1 446b 2f98f 1 1 8291 2f990 1 1 828b
      2f991 1 1 829d 2f992 1 1 52b3 2f993 1 1 82b1 2f994 1 1 82b3 2f995 1 1 82bd 2f996 1 1 82e6
      2f997 1 1 26b3c 2f998 1 1 82e5 2f999 1 1 831d 2f99a 1 1 8363 2f99b 1 1 83ad 2f99c 1 1 8323
      2f99d 1 1 83bd 2f99e 1 1 83e7 2f99f 1 1 8457 2f9a0 1 1 8353 2f9a1 1 1 83ca 2f9a2 1 1 83cc
      2f9a3 1 1 83dc 2f9a4 1 1 26c36 2f9a5 1 1 26d6b 2f9a6 1 1 26cd5 2f9a7 1 1 452b 2f9a8 1 1
      84f1 2f9a9 1 1 84f3 2f9aa 1 1 8516 2f9ab 1 1 273ca 2f9ac 1 1 8564 2f9ad 1 1 26f2c 2f9ae 1
      1 455d 2f9af 1 1 4561 2f9b0 1 1 26fb1 2f9b1 1 1 270d2 2f9b2 1 1 456b 2f9b3 1 1 8650 2f9b4
      1 1 865c 2f9b5 1 1 8667 2f9b6 1 1 8669 2f9b7 1 1 86a9 2f9b8 1 1 8688 2f9b9 1 1 870e 2f9ba
      1 1 86e2 2f9bb 1 1 8779 2f9bc 1 1 8728 2f9bd 1 1 876b 2f9be 1 1 8786 2f9bf 1 1 45d7 2f9c0
      1 1 87e1 2f9c1 1 1 8801 2f9c2 1 1 45f9 2f9c3 1 1 8860 2f9c4 1 1 8863 2f9c5 1 1 27667 2f9c6
      1 1 88d7 2f9c7 1 1 88de 2f9c8 1 1 4635 2f9c9 1 1 88fa 2f9ca 1 1 34bb 2f9cb 1 1 278ae 2f9cc
      1 1 27966 2f9cd 1 1 46be 2f9ce 1 1 46c7 2f9cf 1 1 8aa0 2f9d0 1 1 8aed 2f9d1 1 1 8b8a 2f9d2
      1 1 8c55 2f9d3 1 1 27ca8 2f9d4 1 1 8cab 2f9d5 1 1 8cc1 2f9d6 1 1 8d1b 2f9d7 1 1 8d77 2f9d8
      1 1 27f2f 2f9d9 1 1 20804 2f9da 1 1 8dcb 2f9db 1 1 8dbc 2f9dc 1 1 8df0 2f9dd 1 1 208de
      2f9de 1 1 8ed4 2f9df 1 1 8f38 2f9e0 1 1 285d2 2f9e1 1 1 285ed 2f9e2 1 1 9094 2f9e3 1 1
      90f1 2f9e4 1 1 9111 2f9e5 1 1 2872e 2f9e6 1 1 911b 2f9e7 1 1 9238 2f9e8 1 1 92d7 2f9e9 1 1
      92d8 2f9ea 1 1 927c 2f9eb 1 1 93f9 2f9ec 1 1 9415 2f9ed 1 1 28bfa 2f9ee 1 1 958b 2f9ef 1 1
      4995 2f9f0 1 1 95b7 2f9f1 1 1 28d77 2f9f2 1 1 49e6 2f9f3 1 1 96c3 2f9f4 1 1 5db2 2f9f5 1 1
      9723 2f9f6 1 1 29145 2f9f7 1 1 2921a 2f9f8 1 1 4a6e 2f9f9 1 1 4a76 2f9fa 1 1 97e0 2f9fb 1
      1 2940a 2f9fc 1 1 4ab2 2f9fd 1 1 29496 2f9fe 1 1 980b 2fa00 1 1 9829 2fa01 1 1 295b6 2fa02
      1 1 98e2 2fa03 1 1 4b33 2fa04 1 1 9929 2fa05 1 1 99a7 2fa06 1 1 99c2 2fa07 1 1 99fe 2fa08
      1 1 4bce 2fa09 1 1 29b30 2fa0a 1 1 9b12 2fa0b 1 1 9c40 2fa0c 1 1 9cfd 2fa0d 1 1 4cce 2fa0e
      1 1 4ced 2fa0f 1 1 9d67 2fa10 1 1 2a0ce 2fa11 1 1 4cf8 2fa12 1 1 2a105 2fa13 1 1 2a20e
      2fa14 1 1 2a291 2fa15 1 1 9ebb 2fa16 1 1 4d56 2fa17 1 1 9ef9 2fa18 1 1 9efe 2fa19 1 1 9f05
      2fa1a 1 1 9f0f 2fa1b 1 1 9f16 2fa1c 1 1 9f3b 2fa1d 1 1 2a600 2fa1e 4 30000 0 3134b 4 31350
      0 3347a 4 e0100 3 e01f0 4"
  )).toArray, .disallowed⟩

/-- The IDNA status of a character. -/
def idnaStatus (c : Char) : IdnaStatus := idnaStatuses.get c.toNat

end CiClient.Url
