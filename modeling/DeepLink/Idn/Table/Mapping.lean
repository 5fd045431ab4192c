/-! # How single characters enter a domain name

The IDNA compatibility mapping of Unicode 17. A character that no table names is kept. Numbers are
hexadecimal; runs are given by the gap since the last run and the count of further members. -/

namespace DeepLink.Idn.Table

/-- Characters that no domain name may hold. -/
def refusedRuns : String := "
80 1f 2d8 1 6 3 7 0 1 0 14 0 18d 0 26 1 32 1 3 0 37 7 1b 3 6 10 16 0 c0 0 30 1 3b 1 65 d 3b 1 31
1 f 0 1c 1 1 0 b 4 20 6 4b 0 a1 0 8 1 2 1 16 0 7 0 1 2 4 1 9 1 2 1 4 7 1 3 2 0 5 1 19 1 3 0 6 3
2 1 16 0 7 0 2 0 2 0 2 1 1 0 5 3 2 1 3 2 1 6 4 0 1 6 11 9 3 0 9 0 3 0 16 0 7 0 2 0 5 1 a 0 3 0 3
1 1 e 4 1 c 6 7 0 3 0 8 1 2 1 16 0 7 0 2 0 5 1 9 1 2 1 3 6 3 3 2 0 5 1 12 9 2 0 6 2 3 0 4 2 2 0
1 0 2 2 2 2 3 2 c 3 5 2 3 0 4 1 1 5 1 d 15 4 d 0 3 0 17 0 10 1 9 0 3 0 4 6 2 0 3 0 2 1 4 1 a 6
16 0 3 0 17 0 a 0 5 1 9 0 3 0 4 6 2 4 3 0 4 1 a 0 3 b d 0 3 0 33 0 3 0 6 3 10 1 1a 0 3 0 12 2 18
0 9 0 1 1 7 2 1 3 6 0 1 0 8 5 a 1 3 b 3a 3 1d 24 2 0 1 0 5 0 18 0 1 0 17 1 5 0 1 0 7 0 a 1 4 1f
48 0 24 3 27 0 24 0 f 0 d 24 c6 0 1 4 1 1 179 0 4 1 7 0 1 0 4 1 29 0 4 1 21 0 4 1 7 0 1 0 4 1 f
0 39 0 4 1 43 1 20 2 1a 5 56 1 6 1 280 0 1c 2 59 6 16 8 18 8 14 b d 0 3 0 2 b 5e 1 a 5 a 5 1a 5
59 6 2b 4 46 9 1f 0 c 3 c 3 1 2 2a 1 5 a 2c 3 1a 5 b 2 3e 1 41 0 1d 1 b 5 a 5 e 1 2e 1 c 13 4d 0
a6 7 3c 2 f 2 3e 4 2b 1 b 7 2b 4 216 1 6 1 26 1 6 1 8 0 1 0 1 0 1 0 1f 1 35 0 f 0 e 1 6 0 13 1 3
0 9 0 e 1 14 2 1 6 36 4 8 1 1b 0 d 2 22 d 21 e 8c 3 29a 15 b 14 28 13 6d8 1 17e 4 2d 0 1 4 1 1
38 6 2 d 18 8 7 0 7 0 7 0 7 0 7 0 7 0 7 0 7 0 7e 21 1a 0 59 b d6 29 40 0 56 1 67 4 2b 0 5e 0 56
9 2f 0 1a2 0 4 0 10 0 70b4 2 37 8 15c 13 b8 7 dd 13 3c 2 a 5 38 7 46 7 c 5 74 a 1e 2 4e 0 b 3 21
0 37 8 e 1 a 1 67 17 1c 9 6 1 6 1 6 8 7 0 7 0 3c 3 7e 1 a 5 2ba4 b 17 3 31 2103 16e 1 6a 25 7 b
5 4 1a 0 5 0 1 0 2 0 2 0 28a 1f 22 0 6 6 10 0 21 1 13 0 4 3 5 0 87 1 1 0 be 2 6 1 6 1 6 1 3 2 7
0 7 10 c 0 1a 0 13 0 2 0 f 1 e 21 7b 4 3 3 2d 2 58 0 d 2 1 2e 2e 81 1d 2 31 e 1c 3 24 8 1e 4 2b
4 1e 0 25 3 e 29 9e 1 a 5 24 3 24 3 28 7 34 a c 0 f 0 7 0 2 0 b 0 f 0 7 0 2 2 34 b 137 8 16 9 8
17 6 0 2a 0 9 44 6 1 1 0 2c 0 2 2 1 1 17 0 48 7 9 2f 13 0 2 4 21 2 1b 4 1b 25 38 3 14 1 32 0 2 4
8 0 3 0 1d 1 3 3 a 6 9 6 40 1f 27 3 c 8 36 2 1d 1 1b 4 1a 6 4 b 7 4f 49 36 33 c 33 6 2e 7 a 5 26
2 1d 7 2 cf 1f 0 2a 0 3 1 2 f 6 7 9 20 2e 7 2a 15 1a 25 1c 13 17 8 4e 3 24 8 3e 0 5 c 19 6 a 5
35 0 12 7 27 8 60 0 14 a 12 0 2f 3d 7 0 1 0 4 0 f 0 b 5 3b 4 a 5 4 0 8 1 2 1 16 0 7 0 2 0 5 0 a
1 2 1 3 1 1 5 1 4 7 1 7 2 5 a a 0 1 1 1 0 26 0 a 0 1 1 1 0 4 0 a 0 2 7 2 1c 5c 0 5 1d 48 7 a a5
36 1 26 21 45 a a 5 d 12 3a 5 a 5 14 1b 1b 1 f 3 17 b8 3c 63 53 b 8 1 1 1 8 0 2 0 1e 0 2 1 c 8 a
45 8 1 2e 1 b 1a 48 7 53 c 49 6 a 55 8 57 22 d a 5 9 0 2d 0 e 9 1d 2 20 1 16 0 e 48 7 0 2 0 2c 2
1 0 2 0 9 7 a 5 6 0 2 0 25 0 2 0 6 6 a 5 2c 3 a f5 19 6 11 0 29 2 1d 54 1 e 32 c 39b 65 6f 0 5 a
c4 a4b 63 c 430 f 16 9 f9b 4 247 1ab8 3a 6c5 239 6 1f 0 a 3 51 0 a 5 1e 1 6 9 46 9 a 0 7 0 15 4
13 1af 3a c5 5b 4 19 1 19 2b 4b 3 39 6 11 3f 5 a 7 8 1cd6 28 20 60 73 21fc 4 0 7 0 2 0 123 e 1
1c 3 1 1 d 4 7 18c 903 6b 4 d 2 9 6 a 1 8 f5b fd 2 1b4 5 17 e 11 e 2e 1 17 8 74 3b f6 9 27 1 c2
14 46 79 14 b 14 b 57 8 19 86 55 0 47 0 2 1 1 1 2 1 4 0 c 0 1 0 7 0 41 0 4 1 8 0 7 0 1c 0 4 0 5
0 1 2 7 0 154 1 124 1 2be e 5 0 f 44f 1f 5 6 d4 7 0 11 1 7 0 2 0 5 4 3e 20 1 6f 2d 2 e 1 a 3 2
13f 1f 10 3a 4 1 1cf 2a d5 2b 3 1 bf 1f 0 16 7 2 df 7 0 4 0 2 0 f 0 c5 1 10 28 4c 3 a 3 2 310 44
4b 3d c1 4 0 1b 0 2 0 1 1 1 0 a 0 4 0 1 0 1 5 1 3 1 0 1 0 1 0 3 0 2 0 1 1 1 0 1 0 1 0 1 0 1 0 2
0 1 1 4 0 7 0 4 0 4 0 1 0 a 0 11 4 3 0 5 0 11 33 2 10d 2c 3 64 b f 1 f 0 f 0 25 a ad 37 1d c 2c
3 9 6 2 d 6 99 3d9 2 11 2 d 2 da 5 c 3 1 e c 3 38 7 a 5 28 7 1e 1 c 3 2 d 9 26 158 7 e 1 d 2 b 2
39 0 1 3 10 1 c 3 a 6 93 0 67 404 a6e0 1f 111e 1 168e 1 1d31 e 26e 9a1 21e 5e1 134b 4 212a acc85
f0 2fe0f"

/-- Characters that leave no trace. -/
def droppedRuns : String := "
ad 0 2a1 0 e0f 1 653 1 55 4 7fb 0 54 4 5 5 10f4 0 cc9b f ef 0 a0 0 bcff 3 14cf 7 c2f85 ef"

/-- Runs that are replaced: gap, further members, length of the replacement, the replacement. -/
def mappedRows : String := "
41 0 1 61 0 0 1 62 0 0 1 63 0 0 1 64 0 0 1 65 0 0 1 66 0 0 1 67 0 0 1 68 0 0 1 69 0 0 1 6a 0 0 1
6b 0 0 1 6c 0 0 1 6d 0 0 1 6e 0 0 1 6f 0 0 1 70 0 0 1 71 0 0 1 72 0 0 1 73 0 0 1 74 0 0 1 75 0 0
1 76 0 0 1 77 0 0 1 78 0 0 1 79 0 0 1 7a 45 0 1 20 7 0 2 20 308 1 0 1 61 4 0 2 20 304 2 0 1 32 0
0 1 33 0 0 2 20 301 0 0 1 3bc 2 0 2 20 327 0 0 1 31 0 0 1 6f 1 0 3 31 2044 34 0 0 3 31 2044 32 0
0 3 33 2044 34 1 0 1 e0 0 0 1 e1 0 0 1 e2 0 0 1 e3 0 0 1 e4 0 0 1 e5 0 0 1 e6 0 0 1 e7 0 0 1 e8
0 0 1 e9 0 0 1 ea 0 0 1 eb 0 0 1 ec 0 0 1 ed 0 0 1 ee 0 0 1 ef 0 0 1 f0 0 0 1 f1 0 0 1 f2 0 0 1
f3 0 0 1 f4 0 0 1 f5 0 0 1 f6 1 0 1 f8 0 0 1 f9 0 0 1 fa 0 0 1 fb 0 0 1 fc 0 0 1 fd 0 0 1 fe 21
0 1 101 1 0 1 103 1 0 1 105 1 0 1 107 1 0 1 109 1 0 1 10b 1 0 1 10d 1 0 1 10f 1 0 1 111 1 0 1
113 1 0 1 115 1 0 1 117 1 0 1 119 1 0 1 11b 1 0 1 11d 1 0 1 11f 1 0 1 121 1 0 1 123 1 0 1 125 1
0 1 127 1 0 1 129 1 0 1 12b 1 0 1 12d 1 0 1 12f 1 0 2 69 307 1 1 2 69 6a 0 0 1 135 1 0 1 137 2 0
1 13a 1 0 1 13c 1 0 1 13e 1 1 2 6c b7 0 0 1 142 1 0 1 144 1 0 1 146 1 0 1 148 1 0 2 2bc 6e 0 0 1
14b 1 0 1 14d 1 0 1 14f 1 0 1 151 1 0 1 153 1 0 1 155 1 0 1 157 1 0 1 159 1 0 1 15b 1 0 1 15d 1
0 1 15f 1 0 1 161 1 0 1 163 1 0 1 165 1 0 1 167 1 0 1 169 1 0 1 16b 1 0 1 16d 1 0 1 16f 1 0 1
171 1 0 1 173 1 0 1 175 1 0 1 177 1 0 1 ff 0 0 1 17a 1 0 1 17c 1 0 1 17e 1 0 1 73 1 0 1 253 0 0
1 183 1 0 1 185 1 0 1 254 0 0 1 188 1 0 1 256 0 0 1 257 0 0 1 18c 2 0 1 1dd 0 0 1 259 0 0 1 25b
0 0 1 192 1 0 1 260 0 0 1 263 1 0 1 269 0 0 1 268 0 0 1 199 3 0 1 26f 0 0 1 272 1 0 1 275 0 0 1
1a1 1 0 1 1a3 1 0 1 1a5 1 0 1 280 0 0 1 1a8 1 0 1 283 2 0 1 1ad 1 0 1 288 0 0 1 1b0 1 0 1 28a 0
0 1 28b 0 0 1 1b4 1 0 1 1b6 1 0 1 292 0 0 1 1b9 3 0 1 1bd 7 2 2 64 17e 0 2 2 6c 6a 0 2 2 6e 6a 0
0 1 1ce 1 0 1 1d0 1 0 1 1d2 1 0 1 1d4 1 0 1 1d6 1 0 1 1d8 1 0 1 1da 1 0 1 1dc 2 0 1 1df 1 0 1
1e1 1 0 1 1e3 1 0 1 1e5 1 0 1 1e7 1 0 1 1e9 1 0 1 1eb 1 0 1 1ed 1 0 1 1ef 2 2 2 64 7a 0 0 1 1f5
1 0 1 195 0 0 1 1bf 0 0 1 1f9 1 0 1 1fb 1 0 1 1fd 1 0 1 1ff 1 0 1 201 1 0 1 203 1 0 1 205 1 0 1
207 1 0 1 209 1 0 1 20b 1 0 1 20d 1 0 1 20f 1 0 1 211 1 0 1 213 1 0 1 215 1 0 1 217 1 0 1 219 1
0 1 21b 1 0 1 21d 1 0 1 21f 1 0 1 19e 1 0 1 223 1 0 1 225 1 0 1 227 1 0 1 229 1 0 1 22b 1 0 1
22d 1 0 1 22f 1 0 1 231 1 0 1 233 7 0 1 2c65 0 0 1 23c 1 0 1 19a 0 0 1 2c66 2 0 1 242 1 0 1 180
0 0 1 289 0 0 1 28c 0 0 1 247 1 0 1 249 1 0 1 24b 1 0 1 24d 1 0 1 24f 61 0 1 68 0 0 1 266 0 0 1
6a 0 0 1 72 0 0 1 279 0 0 1 27b 0 0 1 281 0 0 1 77 0 0 1 79 1f 0 2 20 306 0 0 2 20 307 0 0 2 20
30a 0 0 2 20 328 0 0 2 20 303 0 0 2 20 30b 2 0 1 263 0 0 1 6c 0 0 1 73 0 0 1 78 0 0 1 295 5b 0 1
300 0 0 1 301 1 0 1 313 0 0 2 308 301 0 0 1 3b9 2a 0 1 371 1 0 1 373 1 0 1 2b9 1 0 1 377 3 0 2
20 3b9 3 0 1 3b 0 0 1 3f3 4 0 2 20 301 0 0 3 20 308 301 0 0 1 3ac 0 0 1 b7 0 0 1 3ad 0 0 1 3ae 0
0 1 3af 1 0 1 3cc 1 0 1 3cd 0 0 1 3ce 1 0 1 3b1 0 0 1 3b2 0 0 1 3b3 0 0 1 3b4 0 0 1 3b5 0 0 1
3b6 0 0 1 3b7 0 0 1 3b8 0 0 1 3b9 0 0 1 3ba 0 0 1 3bb 0 0 1 3bc 0 0 1 3bd 0 0 1 3be 0 0 1 3bf 0
0 1 3c0 0 0 1 3c1 1 0 1 3c3 0 0 1 3c4 0 0 1 3c5 0 0 1 3c6 0 0 1 3c7 0 0 1 3c8 0 0 1 3c9 0 0 1
3ca 0 0 1 3cb 23 0 1 3d7 0 0 1 3b2 0 0 1 3b8 0 0 1 3c5 0 0 1 3cd 0 0 1 3cb 0 0 1 3c6 0 0 1 3c0 1
0 1 3d9 1 0 1 3db 1 0 1 3dd 1 0 1 3df 1 0 1 3e1 1 0 1 3e3 1 0 1 3e5 1 0 1 3e7 1 0 1 3e9 1 0 1
3eb 1 0 1 3ed 1 0 1 3ef 1 0 1 3ba 0 0 1 3c1 0 0 1 3c3 1 0 1 3b8 0 0 1 3b5 1 0 1 3f8 1 0 1 3c3 0
0 1 3fb 2 0 1 37b 0 0 1 37c 0 0 1 37d 0 0 1 450 0 0 1 451 0 0 1 452 0 0 1 453 0 0 1 454 0 0 1
455 0 0 1 456 0 0 1 457 0 0 1 458 0 0 1 459 0 0 1 45a 0 0 1 45b 0 0 1 45c 0 0 1 45d 0 0 1 45e 0
0 1 45f 0 0 1 430 0 0 1 431 0 0 1 432 0 0 1 433 0 0 1 434 0 0 1 435 0 0 1 436 0 0 1 437 0 0 1
438 0 0 1 439 0 0 1 43a 0 0 1 43b 0 0 1 43c 0 0 1 43d 0 0 1 43e 0 0 1 43f 0 0 1 440 0 0 1 441 0
0 1 442 0 0 1 443 0 0 1 444 0 0 1 445 0 0 1 446 0 0 1 447 0 0 1 448 0 0 1 449 0 0 1 44a 0 0 1
44b 0 0 1 44c 0 0 1 44d 0 0 1 44e 0 0 1 44f 30 0 1 461 1 0 1 463 1 0 1 465 1 0 1 467 1 0 1 469 1
0 1 46b 1 0 1 46d 1 0 1 46f 1 0 1 471 1 0 1 473 1 0 1 475 1 0 1 477 1 0 1 479 1 0 1 47b 1 0 1
47d 1 0 1 47f 1 0 1 481 9 0 1 48b 1 0 1 48d 1 0 1 48f 1 0 1 491 1 0 1 493 1 0 1 495 1 0 1 497 1
0 1 499 1 0 1 49b 1 0 1 49d 1 0 1 49f 1 0 1 4a1 1 0 1 4a3 1 0 1 4a5 1 0 1 4a7 1 0 1 4a9 1 0 1
4ab 1 0 1 4ad 1 0 1 4af 1 0 1 4b1 1 0 1 4b3 1 0 1 4b5 1 0 1 4b7 1 0 1 4b9 1 0 1 4bb 1 0 1 4bd 1
0 1 4bf 1 0 1 4cf 0 0 1 4c2 1 0 1 4c4 1 0 1 4c6 1 0 1 4c8 1 0 1 4ca 1 0 1 4cc 1 0 1 4ce 2 0 1
4d1 1 0 1 4d3 1 0 1 4d5 1 0 1 4d7 1 0 1 4d9 1 0 1 4db 1 0 1 4dd 1 0 1 4df 1 0 1 4e1 1 0 1 4e3 1
0 1 4e5 1 0 1 4e7 1 0 1 4e9 1 0 1 4eb 1 0 1 4ed 1 0 1 4ef 1 0 1 4f1 1 0 1 4f3 1 0 1 4f5 1 0 1
4f7 1 0 1 4f9 1 0 1 4fb 1 0 1 4fd 1 0 1 4ff 1 0 1 501 1 0 1 503 1 0 1 505 1 0 1 507 1 0 1 509 1
0 1 50b 1 0 1 50d 1 0 1 50f 1 0 1 511 1 0 1 513 1 0 1 515 1 0 1 517 1 0 1 519 1 0 1 51b 1 0 1
51d 1 0 1 51f 1 0 1 521 1 0 1 523 1 0 1 525 1 0 1 527 1 0 1 529 1 0 1 52b 1 0 1 52d 1 0 1 52f 2
0 1 561 0 0 1 562 0 0 1 563 0 0 1 564 0 0 1 565 0 0 1 566 0 0 1 567 0 0 1 568 0 0 1 569 0 0 1
56a 0 0 1 56b 0 0 1 56c 0 0 1 56d 0 0 1 56e 0 0 1 56f 0 0 1 570 0 0 1 571 0 0 1 572 0 0 1 573 0
0 1 574 0 0 1 575 0 0 1 576 0 0 1 577 0 0 1 578 0 0 1 579 0 0 1 57a 0 0 1 57b 0 0 1 57c 0 0 1
57d 0 0 1 57e 0 0 1 57f 0 0 1 580 0 0 1 581 0 0 1 582 0 0 1 583 0 0 1 584 0 0 1 585 0 0 1 586 30
0 2 565 582 ed 0 2 627 674 0 0 2 648 674 0 0 2 6c7 674 0 0 2 64a 674 2df 0 2 915 93c 0 0 2 916
93c 0 0 2 917 93c 0 0 2 91c 93c 0 0 2 921 93c 0 0 2 922 93c 0 0 2 92b 93c 0 0 2 92f 93c 7c 0 2
9a1 9bc 0 0 2 9a2 9bc 1 0 2 9af 9bc 53 0 2 a32 a3c 2 0 2 a38 a3c 22 0 2 a16 a3c 0 0 2 a17 a3c 0
0 2 a1c a3c 2 0 2 a2b a3c fd 0 2 b21 b3c 0 0 2 b22 b3c 2d5 0 2 e4d e32 7f 0 2 ecd eb2 28 0 2 eab
e99 0 0 2 eab ea1 2e 0 1 f0b 36 0 2 f42 fb7 9 0 2 f4c fb7 4 0 2 f51 fb7 4 0 2 f56 fb7 4 0 2 f5b
fb7 c 0 2 f40 fb5 9 0 2 f71 f72 1 0 2 f71 f74 0 0 2 fb2 f80 0 0 3 fb2 f71 f80 0 0 2 fb3 f80 0 0
3 fb3 f71 f80 7 0 2 f71 f80 11 0 2 f92 fb7 9 0 2 f9c fb7 4 0 2 fa1 fb7 4 0 2 fa6 fb7 4 0 2 fab
fb7 c 0 2 f90 fb5 e6 0 1 2d00 0 0 1 2d01 0 0 1 2d02 0 0 1 2d03 0 0 1 2d04 0 0 1 2d05 0 0 1 2d06
0 0 1 2d07 0 0 1 2d08 0 0 1 2d09 0 0 1 2d0a 0 0 1 2d0b 0 0 1 2d0c 0 0 1 2d0d 0 0 1 2d0e 0 0 1
2d0f 0 0 1 2d10 0 0 1 2d11 0 0 1 2d12 0 0 1 2d13 0 0 1 2d14 0 0 1 2d15 0 0 1 2d16 0 0 1 2d17 0 0
1 2d18 0 0 1 2d19 0 0 1 2d1a 0 0 1 2d1b 0 0 1 2d1c 0 0 1 2d1d 0 0 1 2d1e 0 0 1 2d1f 0 0 1 2d20 0
0 1 2d21 0 0 1 2d22 0 0 1 2d23 0 0 1 2d24 0 0 1 2d25 1 0 1 2d27 5 0 1 2d2d 2e 0 1 10dc 2fb 0 1
13f0 0 0 1 13f1 0 0 1 13f2 0 0 1 13f3 0 0 1 13f4 0 0 1 13f5 882 0 1 432 0 0 1 434 0 0 1 43e 0 0
1 441 0 1 1 442 0 0 1 44a 0 0 1 463 0 0 1 a64b 0 0 1 1c8a 6 0 1 10d0 0 0 1 10d1 0 0 1 10d2 0 0 1
10d3 0 0 1 10d4 0 0 1 10d5 0 0 1 10d6 0 0 1 10d7 0 0 1 10d8 0 0 1 10d9 0 0 1 10da 0 0 1 10db 0 0
1 10dc 0 0 1 10dd 0 0 1 10de 0 0 1 10df 0 0 1 10e0 0 0 1 10e1 0 0 1 10e2 0 0 1 10e3 0 0 1 10e4 0
0 1 10e5 0 0 1 10e6 0 0 1 10e7 0 0 1 10e8 0 0 1 10e9 0 0 1 10ea 0 0 1 10eb 0 0 1 10ec 0 0 1 10ed
0 0 1 10ee 0 0 1 10ef 0 0 1 10f0 0 0 1 10f1 0 0 1 10f2 0 0 1 10f3 0 0 1 10f4 0 0 1 10f5 0 0 1
10f6 0 0 1 10f7 0 0 1 10f8 0 0 1 10f9 0 0 1 10fa 2 0 1 10fd 0 0 1 10fe 0 0 1 10ff 6c 0 1 61 0 0
1 e6 0 0 1 62 1 0 1 64 0 0 1 65 0 0 1 1dd 0 0 1 67 0 0 1 68 0 0 1 69 0 0 1 6a 0 0 1 6b 0 0 1 6c
0 0 1 6d 0 0 1 6e 1 0 1 6f 0 0 1 223 0 0 1 70 0 0 1 72 0 0 1 74 0 0 1 75 0 0 1 77 0 0 1 61 0 0 1
250 0 0 1 251 0 0 1 1d02 0 0 1 62 0 0 1 64 0 0 1 65 0 0 1 259 0 0 1 25b 0 0 1 25c 0 0 1 67 1 0 1
6b 0 0 1 6d 0 0 1 14b 0 0 1 6f 0 0 1 254 0 0 1 1d16 0 0 1 1d17 0 0 1 70 0 0 1 74 0 0 1 75 0 0 1
1d1d 0 0 1 26f 0 0 1 76 0 0 1 1d25 0 0 1 3b2 0 0 1 3b3 0 0 1 3b4 0 0 1 3c6 0 0 1 3c7 0 0 1 69 0
0 1 72 0 0 1 75 0 0 1 76 0 0 1 3b2 0 0 1 3b3 0 0 1 3c1 0 0 1 3c6 0 0 1 3c7 d 0 1 43d 22 0 1 252
0 0 1 63 0 0 1 255 0 0 1 f0 0 0 1 25c 0 0 1 66 0 0 1 25f 0 0 1 261 0 0 1 265 0 0 1 268 0 0 1 269
0 0 1 26a 0 0 1 1d7b 0 0 1 29d 0 0 1 26d 0 0 1 1d85 0 0 1 29f 0 0 1 271 0 0 1 270 0 0 1 272 0 0
1 273 0 0 1 274 0 0 1 275 0 0 1 278 0 0 1 282 0 0 1 283 0 0 1 1ab 0 0 1 289 0 0 1 28a 0 0 1 1d1c
0 0 1 28b 0 0 1 28c 0 0 1 7a 0 0 1 290 0 0 1 291 0 0 1 292 0 0 1 3b8 40 0 1 1e01 1 0 1 1e03 1 0
1 1e05 1 0 1 1e07 1 0 1 1e09 1 0 1 1e0b 1 0 1 1e0d 1 0 1 1e0f 1 0 1 1e11 1 0 1 1e13 1 0 1 1e15 1
0 1 1e17 1 0 1 1e19 1 0 1 1e1b 1 0 1 1e1d 1 0 1 1e1f 1 0 1 1e21 1 0 1 1e23 1 0 1 1e25 1 0 1 1e27
1 0 1 1e29 1 0 1 1e2b 1 0 1 1e2d 1 0 1 1e2f 1 0 1 1e31 1 0 1 1e33 1 0 1 1e35 1 0 1 1e37 1 0 1
1e39 1 0 1 1e3b 1 0 1 1e3d 1 0 1 1e3f 1 0 1 1e41 1 0 1 1e43 1 0 1 1e45 1 0 1 1e47 1 0 1 1e49 1 0
1 1e4b 1 0 1 1e4d 1 0 1 1e4f 1 0 1 1e51 1 0 1 1e53 1 0 1 1e55 1 0 1 1e57 1 0 1 1e59 1 0 1 1e5b 1
0 1 1e5d 1 0 1 1e5f 1 0 1 1e61 1 0 1 1e63 1 0 1 1e65 1 0 1 1e67 1 0 1 1e69 1 0 1 1e6b 1 0 1 1e6d
1 0 1 1e6f 1 0 1 1e71 1 0 1 1e73 1 0 1 1e75 1 0 1 1e77 1 0 1 1e79 1 0 1 1e7b 1 0 1 1e7d 1 0 1
1e7f 1 0 1 1e81 1 0 1 1e83 1 0 1 1e85 1 0 1 1e87 1 0 1 1e89 1 0 1 1e8b 1 0 1 1e8d 1 0 1 1e8f 1 0
1 1e91 1 0 1 1e93 1 0 1 1e95 5 0 2 61 2be 0 0 1 1e61 2 0 1 df 1 0 1 1ea1 1 0 1 1ea3 1 0 1 1ea5 1
0 1 1ea7 1 0 1 1ea9 1 0 1 1eab 1 0 1 1ead 1 0 1 1eaf 1 0 1 1eb1 1 0 1 1eb3 1 0 1 1eb5 1 0 1 1eb7
1 0 1 1eb9 1 0 1 1ebb 1 0 1 1ebd 1 0 1 1ebf 1 0 1 1ec1 1 0 1 1ec3 1 0 1 1ec5 1 0 1 1ec7 1 0 1
1ec9 1 0 1 1ecb 1 0 1 1ecd 1 0 1 1ecf 1 0 1 1ed1 1 0 1 1ed3 1 0 1 1ed5 1 0 1 1ed7 1 0 1 1ed9 1 0
1 1edb 1 0 1 1edd 1 0 1 1edf 1 0 1 1ee1 1 0 1 1ee3 1 0 1 1ee5 1 0 1 1ee7 1 0 1 1ee9 1 0 1 1eeb 1
0 1 1eed 1 0 1 1eef 1 0 1 1ef1 1 0 1 1ef3 1 0 1 1ef5 1 0 1 1ef7 1 0 1 1ef9 1 0 1 1efb 1 0 1 1efd
1 0 1 1eff 9 0 1 1f00 0 0 1 1f01 0 0 1 1f02 0 0 1 1f03 0 0 1 1f04 0 0 1 1f05 0 0 1 1f06 0 0 1
1f07 8 0 1 1f10 0 0 1 1f11 0 0 1 1f12 0 0 1 1f13 0 0 1 1f14 0 0 1 1f15 a 0 1 1f20 0 0 1 1f21 0 0
1 1f22 0 0 1 1f23 0 0 1 1f24 0 0 1 1f25 0 0 1 1f26 0 0 1 1f27 8 0 1 1f30 0 0 1 1f31 0 0 1 1f32 0
0 1 1f33 0 0 1 1f34 0 0 1 1f35 0 0 1 1f36 0 0 1 1f37 8 0 1 1f40 0 0 1 1f41 0 0 1 1f42 0 0 1 1f43
0 0 1 1f44 0 0 1 1f45 b 0 1 1f51 1 0 1 1f53 1 0 1 1f55 1 0 1 1f57 8 0 1 1f60 0 0 1 1f61 0 0 1
1f62 0 0 1 1f63 0 0 1 1f64 0 0 1 1f65 0 0 1 1f66 0 0 1 1f67 1 0 1 3ac 1 0 1 3ad 1 0 1 3ae 1 0 1
3af 1 0 1 3cc 1 0 1 3cd 1 0 1 3ce 2 0 2 1f00 3b9 0 0 2 1f01 3b9 0 0 2 1f02 3b9 0 0 2 1f03 3b9 0
0 2 1f04 3b9 0 0 2 1f05 3b9 0 0 2 1f06 3b9 0 0 2 1f07 3b9 0 0 2 1f00 3b9 0 0 2 1f01 3b9 0 0 2
1f02 3b9 0 0 2 1f03 3b9 0 0 2 1f04 3b9 0 0 2 1f05 3b9 0 0 2 1f06 3b9 0 0 2 1f07 3b9 0 0 2 1f20
3b9 0 0 2 1f21 3b9 0 0 2 1f22 3b9 0 0 2 1f23 3b9 0 0 2 1f24 3b9 0 0 2 1f25 3b9 0 0 2 1f26 3b9 0
0 2 1f27 3b9 0 0 2 1f20 3b9 0 0 2 1f21 3b9 0 0 2 1f22 3b9 0 0 2 1f23 3b9 0 0 2 1f24 3b9 0 0 2
1f25 3b9 0 0 2 1f26 3b9 0 0 2 1f27 3b9 0 0 2 1f60 3b9 0 0 2 1f61 3b9 0 0 2 1f62 3b9 0 0 2 1f63
3b9 0 0 2 1f64 3b9 0 0 2 1f65 3b9 0 0 2 1f66 3b9 0 0 2 1f67 3b9 0 0 2 1f60 3b9 0 0 2 1f61 3b9 0
0 2 1f62 3b9 0 0 2 1f63 3b9 0 0 2 1f64 3b9 0 0 2 1f65 3b9 0 0 2 1f66 3b9 0 0 2 1f67 3b9 2 0 2
1f70 3b9 0 0 2 3b1 3b9 0 0 2 3ac 3b9 2 0 2 1fb6 3b9 0 0 1 1fb0 0 0 1 1fb1 0 0 1 1f70 0 0 1 3ac 0
0 2 3b1 3b9 0 0 2 20 313 0 0 1 3b9 0 0 2 20 313 0 0 2 20 342 0 0 3 20 308 342 0 0 2 1f74 3b9 0 0
2 3b7 3b9 0 0 2 3ae 3b9 2 0 2 1fc6 3b9 0 0 1 1f72 0 0 1 3ad 0 0 1 1f74 0 0 1 3ae 0 0 2 3b7 3b9 0
0 3 20 313 300 0 0 3 20 313 301 0 0 3 20 313 342 3 0 1 390 4 0 1 1fd0 0 0 1 1fd1 0 0 1 1f76 0 0
1 3af 1 0 3 20 314 300 0 0 3 20 314 301 0 0 3 20 314 342 3 0 1 3b0 4 0 1 1fe0 0 0 1 1fe1 0 0 1
1f7a 0 0 1 3cd 0 0 1 1fe5 0 0 3 20 308 300 0 0 3 20 308 301 0 0 1 60 2 0 2 1f7c 3b9 0 0 2 3c9
3b9 0 0 2 3ce 3b9 2 0 2 1ff6 3b9 0 0 1 1f78 0 0 1 3cc 0 0 1 1f7c 0 0 1 3ce 0 0 2 3c9 3b9 0 0 2
20 301 0 0 2 20 314 1 a 1 20 6 0 1 2010 5 0 2 20 333 17 0 1 20 3 0 2 2032 2032 0 0 3 2032 2032
2032 1 0 2 2035 2035 0 0 3 2035 2035 2035 4 0 2 21 21 1 0 2 20 305 8 0 2 3f 3f 0 0 2 3f 21 0 0 2
21 3f d 0 4 2032 2032 2032 2032 7 0 1 20 10 0 1 30 0 0 1 69 2 0 1 34 0 0 1 35 0 0 1 36 0 0 1 37
0 0 1 38 0 0 1 39 0 0 1 2b 0 0 1 2212 0 0 1 3d 0 0 1 28 0 0 1 29 0 0 1 6e 0 0 1 30 0 0 1 31 0 0
1 32 0 0 1 33 0 0 1 34 0 0 1 35 0 0 1 36 0 0 1 37 0 0 1 38 0 0 1 39 0 0 1 2b 0 0 1 2212 0 0 1 3d
0 0 1 28 0 0 1 29 1 0 1 61 0 0 1 65 0 0 1 6f 0 0 1 78 0 0 1 259 0 0 1 68 0 0 1 6b 0 0 1 6c 0 0 1
6d 0 0 1 6e 0 0 1 70 0 0 1 73 0 0 1 74 b 0 2 72 73 57 0 3 61 2f 63 0 0 3 61 2f 73 0 0 1 63 0 0 2
b0 63 1 0 3 63 2f 6f 0 0 3 63 2f 75 0 0 1 25b 1 0 2 b0 66 0 0 1 67 0 3 1 68 0 0 1 127 0 1 1 69 0
1 1 6c 1 0 1 6e 0 0 2 6e 6f 2 0 1 70 0 0 1 71 0 2 1 72 2 0 2 73 6d 0 0 3 74 65 6c 0 0 2 74 6d 1
0 1 7a 1 0 1 3c9 1 0 1 7a 1 0 1 6b 0 0 1 e5 0 0 1 62 0 0 1 63 1 1 1 65 0 0 1 66 0 0 1 214e 0 0 1
6d 0 0 1 6f 0 0 1 5d0 0 0 1 5d1 0 0 1 5d2 0 0 1 5d3 0 0 1 69 1 0 3 66 61 78 0 0 1 3c0 0 1 1 3b3
0 0 1 3c0 0 0 1 2211 4 1 1 64 0 0 1 65 0 0 1 69 0 0 1 6a 6 0 3 31 2044 37 0 0 3 31 2044 39 0 0 4
31 2044 31 30 0 0 3 31 2044 33 0 0 3 32 2044 33 0 0 3 31 2044 35 0 0 3 32 2044 35 0 0 3 33 2044
35 0 0 3 34 2044 35 0 0 3 31 2044 36 0 0 3 35 2044 36 0 0 3 31 2044 38 0 0 3 33 2044 38 0 0 3 35
2044 38 0 0 3 37 2044 38 0 0 2 31 2044 0 0 1 69 0 0 2 69 69 0 0 3 69 69 69 0 0 2 69 76 0 0 1 76
0 0 2 76 69 0 0 3 76 69 69 0 0 4 76 69 69 69 0 0 2 69 78 0 0 1 78 0 0 2 78 69 0 0 3 78 69 69 0 0
1 6c 0 0 1 63 0 0 1 64 0 0 1 6d 0 0 1 69 0 0 2 69 69 0 0 3 69 69 69 0 0 2 69 76 0 0 1 76 0 0 2
76 69 0 0 3 76 69 69 0 0 4 76 69 69 69 0 0 2 69 78 0 0 1 78 0 0 2 78 69 0 0 3 78 69 69 0 0 1 6c
0 0 1 63 0 0 1 64 0 0 1 6d 3 0 1 2184 5 0 3 30 2044 33 a2 0 2 222b 222b 0 0 3 222b 222b 222b 1 0
2 222e 222e 0 0 3 222e 222e 222e f8 0 1 3008 0 0 1 3009 135 0 1 31 0 0 1 32 0 0 1 33 0 0 1 34 0
0 1 35 0 0 1 36 0 0 1 37 0 0 1 38 0 0 1 39 0 0 2 31 30 0 0 2 31 31 0 0 2 31 32 0 0 2 31 33 0 0 2
31 34 0 0 2 31 35 0 0 2 31 36 0 0 2 31 37 0 0 2 31 38 0 0 2 31 39 0 0 2 32 30 0 0 3 28 31 29 0 0
3 28 32 29 0 0 3 28 33 29 0 0 3 28 34 29 0 0 3 28 35 29 0 0 3 28 36 29 0 0 3 28 37 29 0 0 3 28
38 29 0 0 3 28 39 29 0 0 4 28 31 30 29 0 0 4 28 31 31 29 0 0 4 28 31 32 29 0 0 4 28 31 33 29 0 0
4 28 31 34 29 0 0 4 28 31 35 29 0 0 4 28 31 36 29 0 0 4 28 31 37 29 0 0 4 28 31 38 29 0 0 4 28
31 39 29 0 0 4 28 32 30 29 14 0 3 28 61 29 0 0 3 28 62 29 0 0 3 28 63 29 0 0 3 28 64 29 0 0 3 28
65 29 0 0 3 28 66 29 0 0 3 28 67 29 0 0 3 28 68 29 0 0 3 28 69 29 0 0 3 28 6a 29 0 0 3 28 6b 29
0 0 3 28 6c 29 0 0 3 28 6d 29 0 0 3 28 6e 29 0 0 3 28 6f 29 0 0 3 28 70 29 0 0 3 28 71 29 0 0 3
28 72 29 0 0 3 28 73 29 0 0 3 28 74 29 0 0 3 28 75 29 0 0 3 28 76 29 0 0 3 28 77 29 0 0 3 28 78
29 0 0 3 28 79 29 0 0 3 28 7a 29 0 0 1 61 0 0 1 62 0 0 1 63 0 0 1 64 0 0 1 65 0 0 1 66 0 0 1 67
0 0 1 68 0 0 1 69 0 0 1 6a 0 0 1 6b 0 0 1 6c 0 0 1 6d 0 0 1 6e 0 0 1 6f 0 0 1 70 0 0 1 71 0 0 1
72 0 0 1 73 0 0 1 74 0 0 1 75 0 0 1 76 0 0 1 77 0 0 1 78 0 0 1 79 0 0 1 7a 0 0 1 61 0 0 1 62 0 0
1 63 0 0 1 64 0 0 1 65 0 0 1 66 0 0 1 67 0 0 1 68 0 0 1 69 0 0 1 6a 0 0 1 6b 0 0 1 6c 0 0 1 6d 0
0 1 6e 0 0 1 6f 0 0 1 70 0 0 1 71 0 0 1 72 0 0 1 73 0 0 1 74 0 0 1 75 0 0 1 76 0 0 1 77 0 0 1 78
0 0 1 79 0 0 1 7a 0 0 1 30 521 0 4 222b 222b 222b 222b 67 0 3 3a 3a 3d 0 0 2 3d 3d 0 0 3 3d 3d
3d 65 0 2 2add 338 123 0 1 2c30 0 0 1 2c31 0 0 1 2c32 0 0 1 2c33 0 0 1 2c34 0 0 1 2c35 0 0 1
2c36 0 0 1 2c37 0 0 1 2c38 0 0 1 2c39 0 0 1 2c3a 0 0 1 2c3b 0 0 1 2c3c 0 0 1 2c3d 0 0 1 2c3e 0 0
1 2c3f 0 0 1 2c40 0 0 1 2c41 0 0 1 2c42 0 0 1 2c43 0 0 1 2c44 0 0 1 2c45 0 0 1 2c46 0 0 1 2c47 0
0 1 2c48 0 0 1 2c49 0 0 1 2c4a 0 0 1 2c4b 0 0 1 2c4c 0 0 1 2c4d 0 0 1 2c4e 0 0 1 2c4f 0 0 1 2c50
0 0 1 2c51 0 0 1 2c52 0 0 1 2c53 0 0 1 2c54 0 0 1 2c55 0 0 1 2c56 0 0 1 2c57 0 0 1 2c58 0 0 1
2c59 0 0 1 2c5a 0 0 1 2c5b 0 0 1 2c5c 0 0 1 2c5d 0 0 1 2c5e 0 0 1 2c5f 30 0 1 2c61 1 0 1 26b 0 0
1 1d7d 0 0 1 27d 2 0 1 2c68 1 0 1 2c6a 1 0 1 2c6c 1 0 1 251 0 0 1 271 0 0 1 250 0 0 1 252 1 0 1
2c73 2 0 1 2c76 6 0 1 6a 0 0 1 76 0 0 1 23f 0 0 1 240 0 0 1 2c81 1 0 1 2c83 1 0 1 2c85 1 0 1
2c87 1 0 1 2c89 1 0 1 2c8b 1 0 1 2c8d 1 0 1 2c8f 1 0 1 2c91 1 0 1 2c93 1 0 1 2c95 1 0 1 2c97 1 0
1 2c99 1 0 1 2c9b 1 0 1 2c9d 1 0 1 2c9f 1 0 1 2ca1 1 0 1 2ca3 1 0 1 2ca5 1 0 1 2ca7 1 0 1 2ca9 1
0 1 2cab 1 0 1 2cad 1 0 1 2caf 1 0 1 2cb1 1 0 1 2cb3 1 0 1 2cb5 1 0 1 2cb7 1 0 1 2cb9 1 0 1 2cbb
1 0 1 2cbd 1 0 1 2cbf 1 0 1 2cc1 1 0 1 2cc3 1 0 1 2cc5 1 0 1 2cc7 1 0 1 2cc9 1 0 1 2ccb 1 0 1
2ccd 1 0 1 2ccf 1 0 1 2cd1 1 0 1 2cd3 1 0 1 2cd5 1 0 1 2cd7 1 0 1 2cd9 1 0 1 2cdb 1 0 1 2cdd 1 0
1 2cdf 1 0 1 2ce1 1 0 1 2ce3 8 0 1 2cec 1 0 1 2cee 4 0 1 2cf3 7c 0 1 2d61 12f 0 1 6bcd 53 0 1
9f9f c 0 1 4e00 0 0 1 4e28 0 0 1 4e36 0 0 1 4e3f 0 0 1 4e59 0 0 1 4e85 0 0 1 4e8c 0 0 1 4ea0 0 0
1 4eba 0 0 1 513f 0 0 1 5165 0 0 1 516b 0 0 1 5182 0 0 1 5196 0 0 1 51ab 0 0 1 51e0 0 0 1 51f5 0
0 1 5200 0 0 1 529b 0 0 1 52f9 0 0 1 5315 0 0 1 531a 0 0 1 5338 0 0 1 5341 0 0 1 535c 0 0 1 5369
0 0 1 5382 0 0 1 53b6 0 0 1 53c8 0 0 1 53e3 0 0 1 56d7 0 0 1 571f 0 0 1 58eb 0 0 1 5902 0 0 1
590a 0 0 1 5915 0 0 1 5927 0 0 1 5973 0 0 1 5b50 0 0 1 5b80 0 0 1 5bf8 0 0 1 5c0f 0 0 1 5c22 0 0
1 5c38 0 0 1 5c6e 0 0 1 5c71 0 0 1 5ddb 0 0 1 5de5 0 0 1 5df1 0 0 1 5dfe 0 0 1 5e72 0 0 1 5e7a 0
0 1 5e7f 0 0 1 5ef4 0 0 1 5efe 0 0 1 5f0b 0 0 1 5f13 0 0 1 5f50 0 0 1 5f61 0 0 1 5f73 0 0 1 5fc3
0 0 1 6208 0 0 1 6236 0 0 1 624b 0 0 1 652f 0 0 1 6534 0 0 1 6587 0 0 1 6597 0 0 1 65a4 0 0 1
65b9 0 0 1 65e0 0 0 1 65e5 0 0 1 66f0 0 0 1 6708 0 0 1 6728 0 0 1 6b20 0 0 1 6b62 0 0 1 6b79 0 0
1 6bb3 0 0 1 6bcb 0 0 1 6bd4 0 0 1 6bdb 0 0 1 6c0f 0 0 1 6c14 0 0 1 6c34 0 0 1 706b 0 0 1 722a 0
0 1 7236 0 0 1 723b 0 0 1 723f 0 0 1 7247 0 0 1 7259 0 0 1 725b 0 0 1 72ac 0 0 1 7384 0 0 1 7389
0 0 1 74dc 0 0 1 74e6 0 0 1 7518 0 0 1 751f 0 0 1 7528 0 0 1 7530 0 0 1 758b 0 0 1 7592 0 0 1
7676 0 0 1 767d 0 0 1 76ae 0 0 1 76bf 0 0 1 76ee 0 0 1 77db 0 0 1 77e2 0 0 1 77f3 0 0 1 793a 0 0
1 79b8 0 0 1 79be 0 0 1 7a74 0 0 1 7acb 0 0 1 7af9 0 0 1 7c73 0 0 1 7cf8 0 0 1 7f36 0 0 1 7f51 0
0 1 7f8a 0 0 1 7fbd 0 0 1 8001 0 0 1 800c 0 0 1 8012 0 0 1 8033 0 0 1 807f 0 0 1 8089 0 0 1 81e3
0 0 1 81ea 0 0 1 81f3 0 0 1 81fc 0 0 1 820c 0 0 1 821b 0 0 1 821f 0 0 1 826e 0 0 1 8272 0 0 1
8278 0 0 1 864d 0 0 1 866b 0 0 1 8840 0 0 1 884c 0 0 1 8863 0 0 1 897e 0 0 1 898b 0 0 1 89d2 0 0
1 8a00 0 0 1 8c37 0 0 1 8c46 0 0 1 8c55 0 0 1 8c78 0 0 1 8c9d 0 0 1 8d64 0 0 1 8d70 0 0 1 8db3 0
0 1 8eab 0 0 1 8eca 0 0 1 8f9b 0 0 1 8fb0 0 0 1 8fb5 0 0 1 9091 0 0 1 9149 0 0 1 91c6 0 0 1 91cc
0 0 1 91d1 0 0 1 9577 0 0 1 9580 0 0 1 961c 0 0 1 96b6 0 0 1 96b9 0 0 1 96e8 0 0 1 9751 0 0 1
975e 0 0 1 9762 0 0 1 9769 0 0 1 97cb 0 0 1 97ed 0 0 1 97f3 0 0 1 9801 0 0 1 98a8 0 0 1 98db 0 0
1 98df 0 0 1 9996 0 0 1 9999 0 0 1 99ac 0 0 1 9aa8 0 0 1 9ad8 0 0 1 9adf 0 0 1 9b25 0 0 1 9b2f 0
0 1 9b32 0 0 1 9b3c 0 0 1 9b5a 0 0 1 9ce5 0 0 1 9e75 0 0 1 9e7f 0 0 1 9ea5 0 0 1 9ebb 0 0 1 9ec3
0 0 1 9ecd 0 0 1 9ed1 0 0 1 9ef9 0 0 1 9efd 0 0 1 9f0e 0 0 1 9f13 0 0 1 9f20 0 0 1 9f3b 0 0 1
9f4a 0 0 1 9f52 0 0 1 9f8d 0 0 1 9f9c 0 0 1 9fa0 2a 0 1 20 1 0 1 2e 33 0 1 3012 1 0 1 5341 0 0 1
5344 0 0 1 5345 60 0 2 20 3099 0 0 2 20 309a 2 0 2 3088 308a 5f 0 2 30b3 30c8 31 0 1 1100 0 0 1
1101 0 0 1 11aa 0 0 1 1102 0 0 1 11ac 0 0 1 11ad 0 0 1 1103 0 0 1 1104 0 0 1 1105 0 0 1 11b0 0 0
1 11b1 0 0 1 11b2 0 0 1 11b3 0 0 1 11b4 0 0 1 11b5 0 0 1 111a 0 0 1 1106 0 0 1 1107 0 0 1 1108 0
0 1 1121 0 0 1 1109 0 0 1 110a 0 0 1 110b 0 0 1 110c 0 0 1 110d 0 0 1 110e 0 0 1 110f 0 0 1 1110
0 0 1 1111 0 0 1 1112 0 0 1 1161 0 0 1 1162 0 0 1 1163 0 0 1 1164 0 0 1 1165 0 0 1 1166 0 0 1
1167 0 0 1 1168 0 0 1 1169 0 0 1 116a 0 0 1 116b 0 0 1 116c 0 0 1 116d 0 0 1 116e 0 0 1 116f 0 0
1 1170 0 0 1 1171 0 0 1 1172 0 0 1 1173 0 0 1 1174 0 0 1 1175 1 0 1 1114 0 0 1 1115 0 0 1 11c7 0
0 1 11c8 0 0 1 11cc 0 0 1 11ce 0 0 1 11d3 0 0 1 11d7 0 0 1 11d9 0 0 1 111c 0 0 1 11dd 0 0 1 11df
0 0 1 111d 0 0 1 111e 0 0 1 1120 0 0 1 1122 0 0 1 1123 0 0 1 1127 0 0 1 1129 0 0 1 112b 0 0 1
112c 0 0 1 112d 0 0 1 112e 0 0 1 112f 0 0 1 1132 0 0 1 1136 0 0 1 1140 0 0 1 1147 0 0 1 114c 0 0
1 11f1 0 0 1 11f2 0 0 1 1157 0 0 1 1158 0 0 1 1159 0 0 1 1184 0 0 1 1185 0 0 1 1188 0 0 1 1191 0
0 1 1192 0 0 1 1194 0 0 1 119e 0 0 1 11a1 3 0 1 4e00 0 0 1 4e8c 0 0 1 4e09 0 0 1 56db 0 0 1 4e0a
0 0 1 4e2d 0 0 1 4e0b 0 0 1 7532 0 0 1 4e59 0 0 1 4e19 0 0 1 4e01 0 0 1 5929 0 0 1 5730 0 0 1
4eba 60 0 3 28 1100 29 0 0 3 28 1102 29 0 0 3 28 1103 29 0 0 3 28 1105 29 0 0 3 28 1106 29 0 0 3
28 1107 29 0 0 3 28 1109 29 0 0 3 28 110b 29 0 0 3 28 110c 29 0 0 3 28 110e 29 0 0 3 28 110f 29
0 0 3 28 1110 29 0 0 3 28 1111 29 0 0 3 28 1112 29 0 0 3 28 ac00 29 0 0 3 28 b098 29 0 0 3 28
b2e4 29 0 0 3 28 b77c 29 0 0 3 28 b9c8 29 0 0 3 28 bc14 29 0 0 3 28 c0ac 29 0 0 3 28 c544 29 0 0
3 28 c790 29 0 0 3 28 cc28 29 0 0 3 28 ce74 29 0 0 3 28 d0c0 29 0 0 3 28 d30c 29 0 0 3 28 d558
29 0 0 3 28 c8fc 29 0 0 4 28 c624 c804 29 0 0 4 28 c624 d6c4 29 1 0 3 28 4e00 29 0 0 3 28 4e8c
29 0 0 3 28 4e09 29 0 0 3 28 56db 29 0 0 3 28 4e94 29 0 0 3 28 516d 29 0 0 3 28 4e03 29 0 0 3 28
516b 29 0 0 3 28 4e5d 29 0 0 3 28 5341 29 0 0 3 28 6708 29 0 0 3 28 706b 29 0 0 3 28 6c34 29 0 0
3 28 6728 29 0 0 3 28 91d1 29 0 0 3 28 571f 29 0 0 3 28 65e5 29 0 0 3 28 682a 29 0 0 3 28 6709
29 0 0 3 28 793e 29 0 0 3 28 540d 29 0 0 3 28 7279 29 0 0 3 28 8ca1 29 0 0 3 28 795d 29 0 0 3 28
52b4 29 0 0 3 28 4ee3 29 0 0 3 28 547c 29 0 0 3 28 5b66 29 0 0 3 28 76e3 29 0 0 3 28 4f01 29 0 0
3 28 8cc7 29 0 0 3 28 5354 29 0 0 3 28 796d 29 0 0 3 28 4f11 29 0 0 3 28 81ea 29 0 0 3 28 81f3
29 0 0 1 554f 0 0 1 5e7c 0 0 1 6587 0 0 1 7b8f 8 0 3 70 74 65 0 0 2 32 31 0 0 2 32 32 0 0 2 32
33 0 0 2 32 34 0 0 2 32 35 0 0 2 32 36 0 0 2 32 37 0 0 2 32 38 0 0 2 32 39 0 0 2 33 30 0 0 2 33
31 0 0 2 33 32 0 0 2 33 33 0 0 2 33 34 0 0 2 33 35 0 0 1 1100 0 0 1 1102 0 0 1 1103 0 0 1 1105 0
0 1 1106 0 0 1 1107 0 0 1 1109 0 0 1 110b 0 0 1 110c 0 0 1 110e 0 0 1 110f 0 0 1 1110 0 0 1 1111
0 0 1 1112 0 0 1 ac00 0 0 1 b098 0 0 1 b2e4 0 0 1 b77c 0 0 1 b9c8 0 0 1 bc14 0 0 1 c0ac 0 0 1
c544 0 0 1 c790 0 0 1 cc28 0 0 1 ce74 0 0 1 d0c0 0 0 1 d30c 0 0 1 d558 0 0 2 cc38 ace0 0 0 2
c8fc c758 0 0 1 c6b0 1 0 1 4e00 0 0 1 4e8c 0 0 1 4e09 0 0 1 56db 0 0 1 4e94 0 0 1 516d 0 0 1
4e03 0 0 1 516b 0 0 1 4e5d 0 0 1 5341 0 0 1 6708 0 0 1 706b 0 0 1 6c34 0 0 1 6728 0 0 1 91d1 0 0
1 571f 0 0 1 65e5 0 0 1 682a 0 0 1 6709 0 0 1 793e 0 0 1 540d 0 0 1 7279 0 0 1 8ca1 0 0 1 795d 0
0 1 52b4 0 0 1 79d8 0 0 1 7537 0 0 1 5973 0 0 1 9069 0 0 1 512a 0 0 1 5370 0 0 1 6ce8 0 0 1 9805
0 0 1 4f11 0 0 1 5199 0 0 1 6b63 0 0 1 4e0a 0 0 1 4e2d 0 0 1 4e0b 0 0 1 5de6 0 0 1 53f3 0 0 1
533b 0 0 1 5b97 0 0 1 5b66 0 0 1 76e3 0 0 1 4f01 0 0 1 8cc7 0 0 1 5354 0 0 1 591c 0 0 2 33 36 0
0 2 33 37 0 0 2 33 38 0 0 2 33 39 0 0 2 34 30 0 0 2 34 31 0 0 2 34 32 0 0 2 34 33 0 0 2 34 34 0
0 2 34 35 0 0 2 34 36 0 0 2 34 37 0 0 2 34 38 0 0 2 34 39 0 0 2 35 30 0 0 2 31 6708 0 0 2 32
6708 0 0 2 33 6708 0 0 2 34 6708 0 0 2 35 6708 0 0 2 36 6708 0 0 2 37 6708 0 0 2 38 6708 0 0 2
39 6708 0 0 3 31 30 6708 0 0 3 31 31 6708 0 0 3 31 32 6708 0 0 2 68 67 0 0 3 65 72 67 0 0 2 65
76 0 0 3 6c 74 64 0 0 1 30a2 0 0 1 30a4 0 0 1 30a6 0 0 1 30a8 0 0 1 30aa 0 0 1 30ab 0 0 1 30ad 0
0 1 30af 0 0 1 30b1 0 0 1 30b3 0 0 1 30b5 0 0 1 30b7 0 0 1 30b9 0 0 1 30bb 0 0 1 30bd 0 0 1 30bf
0 0 1 30c1 0 0 1 30c4 0 0 1 30c6 0 0 1 30c8 0 0 1 30ca 0 0 1 30cb 0 0 1 30cc 0 0 1 30cd 0 0 1
30ce 0 0 1 30cf 0 0 1 30d2 0 0 1 30d5 0 0 1 30d8 0 0 1 30db 0 0 1 30de 0 0 1 30df 0 0 1 30e0 0 0
1 30e1 0 0 1 30e2 0 0 1 30e4 0 0 1 30e6 0 0 1 30e8 0 0 1 30e9 0 0 1 30ea 0 0 1 30eb 0 0 1 30ec 0
0 1 30ed 0 0 1 30ef 0 0 1 30f0 0 0 1 30f1 0 0 1 30f2 0 0 2 4ee4 548c 0 0 4 30a2 30d1 30fc 30c8 0
0 4 30a2 30eb 30d5 30a1 0 0 4 30a2 30f3 30da 30a2 0 0 3 30a2 30fc 30eb 0 0 4 30a4 30cb 30f3 30b0
0 0 3 30a4 30f3 30c1 0 0 3 30a6 30a9 30f3 0 0 5 30a8 30b9 30af 30fc 30c9 0 0 4 30a8 30fc 30ab
30fc 0 0 3 30aa 30f3 30b9 0 0 3 30aa 30fc 30e0 0 0 3 30ab 30a4 30ea 0 0 4 30ab 30e9 30c3 30c8 0
0 4 30ab 30ed 30ea 30fc 0 0 3 30ac 30ed 30f3 0 0 3 30ac 30f3 30de 0 0 2 30ae 30ac 0 0 3 30ae
30cb 30fc 0 0 4 30ad 30e5 30ea 30fc 0 0 4 30ae 30eb 30c0 30fc 0 0 2 30ad 30ed 0 0 5 30ad 30ed
30b0 30e9 30e0 0 0 6 30ad 30ed 30e1 30fc 30c8 30eb 0 0 5 30ad 30ed 30ef 30c3 30c8 0 0 3 30b0
30e9 30e0 0 0 5 30b0 30e9 30e0 30c8 30f3 0 0 5 30af 30eb 30bc 30a4 30ed 0 0 4 30af 30ed 30fc
30cd 0 0 3 30b1 30fc 30b9 0 0 3 30b3 30eb 30ca 0 0 3 30b3 30fc 30dd 0 0 4 30b5 30a4 30af 30eb 0
0 5 30b5 30f3 30c1 30fc 30e0 0 0 4 30b7 30ea 30f3 30b0 0 0 3 30bb 30f3 30c1 0 0 3 30bb 30f3 30c8
0 0 3 30c0 30fc 30b9 0 0 2 30c7 30b7 0 0 2 30c9 30eb 0 0 2 30c8 30f3 0 0 2 30ca 30ce 0 0 3 30ce
30c3 30c8 0 0 3 30cf 30a4 30c4 0 0 5 30d1 30fc 30bb 30f3 30c8 0 0 3 30d1 30fc 30c4 0 0 4 30d0
30fc 30ec 30eb 0 0 5 30d4 30a2 30b9 30c8 30eb 0 0 3 30d4 30af 30eb 0 0 2 30d4 30b3 0 0 2 30d3
30eb 0 0 5 30d5 30a1 30e9 30c3 30c9 0 0 4 30d5 30a3 30fc 30c8 0 0 5 30d6 30c3 30b7 30a7 30eb 0 0
3 30d5 30e9 30f3 0 0 5 30d8 30af 30bf 30fc 30eb 0 0 2 30da 30bd 0 0 3 30da 30cb 30d2 0 0 3 30d8
30eb 30c4 0 0 3 30da 30f3 30b9 0 0 3 30da 30fc 30b8 0 0 3 30d9 30fc 30bf 0 0 4 30dd 30a4 30f3
30c8 0 0 3 30dc 30eb 30c8 0 0 2 30db 30f3 0 0 3 30dd 30f3 30c9 0 0 3 30db 30fc 30eb 0 0 3 30db
30fc 30f3 0 0 4 30de 30a4 30af 30ed 0 0 3 30de 30a4 30eb 0 0 3 30de 30c3 30cf 0 0 3 30de 30eb
30af 0 0 5 30de 30f3 30b7 30e7 30f3 0 0 4 30df 30af 30ed 30f3 0 0 2 30df 30ea 0 0 5 30df 30ea
30d0 30fc 30eb 0 0 2 30e1 30ac 0 0 4 30e1 30ac 30c8 30f3 0 0 4 30e1 30fc 30c8 30eb 0 0 3 30e4
30fc 30c9 0 0 3 30e4 30fc 30eb 0 0 3 30e6 30a2 30f3 0 0 4 30ea 30c3 30c8 30eb 0 0 2 30ea 30e9 0
0 3 30eb 30d4 30fc 0 0 4 30eb 30fc 30d6 30eb 0 0 2 30ec 30e0 0 0 5 30ec 30f3 30c8 30b2 30f3 0 0
3 30ef 30c3 30c8 0 0 2 30 70b9 0 0 2 31 70b9 0 0 2 32 70b9 0 0 2 33 70b9 0 0 2 34 70b9 0 0 2 35
70b9 0 0 2 36 70b9 0 0 2 37 70b9 0 0 2 38 70b9 0 0 2 39 70b9 0 0 3 31 30 70b9 0 0 3 31 31 70b9 0
0 3 31 32 70b9 0 0 3 31 33 70b9 0 0 3 31 34 70b9 0 0 3 31 35 70b9 0 0 3 31 36 70b9 0 0 3 31 37
70b9 0 0 3 31 38 70b9 0 0 3 31 39 70b9 0 0 3 32 30 70b9 0 0 3 32 31 70b9 0 0 3 32 32 70b9 0 0 3
32 33 70b9 0 0 3 32 34 70b9 0 0 3 68 70 61 0 0 2 64 61 0 0 2 61 75 0 0 3 62 61 72 0 0 2 6f 76 0
0 2 70 63 0 0 2 64 6d 0 0 3 64 6d 32 0 0 3 64 6d 33 0 0 2 69 75 0 0 2 5e73 6210 0 0 2 662d 548c
0 0 2 5927 6b63 0 0 2 660e 6cbb 0 0 4 682a 5f0f 4f1a 793e 0 0 2 70 61 0 0 2 6e 61 0 0 2 3bc 61 0
0 2 6d 61 0 0 2 6b 61 0 0 2 6b 62 0 0 2 6d 62 0 0 2 67 62 0 0 3 63 61 6c 0 0 4 6b 63 61 6c 0 0 2
70 66 0 0 2 6e 66 0 0 2 3bc 66 0 0 2 3bc 67 0 0 2 6d 67 0 0 2 6b 67 0 0 2 68 7a 0 0 3 6b 68 7a 0
0 3 6d 68 7a 0 0 3 67 68 7a 0 0 3 74 68 7a 0 0 2 3bc 6c 0 0 2 6d 6c 0 0 2 64 6c 0 0 2 6b 6c 0 0
2 66 6d 0 0 2 6e 6d 0 0 2 3bc 6d 0 0 2 6d 6d 0 0 2 63 6d 0 0 2 6b 6d 0 0 3 6d 6d 32 0 0 3 63 6d
32 0 0 2 6d 32 0 0 3 6b 6d 32 0 0 3 6d 6d 33 0 0 3 63 6d 33 0 0 2 6d 33 0 0 3 6b 6d 33 0 0 3 6d
2215 73 0 0 4 6d 2215 73 32 0 0 2 70 61 0 0 3 6b 70 61 0 0 3 6d 70 61 0 0 3 67 70 61 0 0 3 72 61
64 0 0 5 72 61 64 2215 73 0 0 6 72 61 64 2215 73 32 0 0 2 70 73 0 0 2 6e 73 0 0 2 3bc 73 0 0 2
6d 73 0 0 2 70 76 0 0 2 6e 76 0 0 2 3bc 76 0 0 2 6d 76 0 0 2 6b 76 0 0 2 6d 76 0 0 2 70 77 0 0 2
6e 77 0 0 2 3bc 77 0 0 2 6d 77 0 0 2 6b 77 0 0 2 6d 77 0 0 2 6b 3c9 0 0 2 6d 3c9 1 0 2 62 71 0 0
2 63 63 0 0 2 63 64 0 0 4 63 2215 6b 67 1 0 2 64 62 0 0 2 67 79 0 0 2 68 61 0 0 2 68 70 0 0 2 69
6e 0 0 2 6b 6b 0 0 2 6b 6d 0 0 2 6b 74 0 0 2 6c 6d 0 0 2 6c 6e 0 0 3 6c 6f 67 0 0 2 6c 78 0 0 2
6d 62 0 0 3 6d 69 6c 0 0 3 6d 6f 6c 0 0 2 70 68 1 0 3 70 70 6d 0 0 2 70 72 0 0 2 73 72 0 0 2 73
76 0 0 2 77 62 0 0 3 76 2215 6d 0 0 3 61 2215 6d 0 0 2 31 65e5 0 0 2 32 65e5 0 0 2 33 65e5 0 0 2
34 65e5 0 0 2 35 65e5 0 0 2 36 65e5 0 0 2 37 65e5 0 0 2 38 65e5 0 0 2 39 65e5 0 0 3 31 30 65e5 0
0 3 31 31 65e5 0 0 3 31 32 65e5 0 0 3 31 33 65e5 0 0 3 31 34 65e5 0 0 3 31 35 65e5 0 0 3 31 36
65e5 0 0 3 31 37 65e5 0 0 3 31 38 65e5 0 0 3 31 39 65e5 0 0 3 32 30 65e5 0 0 3 32 31 65e5 0 0 3
32 32 65e5 0 0 3 32 33 65e5 0 0 3 32 34 65e5 0 0 3 32 35 65e5 0 0 3 32 36 65e5 0 0 3 32 37 65e5
0 0 3 32 38 65e5 0 0 3 32 39 65e5 0 0 3 33 30 65e5 0 0 3 33 31 65e5 0 0 3 67 61 6c 7240 0 1 a641
1 0 1 a643 1 0 1 a645 1 0 1 a647 1 0 1 a649 1 0 1 a64b 1 0 1 a64d 1 0 1 a64f 1 0 1 a651 1 0 1
a653 1 0 1 a655 1 0 1 a657 1 0 1 a659 1 0 1 a65b 1 0 1 a65d 1 0 1 a65f 1 0 1 a661 1 0 1 a663 1 0
1 a665 1 0 1 a667 1 0 1 a669 1 0 1 a66b 1 0 1 a66d 13 0 1 a681 1 0 1 a683 1 0 1 a685 1 0 1 a687
1 0 1 a689 1 0 1 a68b 1 0 1 a68d 1 0 1 a68f 1 0 1 a691 1 0 1 a693 1 0 1 a695 1 0 1 a697 1 0 1
a699 1 0 1 a69b 1 0 1 44a 0 0 1 44c 84 0 1 a723 1 0 1 a725 1 0 1 a727 1 0 1 a729 1 0 1 a72b 1 0
1 a72d 1 0 1 a72f 3 0 1 a733 1 0 1 a735 1 0 1 a737 1 0 1 a739 1 0 1 a73b 1 0 1 a73d 1 0 1 a73f 1
0 1 a741 1 0 1 a743 1 0 1 a745 1 0 1 a747 1 0 1 a749 1 0 1 a74b 1 0 1 a74d 1 0 1 a74f 1 0 1 a751
1 0 1 a753 1 0 1 a755 1 0 1 a757 1 0 1 a759 1 0 1 a75b 1 0 1 a75d 1 0 1 a75f 1 0 1 a761 1 0 1
a763 1 0 1 a765 1 0 1 a767 1 0 1 a769 1 0 1 a76b 1 0 1 a76d 1 0 1 a76f 1 0 1 a76f 8 0 1 a77a 1 0
1 a77c 1 0 1 1d79 0 0 1 a77f 1 0 1 a781 1 0 1 a783 1 0 1 a785 1 0 1 a787 4 0 1 a78c 1 0 1 265 2
0 1 a791 1 0 1 a793 3 0 1 a797 1 0 1 a799 1 0 1 a79b 1 0 1 a79d 1 0 1 a79f 1 0 1 a7a1 1 0 1 a7a3
1 0 1 a7a5 1 0 1 a7a7 1 0 1 a7a9 1 0 1 266 0 0 1 25c 0 0 1 261 0 0 1 26c 0 0 1 26a 1 0 1 29e 0 0
1 287 0 0 1 29d 0 0 1 ab53 0 0 1 a7b5 1 0 1 a7b7 1 0 1 a7b9 1 0 1 a7bb 1 0 1 a7bd 1 0 1 a7bf 1 0
1 a7c1 1 0 1 a7c3 1 0 1 a794 0 0 1 282 0 0 1 1d8e 0 0 1 a7c8 1 0 1 a7ca 1 0 1 264 0 0 1 a7cd 1 0
1 a7cf 1 0 1 a7d1 1 0 1 a7d3 1 0 1 a7d5 1 0 1 a7d7 1 0 1 a7d9 1 0 1 a7db 1 0 1 19b 14 0 1 73 0 0
1 63 0 0 1 66 0 0 1 71 0 0 1 a7f6 2 0 1 127 0 0 1 153 362 0 1 a727 0 0 1 ab37 0 0 1 26b 0 0 1
ab52 9 0 1 28d 6 0 1 13a0 0 0 1 13a1 0 0 1 13a2 0 0 1 13a3 0 0 1 13a4 0 0 1 13a5 0 0 1 13a6 0 0
1 13a7 0 0 1 13a8 0 0 1 13a9 0 0 1 13aa 0 0 1 13ab 0 0 1 13ac 0 0 1 13ad 0 0 1 13ae 0 0 1 13af 0
0 1 13b0 0 0 1 13b1 0 0 1 13b2 0 0 1 13b3 0 0 1 13b4 0 0 1 13b5 0 0 1 13b6 0 0 1 13b7 0 0 1 13b8
0 0 1 13b9 0 0 1 13ba 0 0 1 13bb 0 0 1 13bc 0 0 1 13bd 0 0 1 13be 0 0 1 13bf 0 0 1 13c0 0 0 1
13c1 0 0 1 13c2 0 0 1 13c3 0 0 1 13c4 0 0 1 13c5 0 0 1 13c6 0 0 1 13c7 0 0 1 13c8 0 0 1 13c9 0 0
1 13ca 0 0 1 13cb 0 0 1 13cc 0 0 1 13cd 0 0 1 13ce 0 0 1 13cf 0 0 1 13d0 0 0 1 13d1 0 0 1 13d2 0
0 1 13d3 0 0 1 13d4 0 0 1 13d5 0 0 1 13d6 0 0 1 13d7 0 0 1 13d8 0 0 1 13d9 0 0 1 13da 0 0 1 13db
0 0 1 13dc 0 0 1 13dd 0 0 1 13de 0 0 1 13df 0 0 1 13e0 0 0 1 13e1 0 0 1 13e2 0 0 1 13e3 0 0 1
13e4 0 0 1 13e5 0 0 1 13e6 0 0 1 13e7 0 0 1 13e8 0 0 1 13e9 0 0 1 13ea 0 0 1 13eb 0 0 1 13ec 0 0
1 13ed 0 0 1 13ee 0 0 1 13ef 4d40 0 1 8c48 0 0 1 66f4 0 0 1 8eca 0 0 1 8cc8 0 0 1 6ed1 0 0 1
4e32 0 0 1 53e5 0 1 1 9f9c 0 0 1 5951 0 0 1 91d1 0 0 1 5587 0 0 1 5948 0 0 1 61f6 0 0 1 7669 0 0
1 7f85 0 0 1 863f 0 0 1 87ba 0 0 1 88f8 0 0 1 908f 0 0 1 6a02 0 0 1 6d1b 0 0 1 70d9 0 0 1 73de 0
0 1 843d 0 0 1 916a 0 0 1 99f1 0 0 1 4e82 0 0 1 5375 0 0 1 6b04 0 0 1 721b 0 0 1 862d 0 0 1 9e1e
0 0 1 5d50 0 0 1 6feb 0 0 1 85cd 0 0 1 8964 0 0 1 62c9 0 0 1 81d8 0 0 1 881f 0 0 1 5eca 0 0 1
6717 0 0 1 6d6a 0 0 1 72fc 0 0 1 90ce 0 0 1 4f86 0 0 1 51b7 0 0 1 52de 0 0 1 64c4 0 0 1 6ad3 0 0
1 7210 0 0 1 76e7 0 0 1 8001 0 0 1 8606 0 0 1 865c 0 0 1 8def 0 0 1 9732 0 0 1 9b6f 0 0 1 9dfa 0
0 1 788c 0 0 1 797f 0 0 1 7da0 0 0 1 83c9 0 0 1 9304 0 0 1 9e7f 0 0 1 8ad6 0 0 1 58df 0 0 1 5f04
0 0 1 7c60 0 0 1 807e 0 0 1 7262 0 0 1 78ca 0 0 1 8cc2 0 0 1 96f7 0 0 1 58d8 0 0 1 5c62 0 0 1
6a13 0 0 1 6dda 0 0 1 6f0f 0 0 1 7d2f 0 0 1 7e37 0 0 1 964b 0 0 1 52d2 0 0 1 808b 0 0 1 51dc 0 0
1 51cc 0 0 1 7a1c 0 0 1 7dbe 0 0 1 83f1 0 0 1 9675 0 0 1 8b80 0 0 1 62cf 0 0 1 6a02 0 0 1 8afe 0
0 1 4e39 0 0 1 5be7 0 0 1 6012 0 0 1 7387 0 0 1 7570 0 0 1 5317 0 0 1 78fb 0 0 1 4fbf 0 0 1 5fa9
0 0 1 4e0d 0 0 1 6ccc 0 0 1 6578 0 0 1 7d22 0 0 1 53c3 0 0 1 585e 0 0 1 7701 0 0 1 8449 0 0 1
8aaa 0 0 1 6bba 0 0 1 8fb0 0 0 1 6c88 0 0 1 62fe 0 0 1 82e5 0 0 1 63a0 0 0 1 7565 0 0 1 4eae 0 0
1 5169 0 0 1 51c9 0 0 1 6881 0 0 1 7ce7 0 0 1 826f 0 0 1 8ad2 0 0 1 91cf 0 0 1 52f5 0 0 1 5442 0
0 1 5973 0 0 1 5eec 0 0 1 65c5 0 0 1 6ffe 0 0 1 792a 0 0 1 95ad 0 0 1 9a6a 0 0 1 9e97 0 0 1 9ece
0 0 1 529b 0 0 1 66c6 0 0 1 6b77 0 0 1 8f62 0 0 1 5e74 0 0 1 6190 0 0 1 6200 0 0 1 649a 0 0 1
6f23 0 0 1 7149 0 0 1 7489 0 0 1 79ca 0 0 1 7df4 0 0 1 806f 0 0 1 8f26 0 0 1 84ee 0 0 1 9023 0 0
1 934a 0 0 1 5217 0 0 1 52a3 0 0 1 54bd 0 0 1 70c8 0 0 1 88c2 0 0 1 8aaa 0 0 1 5ec9 0 0 1 5ff5 0
0 1 637b 0 0 1 6bae 0 0 1 7c3e 0 0 1 7375 0 0 1 4ee4 0 0 1 56f9 0 0 1 5be7 0 0 1 5dba 0 0 1 601c
0 0 1 73b2 0 0 1 7469 0 0 1 7f9a 0 0 1 8046 0 0 1 9234 0 0 1 96f6 0 0 1 9748 0 0 1 9818 0 0 1
4f8b 0 0 1 79ae 0 0 1 91b4 0 0 1 96b8 0 0 1 60e1 0 0 1 4e86 0 0 1 50da 0 0 1 5bee 0 0 1 5c3f 0 0
1 6599 0 0 1 6a02 0 0 1 71ce 0 0 1 7642 0 0 1 84fc 0 0 1 907c 0 0 1 9f8d 0 0 1 6688 0 0 1 962e 0
0 1 5289 0 0 1 677b 0 0 1 67f3 0 0 1 6d41 0 0 1 6e9c 0 0 1 7409 0 0 1 7559 0 0 1 786b 0 0 1 7d10
0 0 1 985e 0 0 1 516d 0 0 1 622e 0 0 1 9678 0 0 1 502b 0 0 1 5d19 0 0 1 6dea 0 0 1 8f2a 0 0 1
5f8b 0 0 1 6144 0 0 1 6817 0 0 1 7387 0 0 1 9686 0 0 1 5229 0 0 1 540f 0 0 1 5c65 0 0 1 6613 0 0
1 674e 0 0 1 68a8 0 0 1 6ce5 0 0 1 7406 0 0 1 75e2 0 0 1 7f79 0 0 1 88cf 0 0 1 88e1 0 0 1 91cc 0
0 1 96e2 0 0 1 533f 0 0 1 6eba 0 0 1 541d 0 0 1 71d0 0 0 1 7498 0 0 1 85fa 0 0 1 96a3 0 0 1 9c57
0 0 1 9e9f 0 0 1 6797 0 0 1 6dcb 0 0 1 81e8 0 0 1 7acb 0 0 1 7b20 0 0 1 7c92 0 0 1 72c0 0 0 1
7099 0 0 1 8b58 0 0 1 4ec0 0 0 1 8336 0 0 1 523a 0 0 1 5207 0 0 1 5ea6 0 0 1 62d3 0 0 1 7cd6 0 0
1 5b85 0 0 1 6d1e 0 0 1 66b4 0 0 1 8f3b 0 0 1 884c 0 0 1 964d 0 0 1 898b 0 0 1 5ed3 0 0 1 5140 0
0 1 55c0 2 0 1 585a 1 0 1 6674 2 0 1 51de 0 0 1 732a 0 0 1 76ca 0 0 1 793c 0 0 1 795e 0 0 1 7965
0 0 1 798f 0 0 1 9756 0 0 1 7cbe 0 0 1 7fbd 1 0 1 8612 1 0 1 8af8 2 0 1 9038 0 0 1 90fd 3 0 1
98ef 0 0 1 98fc 0 0 1 9928 0 0 1 9db4 0 0 1 90de 0 0 1 96b7 0 0 1 4fae 0 0 1 50e7 0 0 1 514d 0 0
1 52c9 0 0 1 52e4 0 0 1 5351 0 0 1 559d 0 0 1 5606 0 0 1 5668 0 0 1 5840 0 0 1 58a8 0 0 1 5c64 0
0 1 5c6e 0 0 1 6094 0 0 1 6168 0 0 1 618e 0 0 1 61f2 0 0 1 654f 0 0 1 65e2 0 0 1 6691 0 0 1 6885
0 0 1 6d77 0 0 1 6e1a 0 0 1 6f22 0 0 1 716e 0 0 1 722b 0 0 1 7422 0 0 1 7891 0 0 1 793e 0 0 1
7949 0 0 1 7948 0 0 1 7950 0 0 1 7956 0 0 1 795d 0 0 1 798d 0 0 1 798e 0 0 1 7a40 0 0 1 7a81 0 0
1 7bc0 0 0 1 7df4 0 0 1 7e09 0 0 1 7e41 0 0 1 7f72 0 0 1 8005 0 0 1 81ed 0 1 1 8279 0 0 1 8457 0
0 1 8910 0 0 1 8996 0 0 1 8b01 0 0 1 8b39 0 0 1 8cd3 0 0 1 8d08 0 0 1 8fb6 0 0 1 9038 0 0 1 96e3
0 0 1 97ff 0 0 1 983b 0 0 1 6075 0 0 1 242ee 0 0 1 8218 2 0 1 4e26 0 0 1 51b5 0 0 1 5168 0 0 1
4f80 0 0 1 5145 0 0 1 5180 0 0 1 52c7 0 0 1 52fa 0 0 1 559d 0 0 1 5555 0 0 1 5599 0 0 1 55e2 0 0
1 585a 0 0 1 58b3 0 0 1 5944 0 0 1 5954 0 0 1 5a62 0 0 1 5b28 0 0 1 5ed2 0 0 1 5ed9 0 0 1 5f69 0
0 1 5fad 0 0 1 60d8 0 0 1 614e 0 0 1 6108 0 0 1 618e 0 0 1 6160 0 0 1 61f2 0 0 1 6234 0 0 1 63c4
0 0 1 641c 0 0 1 6452 0 0 1 6556 0 0 1 6674 0 0 1 6717 0 0 1 671b 0 0 1 6756 0 0 1 6b79 0 0 1
6bba 0 0 1 6d41 0 0 1 6edb 0 0 1 6ecb 0 0 1 6f22 0 0 1 701e 0 0 1 716e 0 0 1 77a7 0 0 1 7235 0 0
1 72af 0 0 1 732a 0 0 1 7471 0 0 1 7506 0 0 1 753b 0 0 1 761d 0 0 1 761f 0 0 1 76ca 0 0 1 76db 0
0 1 76f4 0 0 1 774a 0 0 1 7740 0 0 1 78cc 0 0 1 7ab1 0 0 1 7bc0 0 0 1 7c7b 0 0 1 7d5b 0 0 1 7df4
0 0 1 7f3e 0 0 1 8005 0 0 1 8352 0 0 1 83ef 0 0 1 8779 0 0 1 8941 0 0 1 8986 0 0 1 8996 0 0 1
8abf 0 0 1 8af8 0 0 1 8acb 0 0 1 8b01 0 0 1 8afe 0 0 1 8aed 0 0 1 8b39 0 0 1 8b8a 0 0 1 8d08 0 0
1 8f38 0 0 1 9072 0 0 1 9199 0 0 1 9276 0 0 1 967c 0 0 1 96e3 0 0 1 9756 0 0 1 97db 0 0 1 97ff 0
0 1 980b 0 0 1 983b 0 0 1 9b12 0 0 1 9f9c 0 0 1 2284a 0 0 1 22844 0 0 1 233d5 0 0 1 3b9d 0 0 1
4018 0 0 1 4039 0 0 1 25249 0 0 1 25cd0 0 0 1 27ed3 0 0 1 9f43 0 0 1 9f8e 26 0 2 66 66 0 0 2 66
69 0 0 2 66 6c 0 0 3 66 66 69 0 0 3 66 66 6c 0 1 2 73 74 c 0 2 574 576 0 0 2 574 565 0 0 2 574
56b 0 0 2 57e 576 0 0 2 574 56d 5 0 2 5d9 5b4 1 0 2 5f2 5b7 0 0 1 5e2 0 0 1 5d0 0 0 1 5d3 0 0 1
5d4 0 0 1 5db 0 0 1 5dc 0 0 1 5dd 0 0 1 5e8 0 0 1 5ea 0 0 1 2b 0 0 2 5e9 5c1 0 0 2 5e9 5c2 0 0 3
5e9 5bc 5c1 0 0 3 5e9 5bc 5c2 0 0 2 5d0 5b7 0 0 2 5d0 5b8 0 0 2 5d0 5bc 0 0 2 5d1 5bc 0 0 2 5d2
5bc 0 0 2 5d3 5bc 0 0 2 5d4 5bc 0 0 2 5d5 5bc 0 0 2 5d6 5bc 1 0 2 5d8 5bc 0 0 2 5d9 5bc 0 0 2
5da 5bc 0 0 2 5db 5bc 0 0 2 5dc 5bc 1 0 2 5de 5bc 1 0 2 5e0 5bc 0 0 2 5e1 5bc 1 0 2 5e3 5bc 0 0
2 5e4 5bc 1 0 2 5e6 5bc 0 0 2 5e7 5bc 0 0 2 5e8 5bc 0 0 2 5e9 5bc 0 0 2 5ea 5bc 0 0 2 5d5 5b9 0
0 2 5d1 5bf 0 0 2 5db 5bf 0 0 2 5e4 5bf 0 0 2 5d0 5dc 0 1 1 671 0 3 1 67b 0 3 1 67e 0 3 1 680 0
3 1 67a 0 3 1 67f 0 3 1 679 0 3 1 6a4 0 3 1 6a6 0 3 1 684 0 3 1 683 0 3 1 686 0 3 1 687 0 1 1
68d 0 1 1 68c 0 1 1 68e 0 1 1 688 0 1 1 698 0 1 1 691 0 3 1 6a9 0 3 1 6af 0 3 1 6b3 0 3 1 6b1 0
1 1 6ba 0 3 1 6bb 0 1 1 6c0 0 3 1 6c1 0 3 1 6be 0 1 1 6d2 0 1 1 6d3 21 3 1 6ad 0 1 1 6c7 0 1 1
6c6 0 1 1 6c8 0 0 2 6c7 674 0 1 1 6cb 0 1 1 6c5 0 1 1 6c9 0 3 1 6d0 0 1 1 649 0 1 2 626 627 0 1
2 626 6d5 0 1 2 626 648 0 1 2 626 6c7 0 1 2 626 6c6 0 1 2 626 6c8 0 2 2 626 6d0 0 2 2 626 649 0
3 1 6cc 0 0 2 626 62c 0 0 2 626 62d 0 0 2 626 645 0 0 2 626 649 0 0 2 626 64a 0 0 2 628 62c 0 0
2 628 62d 0 0 2 628 62e 0 0 2 628 645 0 0 2 628 649 0 0 2 628 64a 0 0 2 62a 62c 0 0 2 62a 62d 0
0 2 62a 62e 0 0 2 62a 645 0 0 2 62a 649 0 0 2 62a 64a 0 0 2 62b 62c 0 0 2 62b 645 0 0 2 62b 649
0 0 2 62b 64a 0 0 2 62c 62d 0 0 2 62c 645 0 0 2 62d 62c 0 0 2 62d 645 0 0 2 62e 62c 0 0 2 62e
62d 0 0 2 62e 645 0 0 2 633 62c 0 0 2 633 62d 0 0 2 633 62e 0 0 2 633 645 0 0 2 635 62d 0 0 2
635 645 0 0 2 636 62c 0 0 2 636 62d 0 0 2 636 62e 0 0 2 636 645 0 0 2 637 62d 0 0 2 637 645 0 0
2 638 645 0 0 2 639 62c 0 0 2 639 645 0 0 2 63a 62c 0 0 2 63a 645 0 0 2 641 62c 0 0 2 641 62d 0
0 2 641 62e 0 0 2 641 645 0 0 2 641 649 0 0 2 641 64a 0 0 2 642 62d 0 0 2 642 645 0 0 2 642 649
0 0 2 642 64a 0 0 2 643 627 0 0 2 643 62c 0 0 2 643 62d 0 0 2 643 62e 0 0 2 643 644 0 0 2 643
645 0 0 2 643 649 0 0 2 643 64a 0 0 2 644 62c 0 0 2 644 62d 0 0 2 644 62e 0 0 2 644 645 0 0 2
644 649 0 0 2 644 64a 0 0 2 645 62c 0 0 2 645 62d 0 0 2 645 62e 0 0 2 645 645 0 0 2 645 649 0 0
2 645 64a 0 0 2 646 62c 0 0 2 646 62d 0 0 2 646 62e 0 0 2 646 645 0 0 2 646 649 0 0 2 646 64a 0
0 2 647 62c 0 0 2 647 645 0 0 2 647 649 0 0 2 647 64a 0 0 2 64a 62c 0 0 2 64a 62d 0 0 2 64a 62e
0 0 2 64a 645 0 0 2 64a 649 0 0 2 64a 64a 0 0 2 630 670 0 0 2 631 670 0 0 2 649 670 0 0 3 20 64c
651 0 0 3 20 64d 651 0 0 3 20 64e 651 0 0 3 20 64f 651 0 0 3 20 650 651 0 0 3 20 651 670 0 0 2
626 631 0 0 2 626 632 0 0 2 626 645 0 0 2 626 646 0 0 2 626 649 0 0 2 626 64a 0 0 2 628 631 0 0
2 628 632 0 0 2 628 645 0 0 2 628 646 0 0 2 628 649 0 0 2 628 64a 0 0 2 62a 631 0 0 2 62a 632 0
0 2 62a 645 0 0 2 62a 646 0 0 2 62a 649 0 0 2 62a 64a 0 0 2 62b 631 0 0 2 62b 632 0 0 2 62b 645
0 0 2 62b 646 0 0 2 62b 649 0 0 2 62b 64a 0 0 2 641 649 0 0 2 641 64a 0 0 2 642 649 0 0 2 642
64a 0 0 2 643 627 0 0 2 643 644 0 0 2 643 645 0 0 2 643 649 0 0 2 643 64a 0 0 2 644 645 0 0 2
644 649 0 0 2 644 64a 0 0 2 645 627 0 0 2 645 645 0 0 2 646 631 0 0 2 646 632 0 0 2 646 645 0 0
2 646 646 0 0 2 646 649 0 0 2 646 64a 0 0 2 649 670 0 0 2 64a 631 0 0 2 64a 632 0 0 2 64a 645 0
0 2 64a 646 0 0 2 64a 649 0 0 2 64a 64a 0 0 2 626 62c 0 0 2 626 62d 0 0 2 626 62e 0 0 2 626 645
0 0 2 626 647 0 0 2 628 62c 0 0 2 628 62d 0 0 2 628 62e 0 0 2 628 645 0 0 2 628 647 0 0 2 62a
62c 0 0 2 62a 62d 0 0 2 62a 62e 0 0 2 62a 645 0 0 2 62a 647 0 0 2 62b 645 0 0 2 62c 62d 0 0 2
62c 645 0 0 2 62d 62c 0 0 2 62d 645 0 0 2 62e 62c 0 0 2 62e 645 0 0 2 633 62c 0 0 2 633 62d 0 0
2 633 62e 0 0 2 633 645 0 0 2 635 62d 0 0 2 635 62e 0 0 2 635 645 0 0 2 636 62c 0 0 2 636 62d 0
0 2 636 62e 0 0 2 636 645 0 0 2 637 62d 0 0 2 638 645 0 0 2 639 62c 0 0 2 639 645 0 0 2 63a 62c
0 0 2 63a 645 0 0 2 641 62c 0 0 2 641 62d 0 0 2 641 62e 0 0 2 641 645 0 0 2 642 62d 0 0 2 642
645 0 0 2 643 62c 0 0 2 643 62d 0 0 2 643 62e 0 0 2 643 644 0 0 2 643 645 0 0 2 644 62c 0 0 2
644 62d 0 0 2 644 62e 0 0 2 644 645 0 0 2 644 647 0 0 2 645 62c 0 0 2 645 62d 0 0 2 645 62e 0 0
2 645 645 0 0 2 646 62c 0 0 2 646 62d 0 0 2 646 62e 0 0 2 646 645 0 0 2 646 647 0 0 2 647 62c 0
0 2 647 645 0 0 2 647 670 0 0 2 64a 62c 0 0 2 64a 62d 0 0 2 64a 62e 0 0 2 64a 645 0 0 2 64a 647
0 0 2 626 645 0 0 2 626 647 0 0 2 628 645 0 0 2 628 647 0 0 2 62a 645 0 0 2 62a 647 0 0 2 62b
645 0 0 2 62b 647 0 0 2 633 645 0 0 2 633 647 0 0 2 634 645 0 0 2 634 647 0 0 2 643 644 0 0 2
643 645 0 0 2 644 645 0 0 2 646 645 0 0 2 646 647 0 0 2 64a 645 0 0 2 64a 647 0 0 3 640 64e 651
0 0 3 640 64f 651 0 0 3 640 650 651 0 0 2 637 649 0 0 2 637 64a 0 0 2 639 649 0 0 2 639 64a 0 0
2 63a 649 0 0 2 63a 64a 0 0 2 633 649 0 0 2 633 64a 0 0 2 634 649 0 0 2 634 64a 0 0 2 62d 649 0
0 2 62d 64a 0 0 2 62c 649 0 0 2 62c 64a 0 0 2 62e 649 0 0 2 62e 64a 0 0 2 635 649 0 0 2 635 64a
0 0 2 636 649 0 0 2 636 64a 0 0 2 634 62c 0 0 2 634 62d 0 0 2 634 62e 0 0 2 634 645 0 0 2 634
631 0 0 2 633 631 0 0 2 635 631 0 0 2 636 631 0 0 2 637 649 0 0 2 637 64a 0 0 2 639 649 0 0 2
639 64a 0 0 2 63a 649 0 0 2 63a 64a 0 0 2 633 649 0 0 2 633 64a 0 0 2 634 649 0 0 2 634 64a 0 0
2 62d 649 0 0 2 62d 64a 0 0 2 62c 649 0 0 2 62c 64a 0 0 2 62e 649 0 0 2 62e 64a 0 0 2 635 649 0
0 2 635 64a 0 0 2 636 649 0 0 2 636 64a 0 0 2 634 62c 0 0 2 634 62d 0 0 2 634 62e 0 0 2 634 645
0 0 2 634 631 0 0 2 633 631 0 0 2 635 631 0 0 2 636 631 0 0 2 634 62c 0 0 2 634 62d 0 0 2 634
62e 0 0 2 634 645 0 0 2 633 647 0 0 2 634 647 0 0 2 637 645 0 0 2 633 62c 0 0 2 633 62d 0 0 2
633 62e 0 0 2 634 62c 0 0 2 634 62d 0 0 2 634 62e 0 0 2 637 645 0 0 2 638 645 0 1 2 627 64b 12 0
3 62a 62c 645 0 1 3 62a 62d 62c 0 0 3 62a 62d 645 0 0 3 62a 62e 645 0 0 3 62a 645 62c 0 0 3 62a
645 62d 0 0 3 62a 645 62e 0 1 3 62c 645 62d 0 0 3 62d 645 64a 0 0 3 62d 645 649 0 0 3 633 62d
62c 0 0 3 633 62c 62d 0 0 3 633 62c 649 0 1 3 633 645 62d 0 0 3 633 645 62c 0 1 3 633 645 645 0
1 3 635 62d 62d 0 0 3 635 645 645 0 1 3 634 62d 645 0 0 3 634 62c 64a 0 1 3 634 645 62e 0 1 3
634 645 645 0 0 3 636 62d 649 0 1 3 636 62e 645 0 1 3 637 645 62d 0 0 3 637 645 645 0 0 3 637
645 64a 0 0 3 639 62c 645 0 1 3 639 645 645 0 0 3 639 645 649 0 0 3 63a 645 645 0 0 3 63a 645
64a 0 0 3 63a 645 649 0 1 3 641 62e 645 0 0 3 642 645 62d 0 0 3 642 645 645 0 0 3 644 62d 645 0
0 3 644 62d 64a 0 0 3 644 62d 649 0 1 3 644 62c 62c 0 1 3 644 62e 645 0 1 3 644 645 62d 0 0 3
645 62d 62c 0 0 3 645 62d 645 0 0 3 645 62d 64a 0 0 3 645 62c 62d 0 0 3 645 62c 645 0 0 3 645
62e 62c 0 0 3 645 62e 645 2 0 3 645 62c 62e 0 0 3 647 645 62c 0 0 3 647 645 645 0 0 3 646 62d
645 0 0 3 646 62d 649 0 1 3 646 62c 645 0 0 3 646 62c 649 0 0 3 646 645 64a 0 0 3 646 645 649 0
1 3 64a 645 645 0 0 3 628 62e 64a 0 0 3 62a 62c 64a 0 0 3 62a 62c 649 0 0 3 62a 62e 64a 0 0 3
62a 62e 649 0 0 3 62a 645 64a 0 0 3 62a 645 649 0 0 3 62c 645 64a 0 0 3 62c 62d 649 0 0 3 62c
645 649 0 0 3 633 62e 649 0 0 3 635 62d 64a 0 0 3 634 62d 64a 0 0 3 636 62d 64a 0 0 3 644 62c
64a 0 0 3 644 645 64a 0 0 3 64a 62d 64a 0 0 3 64a 62c 64a 0 0 3 64a 645 64a 0 0 3 645 645 64a 0
0 3 642 645 64a 0 0 3 646 62d 64a 0 0 3 642 645 62d 0 0 3 644 62d 645 0 0 3 639 645 64a 0 0 3
643 645 64a 0 0 3 646 62c 62d 0 0 3 645 62e 64a 0 0 3 644 62c 645 0 0 3 643 645 645 0 0 3 644
62c 645 0 0 3 646 62c 62d 0 0 3 62c 62d 64a 0 0 3 62d 62c 64a 0 0 3 645 62c 64a 0 0 3 641 645
64a 0 0 3 628 62d 64a 0 0 3 643 645 645 0 0 3 639 62c 645 0 0 3 635 645 645 0 0 3 633 62e 64a 0
0 3 646 62c 64a 28 0 3 635 644 6d2 0 0 3 642 644 6d2 0 0 4 627 644 644 647 0 0 4 627 643 628 631
0 0 4 645 62d 645 62f 0 0 4 635 644 639 645 0 0 4 631 633 648 644 0 0 4 639 644 64a 647 0 0 4
648 633 644 645 0 0 3 635 644 649 0 0 12 635 644 649 20 627 644 644 647 20 639 644 64a 647 20
648 633 644 645 0 0 8 62c 644 20 62c 644 627 644 647 0 0 4 631 6cc 627 644 13 0 1 2c 0 0 1 3001
1 0 1 3a 0 0 1 3b 0 0 1 21 0 0 1 3f 0 0 1 3016 0 0 1 3017 18 0 1 2014 0 0 1 2013 0 1 1 5f 0 0 1
28 0 0 1 29 0 0 1 7b 0 0 1 7d 0 0 1 3014 0 0 1 3015 0 0 1 3010 0 0 1 3011 0 0 1 300a 0 0 1 300b
0 0 1 3008 0 0 1 3009 0 0 1 300c 0 0 1 300d 0 0 1 300e 0 0 1 300f 2 0 1 5b 0 0 1 5d 0 3 2 20 305
0 2 1 5f 0 0 1 2c 0 0 1 3001 2 0 1 3b 0 0 1 3a 0 0 1 3f 0 0 1 21 0 0 1 2014 0 0 1 28 0 0 1 29 0
0 1 7b 0 0 1 7d 0 0 1 3014 0 0 1 3015 0 0 1 23 0 0 1 26 0 0 1 2a 0 0 1 2b 0 0 1 2d 0 0 1 3c 0 0
1 3e 0 0 1 3d 1 0 1 5c 0 0 1 24 0 0 1 25 0 0 1 40 4 0 2 20 64b 0 0 2 640 64b 0 0 2 20 64c 1 0 2
20 64d 1 0 2 20 64e 0 0 2 640 64e 0 0 2 20 64f 0 0 2 640 64f 0 0 2 20 650 0 0 2 640 650 0 0 2 20
651 0 0 2 640 651 0 0 2 20 652 0 0 2 640 652 0 0 1 621 0 1 1 622 0 1 1 623 0 1 1 624 0 1 1 625 0
3 1 626 0 1 1 627 0 3 1 628 0 1 1 629 0 3 1 62a 0 3 1 62b 0 3 1 62c 0 3 1 62d 0 3 1 62e 0 1 1
62f 0 1 1 630 0 1 1 631 0 1 1 632 0 3 1 633 0 3 1 634 0 3 1 635 0 3 1 636 0 3 1 637 0 3 1 638 0
3 1 639 0 3 1 63a 0 3 1 641 0 3 1 642 0 3 1 643 0 3 1 644 0 3 1 645 0 3 1 646 0 3 1 647 0 1 1
648 0 1 1 649 0 3 1 64a 0 1 2 644 622 0 1 2 644 623 0 1 2 644 625 0 1 2 644 627 4 0 1 21 0 0 1
22 0 0 1 23 0 0 1 24 0 0 1 25 0 0 1 26 0 0 1 27 0 0 1 28 0 0 1 29 0 0 1 2a 0 0 1 2b 0 0 1 2c 0 0
1 2d 0 0 1 2e 0 0 1 2f 0 0 1 30 0 0 1 31 0 0 1 32 0 0 1 33 0 0 1 34 0 0 1 35 0 0 1 36 0 0 1 37 0
0 1 38 0 0 1 39 0 0 1 3a 0 0 1 3b 0 0 1 3c 0 0 1 3d 0 0 1 3e 0 0 1 3f 0 0 1 40 0 0 1 61 0 0 1 62
0 0 1 63 0 0 1 64 0 0 1 65 0 0 1 66 0 0 1 67 0 0 1 68 0 0 1 69 0 0 1 6a 0 0 1 6b 0 0 1 6c 0 0 1
6d 0 0 1 6e 0 0 1 6f 0 0 1 70 0 0 1 71 0 0 1 72 0 0 1 73 0 0 1 74 0 0 1 75 0 0 1 76 0 0 1 77 0 0
1 78 0 0 1 79 0 0 1 7a 0 0 1 5b 0 0 1 5c 0 0 1 5d 0 0 1 5e 0 0 1 5f 0 0 1 60 0 0 1 61 0 0 1 62 0
0 1 63 0 0 1 64 0 0 1 65 0 0 1 66 0 0 1 67 0 0 1 68 0 0 1 69 0 0 1 6a 0 0 1 6b 0 0 1 6c 0 0 1 6d
0 0 1 6e 0 0 1 6f 0 0 1 70 0 0 1 71 0 0 1 72 0 0 1 73 0 0 1 74 0 0 1 75 0 0 1 76 0 0 1 77 0 0 1
78 0 0 1 79 0 0 1 7a 0 0 1 7b 0 0 1 7c 0 0 1 7d 0 0 1 7e 0 0 1 2985 0 0 1 2986 0 0 1 2e 0 0 1
300c 0 0 1 300d 0 0 1 3001 0 0 1 30fb 0 0 1 30f2 0 0 1 30a1 0 0 1 30a3 0 0 1 30a5 0 0 1 30a7 0 0
1 30a9 0 0 1 30e3 0 0 1 30e5 0 0 1 30e7 0 0 1 30c3 0 0 1 30fc 0 0 1 30a2 0 0 1 30a4 0 0 1 30a6 0
0 1 30a8 0 0 1 30aa 0 0 1 30ab 0 0 1 30ad 0 0 1 30af 0 0 1 30b1 0 0 1 30b3 0 0 1 30b5 0 0 1 30b7
0 0 1 30b9 0 0 1 30bb 0 0 1 30bd 0 0 1 30bf 0 0 1 30c1 0 0 1 30c4 0 0 1 30c6 0 0 1 30c8 0 0 1
30ca 0 0 1 30cb 0 0 1 30cc 0 0 1 30cd 0 0 1 30ce 0 0 1 30cf 0 0 1 30d2 0 0 1 30d5 0 0 1 30d8 0 0
1 30db 0 0 1 30de 0 0 1 30df 0 0 1 30e0 0 0 1 30e1 0 0 1 30e2 0 0 1 30e4 0 0 1 30e6 0 0 1 30e8 0
0 1 30e9 0 0 1 30ea 0 0 1 30eb 0 0 1 30ec 0 0 1 30ed 0 0 1 30ef 0 0 1 30f3 0 0 1 3099 0 0 1 309a
1 0 1 1100 0 0 1 1101 0 0 1 11aa 0 0 1 1102 0 0 1 11ac 0 0 1 11ad 0 0 1 1103 0 0 1 1104 0 0 1
1105 0 0 1 11b0 0 0 1 11b1 0 0 1 11b2 0 0 1 11b3 0 0 1 11b4 0 0 1 11b5 0 0 1 111a 0 0 1 1106 0 0
1 1107 0 0 1 1108 0 0 1 1121 0 0 1 1109 0 0 1 110a 0 0 1 110b 0 0 1 110c 0 0 1 110d 0 0 1 110e 0
0 1 110f 0 0 1 1110 0 0 1 1111 0 0 1 1112 3 0 1 1161 0 0 1 1162 0 0 1 1163 0 0 1 1164 0 0 1 1165
0 0 1 1166 2 0 1 1167 0 0 1 1168 0 0 1 1169 0 0 1 116a 0 0 1 116b 0 0 1 116c 2 0 1 116d 0 0 1
116e 0 0 1 116f 0 0 1 1170 0 0 1 1171 0 0 1 1172 2 0 1 1173 0 0 1 1174 0 0 1 1175 3 0 1 a2 0 0 1
a3 0 0 1 ac 0 0 2 20 304 0 0 1 a6 0 0 1 a5 0 0 1 20a9 1 0 1 2502 0 0 1 2190 0 0 1 2191 0 0 1
2192 0 0 1 2193 0 0 1 25a0 0 0 1 25cb 411 0 1 10428 0 0 1 10429 0 0 1 1042a 0 0 1 1042b 0 0 1
1042c 0 0 1 1042d 0 0 1 1042e 0 0 1 1042f 0 0 1 10430 0 0 1 10431 0 0 1 10432 0 0 1 10433 0 0 1
10434 0 0 1 10435 0 0 1 10436 0 0 1 10437 0 0 1 10438 0 0 1 10439 0 0 1 1043a 0 0 1 1043b 0 0 1
1043c 0 0 1 1043d 0 0 1 1043e 0 0 1 1043f 0 0 1 10440 0 0 1 10441 0 0 1 10442 0 0 1 10443 0 0 1
10444 0 0 1 10445 0 0 1 10446 0 0 1 10447 0 0 1 10448 0 0 1 10449 0 0 1 1044a 0 0 1 1044b 0 0 1
1044c 0 0 1 1044d 0 0 1 1044e 0 0 1 1044f 88 0 1 104d8 0 0 1 104d9 0 0 1 104da 0 0 1 104db 0 0 1
104dc 0 0 1 104dd 0 0 1 104de 0 0 1 104df 0 0 1 104e0 0 0 1 104e1 0 0 1 104e2 0 0 1 104e3 0 0 1
104e4 0 0 1 104e5 0 0 1 104e6 0 0 1 104e7 0 0 1 104e8 0 0 1 104e9 0 0 1 104ea 0 0 1 104eb 0 0 1
104ec 0 0 1 104ed 0 0 1 104ee 0 0 1 104ef 0 0 1 104f0 0 0 1 104f1 0 0 1 104f2 0 0 1 104f3 0 0 1
104f4 0 0 1 104f5 0 0 1 104f6 0 0 1 104f7 0 0 1 104f8 0 0 1 104f9 0 0 1 104fa 0 0 1 104fb 9c 0 1
10597 0 0 1 10598 0 0 1 10599 0 0 1 1059a 0 0 1 1059b 0 0 1 1059c 0 0 1 1059d 0 0 1 1059e 0 0 1
1059f 0 0 1 105a0 0 0 1 105a1 1 0 1 105a3 0 0 1 105a4 0 0 1 105a5 0 0 1 105a6 0 0 1 105a7 0 0 1
105a8 0 0 1 105a9 0 0 1 105aa 0 0 1 105ab 0 0 1 105ac 0 0 1 105ad 0 0 1 105ae 0 0 1 105af 0 0 1
105b0 0 0 1 105b1 1 0 1 105b3 0 0 1 105b4 0 0 1 105b5 0 0 1 105b6 0 0 1 105b7 0 0 1 105b8 0 0 1
105b9 1 0 1 105bb 0 0 1 105bc 1eb 0 1 2d0 0 0 1 2d1 0 0 1 e6 0 0 1 299 0 0 1 253 1 0 1 2a3 0 0 1
ab66 0 0 1 2a5 0 0 1 2a4 0 0 1 256 0 0 1 257 0 0 1 1d91 0 0 1 258 0 0 1 25e 0 0 1 2a9 0 0 1 264
0 0 1 262 0 0 1 260 0 0 1 29b 0 0 1 127 0 0 1 29c 0 0 1 267 0 0 1 284 0 0 1 2aa 0 0 1 2ab 0 0 1
26c 0 0 1 1df04 0 0 1 a78e 0 0 1 26e 0 0 1 1df05 0 0 1 28e 0 0 1 1df06 0 0 1 f8 0 0 1 276 0 0 1
277 0 0 1 71 0 0 1 27a 0 0 1 1df08 0 0 1 27d 0 0 1 27e 0 0 1 280 0 0 1 2a8 0 0 1 2a6 0 0 1 ab67
0 0 1 2a7 0 0 1 288 0 0 1 2c71 1 0 1 28f 0 0 1 2a1 0 0 1 2a2 0 0 1 298 0 0 1 1c0 0 0 1 1c1 0 0 1
1c2 0 0 1 1df0a 0 0 1 1df1e 4c5 0 1 10cc0 0 0 1 10cc1 0 0 1 10cc2 0 0 1 10cc3 0 0 1 10cc4 0 0 1
10cc5 0 0 1 10cc6 0 0 1 10cc7 0 0 1 10cc8 0 0 1 10cc9 0 0 1 10cca 0 0 1 10ccb 0 0 1 10ccc 0 0 1
10ccd 0 0 1 10cce 0 0 1 10ccf 0 0 1 10cd0 0 0 1 10cd1 0 0 1 10cd2 0 0 1 10cd3 0 0 1 10cd4 0 0 1
10cd5 0 0 1 10cd6 0 0 1 10cd7 0 0 1 10cd8 0 0 1 10cd9 0 0 1 10cda 0 0 1 10cdb 0 0 1 10cdc 0 0 1
10cdd 0 0 1 10cde 0 0 1 10cdf 0 0 1 10ce0 0 0 1 10ce1 0 0 1 10ce2 0 0 1 10ce3 0 0 1 10ce4 0 0 1
10ce5 0 0 1 10ce6 0 0 1 10ce7 0 0 1 10ce8 0 0 1 10ce9 0 0 1 10cea 0 0 1 10ceb 0 0 1 10cec 0 0 1
10ced 0 0 1 10cee 0 0 1 10cef 0 0 1 10cf0 0 0 1 10cf1 0 0 1 10cf2 9d 0 1 10d70 0 0 1 10d71 0 0 1
10d72 0 0 1 10d73 0 0 1 10d74 0 0 1 10d75 0 0 1 10d76 0 0 1 10d77 0 0 1 10d78 0 0 1 10d79 0 0 1
10d7a 0 0 1 10d7b 0 0 1 10d7c 0 0 1 10d7d 0 0 1 10d7e 0 0 1 10d7f 0 0 1 10d80 0 0 1 10d81 0 0 1
10d82 0 0 1 10d83 0 0 1 10d84 0 0 1 10d85 b3a 0 1 118c0 0 0 1 118c1 0 0 1 118c2 0 0 1 118c3 0 0
1 118c4 0 0 1 118c5 0 0 1 118c6 0 0 1 118c7 0 0 1 118c8 0 0 1 118c9 0 0 1 118ca 0 0 1 118cb 0 0
1 118cc 0 0 1 118cd 0 0 1 118ce 0 0 1 118cf 0 0 1 118d0 0 0 1 118d1 0 0 1 118d2 0 0 1 118d3 0 0
1 118d4 0 0 1 118d5 0 0 1 118d6 0 0 1 118d7 0 0 1 118d8 0 0 1 118d9 0 0 1 118da 0 0 1 118db 0 0
1 118dc 0 0 1 118dd 0 0 1 118de 0 0 1 118df 5580 0 1 16e60 0 0 1 16e61 0 0 1 16e62 0 0 1 16e63 0
0 1 16e64 0 0 1 16e65 0 0 1 16e66 0 0 1 16e67 0 0 1 16e68 0 0 1 16e69 0 0 1 16e6a 0 0 1 16e6b 0
0 1 16e6c 0 0 1 16e6d 0 0 1 16e6e 0 0 1 16e6f 0 0 1 16e70 0 0 1 16e71 0 0 1 16e72 0 0 1 16e73 0
0 1 16e74 0 0 1 16e75 0 0 1 16e76 0 0 1 16e77 0 0 1 16e78 0 0 1 16e79 0 0 1 16e7a 0 0 1 16e7b 0
0 1 16e7c 0 0 1 16e7d 0 0 1 16e7e 0 0 1 16e7f 40 0 1 16ebb 0 0 1 16ebc 0 0 1 16ebd 0 0 1 16ebe 0
0 1 16ebf 0 0 1 16ec0 0 0 1 16ec1 0 0 1 16ec2 0 0 1 16ec3 0 0 1 16ec4 0 0 1 16ec5 0 0 1 16ec6 0
0 1 16ec7 0 0 1 16ec8 0 0 1 16ec9 0 0 1 16eca 0 0 1 16ecb 0 0 1 16ecc 0 0 1 16ecd 0 0 1 16ece 0
0 1 16ecf 0 0 1 16ed0 0 0 1 16ed1 0 0 1 16ed2 0 0 1 16ed3 5e1d 0 1 61 0 0 1 62 0 0 1 63 0 0 1 64
0 0 1 65 0 0 1 66 0 0 1 67 0 0 1 68 0 0 1 69 0 0 1 6a 0 0 1 6b 0 0 1 6c 0 0 1 6d 0 0 1 6e 0 0 1
6f 0 0 1 70 0 0 1 71 0 0 1 72 0 0 1 73 0 0 1 74 0 0 1 75 0 0 1 76 0 0 1 77 0 0 1 78 0 0 1 79 0 0
1 7a 0 0 1 30 0 0 1 31 0 0 1 32 0 0 1 33 0 0 1 34 0 0 1 35 0 0 1 36 0 0 1 37 0 0 1 38 0 0 1 39
464 0 2 1d157 1d165 0 0 2 1d158 1d165 0 0 3 1d158 1d165 1d16e 0 0 3 1d158 1d165 1d16f 0 0 3
1d158 1d165 1d170 0 0 3 1d158 1d165 1d171 0 0 3 1d158 1d165 1d172 56 0 2 1d1b9 1d165 0 0 2 1d1ba
1d165 0 0 3 1d1b9 1d165 1d16e 0 0 3 1d1ba 1d165 1d16e 0 0 3 1d1b9 1d165 1d16f 0 0 3 1d1ba 1d165
1d16f 23f 0 1 61 0 0 1 62 0 0 1 63 0 0 1 64 0 0 1 65 0 0 1 66 0 0 1 67 0 0 1 68 0 0 1 69 0 0 1
6a 0 0 1 6b 0 0 1 6c 0 0 1 6d 0 0 1 6e 0 0 1 6f 0 0 1 70 0 0 1 71 0 0 1 72 0 0 1 73 0 0 1 74 0 0
1 75 0 0 1 76 0 0 1 77 0 0 1 78 0 0 1 79 0 0 1 7a 0 0 1 61 0 0 1 62 0 0 1 63 0 0 1 64 0 0 1 65 0
0 1 66 0 0 1 67 0 0 1 68 0 0 1 69 0 0 1 6a 0 0 1 6b 0 0 1 6c 0 0 1 6d 0 0 1 6e 0 0 1 6f 0 0 1 70
0 0 1 71 0 0 1 72 0 0 1 73 0 0 1 74 0 0 1 75 0 0 1 76 0 0 1 77 0 0 1 78 0 0 1 79 0 0 1 7a 0 0 1
61 0 0 1 62 0 0 1 63 0 0 1 64 0 0 1 65 0 0 1 66 0 0 1 67 0 0 1 68 0 0 1 69 0 0 1 6a 0 0 1 6b 0 0
1 6c 0 0 1 6d 0 0 1 6e 0 0 1 6f 0 0 1 70 0 0 1 71 0 0 1 72 0 0 1 73 0 0 1 74 0 0 1 75 0 0 1 76 0
0 1 77 0 0 1 78 0 0 1 79 0 0 1 7a 0 0 1 61 0 0 1 62 0 0 1 63 0 0 1 64 0 0 1 65 0 0 1 66 0 0 1 67
1 0 1 69 0 0 1 6a 0 0 1 6b 0 0 1 6c 0 0 1 6d 0 0 1 6e 0 0 1 6f 0 0 1 70 0 0 1 71 0 0 1 72 0 0 1
73 0 0 1 74 0 0 1 75 0 0 1 76 0 0 1 77 0 0 1 78 0 0 1 79 0 0 1 7a 0 0 1 61 0 0 1 62 0 0 1 63 0 0
1 64 0 0 1 65 0 0 1 66 0 0 1 67 0 0 1 68 0 0 1 69 0 0 1 6a 0 0 1 6b 0 0 1 6c 0 0 1 6d 0 0 1 6e 0
0 1 6f 0 0 1 70 0 0 1 71 0 0 1 72 0 0 1 73 0 0 1 74 0 0 1 75 0 0 1 76 0 0 1 77 0 0 1 78 0 0 1 79
0 0 1 7a 0 0 1 61 0 0 1 62 0 0 1 63 0 0 1 64 0 0 1 65 0 0 1 66 0 0 1 67 0 0 1 68 0 0 1 69 0 0 1
6a 0 0 1 6b 0 0 1 6c 0 0 1 6d 0 0 1 6e 0 0 1 6f 0 0 1 70 0 0 1 71 0 0 1 72 0 0 1 73 0 0 1 74 0 0
1 75 0 0 1 76 0 0 1 77 0 0 1 78 0 0 1 79 0 0 1 7a 0 0 1 61 1 0 1 63 0 0 1 64 2 0 1 67 2 0 1 6a 0
0 1 6b 2 0 1 6e 0 0 1 6f 0 0 1 70 0 0 1 71 1 0 1 73 0 0 1 74 0 0 1 75 0 0 1 76 0 0 1 77 0 0 1 78
0 0 1 79 0 0 1 7a 0 0 1 61 0 0 1 62 0 0 1 63 0 0 1 64 1 0 1 66 1 0 1 68 0 0 1 69 0 0 1 6a 0 0 1
6b 0 0 1 6c 0 0 1 6d 0 0 1 6e 1 0 1 70 0 0 1 71 0 0 1 72 0 0 1 73 0 0 1 74 0 0 1 75 0 0 1 76 0 0
1 77 0 0 1 78 0 0 1 79 0 0 1 7a 0 0 1 61 0 0 1 62 0 0 1 63 0 0 1 64 0 0 1 65 0 0 1 66 0 0 1 67 0
0 1 68 0 0 1 69 0 0 1 6a 0 0 1 6b 0 0 1 6c 0 0 1 6d 0 0 1 6e 0 0 1 6f 0 0 1 70 0 0 1 71 0 0 1 72
0 0 1 73 0 0 1 74 0 0 1 75 0 0 1 76 0 0 1 77 0 0 1 78 0 0 1 79 0 0 1 7a 0 0 1 61 0 0 1 62 0 0 1
63 0 0 1 64 0 0 1 65 0 0 1 66 0 0 1 67 0 0 1 68 0 0 1 69 0 0 1 6a 0 0 1 6b 0 0 1 6c 0 0 1 6d 0 0
1 6e 0 0 1 6f 0 0 1 70 0 0 1 71 0 0 1 72 0 0 1 73 0 0 1 74 0 0 1 75 0 0 1 76 0 0 1 77 0 0 1 78 0
0 1 79 0 0 1 7a 0 0 1 61 0 0 1 62 1 0 1 64 0 0 1 65 0 0 1 66 0 0 1 67 2 0 1 6a 0 0 1 6b 0 0 1 6c
0 0 1 6d 0 0 1 6e 0 0 1 6f 0 0 1 70 0 0 1 71 1 0 1 73 0 0 1 74 0 0 1 75 0 0 1 76 0 0 1 77 0 0 1
78 0 0 1 79 1 0 1 61 0 0 1 62 0 0 1 63 0 0 1 64 0 0 1 65 0 0 1 66 0 0 1 67 0 0 1 68 0 0 1 69 0 0
1 6a 0 0 1 6b 0 0 1 6c 0 0 1 6d 0 0 1 6e 0 0 1 6f 0 0 1 70 0 0 1 71 0 0 1 72 0 0 1 73 0 0 1 74 0
0 1 75 0 0 1 76 0 0 1 77 0 0 1 78 0 0 1 79 0 0 1 7a 0 0 1 61 0 0 1 62 1 0 1 64 0 0 1 65 0 0 1 66
0 0 1 67 1 0 1 69 0 0 1 6a 0 0 1 6b 0 0 1 6c 0 0 1 6d 1 0 1 6f 3 0 1 73 0 0 1 74 0 0 1 75 0 0 1
76 0 0 1 77 0 0 1 78 0 0 1 79 1 0 1 61 0 0 1 62 0 0 1 63 0 0 1 64 0 0 1 65 0 0 1 66 0 0 1 67 0 0
1 68 0 0 1 69 0 0 1 6a 0 0 1 6b 0 0 1 6c 0 0 1 6d 0 0 1 6e 0 0 1 6f 0 0 1 70 0 0 1 71 0 0 1 72 0
0 1 73 0 0 1 74 0 0 1 75 0 0 1 76 0 0 1 77 0 0 1 78 0 0 1 79 0 0 1 7a 0 0 1 61 0 0 1 62 0 0 1 63
0 0 1 64 0 0 1 65 0 0 1 66 0 0 1 67 0 0 1 68 0 0 1 69 0 0 1 6a 0 0 1 6b 0 0 1 6c 0 0 1 6d 0 0 1
6e 0 0 1 6f 0 0 1 70 0 0 1 71 0 0 1 72 0 0 1 73 0 0 1 74 0 0 1 75 0 0 1 76 0 0 1 77 0 0 1 78 0 0
1 79 0 0 1 7a 0 0 1 61 0 0 1 62 0 0 1 63 0 0 1 64 0 0 1 65 0 0 1 66 0 0 1 67 0 0 1 68 0 0 1 69 0
0 1 6a 0 0 1 6b 0 0 1 6c 0 0 1 6d 0 0 1 6e 0 0 1 6f 0 0 1 70 0 0 1 71 0 0 1 72 0 0 1 73 0 0 1 74
0 0 1 75 0 0 1 76 0 0 1 77 0 0 1 78 0 0 1 79 0 0 1 7a 0 0 1 61 0 0 1 62 0 0 1 63 0 0 1 64 0 0 1
65 0 0 1 66 0 0 1 67 0 0 1 68 0 0 1 69 0 0 1 6a 0 0 1 6b 0 0 1 6c 0 0 1 6d 0 0 1 6e 0 0 1 6f 0 0
1 70 0 0 1 71 0 0 1 72 0 0 1 73 0 0 1 74 0 0 1 75 0 0 1 76 0 0 1 77 0 0 1 78 0 0 1 79 0 0 1 7a 0
0 1 61 0 0 1 62 0 0 1 63 0 0 1 64 0 0 1 65 0 0 1 66 0 0 1 67 0 0 1 68 0 0 1 69 0 0 1 6a 0 0 1 6b
0 0 1 6c 0 0 1 6d 0 0 1 6e 0 0 1 6f 0 0 1 70 0 0 1 71 0 0 1 72 0 0 1 73 0 0 1 74 0 0 1 75 0 0 1
76 0 0 1 77 0 0 1 78 0 0 1 79 0 0 1 7a 0 0 1 61 0 0 1 62 0 0 1 63 0 0 1 64 0 0 1 65 0 0 1 66 0 0
1 67 0 0 1 68 0 0 1 69 0 0 1 6a 0 0 1 6b 0 0 1 6c 0 0 1 6d 0 0 1 6e 0 0 1 6f 0 0 1 70 0 0 1 71 0
0 1 72 0 0 1 73 0 0 1 74 0 0 1 75 0 0 1 76 0 0 1 77 0 0 1 78 0 0 1 79 0 0 1 7a 0 0 1 61 0 0 1 62
0 0 1 63 0 0 1 64 0 0 1 65 0 0 1 66 0 0 1 67 0 0 1 68 0 0 1 69 0 0 1 6a 0 0 1 6b 0 0 1 6c 0 0 1
6d 0 0 1 6e 0 0 1 6f 0 0 1 70 0 0 1 71 0 0 1 72 0 0 1 73 0 0 1 74 0 0 1 75 0 0 1 76 0 0 1 77 0 0
1 78 0 0 1 79 0 0 1 7a 0 0 1 61 0 0 1 62 0 0 1 63 0 0 1 64 0 0 1 65 0 0 1 66 0 0 1 67 0 0 1 68 0
0 1 69 0 0 1 6a 0 0 1 6b 0 0 1 6c 0 0 1 6d 0 0 1 6e 0 0 1 6f 0 0 1 70 0 0 1 71 0 0 1 72 0 0 1 73
0 0 1 74 0 0 1 75 0 0 1 76 0 0 1 77 0 0 1 78 0 0 1 79 0 0 1 7a 0 0 1 61 0 0 1 62 0 0 1 63 0 0 1
64 0 0 1 65 0 0 1 66 0 0 1 67 0 0 1 68 0 0 1 69 0 0 1 6a 0 0 1 6b 0 0 1 6c 0 0 1 6d 0 0 1 6e 0 0
1 6f 0 0 1 70 0 0 1 71 0 0 1 72 0 0 1 73 0 0 1 74 0 0 1 75 0 0 1 76 0 0 1 77 0 0 1 78 0 0 1 79 0
0 1 7a 0 0 1 61 0 0 1 62 0 0 1 63 0 0 1 64 0 0 1 65 0 0 1 66 0 0 1 67 0 0 1 68 0 0 1 69 0 0 1 6a
0 0 1 6b 0 0 1 6c 0 0 1 6d 0 0 1 6e 0 0 1 6f 0 0 1 70 0 0 1 71 0 0 1 72 0 0 1 73 0 0 1 74 0 0 1
75 0 0 1 76 0 0 1 77 0 0 1 78 0 0 1 79 0 0 1 7a 0 0 1 61 0 0 1 62 0 0 1 63 0 0 1 64 0 0 1 65 0 0
1 66 0 0 1 67 0 0 1 68 0 0 1 69 0 0 1 6a 0 0 1 6b 0 0 1 6c 0 0 1 6d 0 0 1 6e 0 0 1 6f 0 0 1 70 0
0 1 71 0 0 1 72 0 0 1 73 0 0 1 74 0 0 1 75 0 0 1 76 0 0 1 77 0 0 1 78 0 0 1 79 0 0 1 7a 0 0 1 61
0 0 1 62 0 0 1 63 0 0 1 64 0 0 1 65 0 0 1 66 0 0 1 67 0 0 1 68 0 0 1 69 0 0 1 6a 0 0 1 6b 0 0 1
6c 0 0 1 6d 0 0 1 6e 0 0 1 6f 0 0 1 70 0 0 1 71 0 0 1 72 0 0 1 73 0 0 1 74 0 0 1 75 0 0 1 76 0 0
1 77 0 0 1 78 0 0 1 79 0 0 1 7a 0 0 1 61 0 0 1 62 0 0 1 63 0 0 1 64 0 0 1 65 0 0 1 66 0 0 1 67 0
0 1 68 0 0 1 69 0 0 1 6a 0 0 1 6b 0 0 1 6c 0 0 1 6d 0 0 1 6e 0 0 1 6f 0 0 1 70 0 0 1 71 0 0 1 72
0 0 1 73 0 0 1 74 0 0 1 75 0 0 1 76 0 0 1 77 0 0 1 78 0 0 1 79 0 0 1 7a 0 0 1 131 0 0 1 237 2 0
1 3b1 0 0 1 3b2 0 0 1 3b3 0 0 1 3b4 0 0 1 3b5 0 0 1 3b6 0 0 1 3b7 0 0 1 3b8 0 0 1 3b9 0 0 1 3ba
0 0 1 3bb 0 0 1 3bc 0 0 1 3bd 0 0 1 3be 0 0 1 3bf 0 0 1 3c0 0 0 1 3c1 0 0 1 3b8 0 0 1 3c3 0 0 1
3c4 0 0 1 3c5 0 0 1 3c6 0 0 1 3c7 0 0 1 3c8 0 0 1 3c9 0 0 1 2207 0 0 1 3b1 0 0 1 3b2 0 0 1 3b3 0
0 1 3b4 0 0 1 3b5 0 0 1 3b6 0 0 1 3b7 0 0 1 3b8 0 0 1 3b9 0 0 1 3ba 0 0 1 3bb 0 0 1 3bc 0 0 1
3bd 0 0 1 3be 0 0 1 3bf 0 0 1 3c0 0 0 1 3c1 0 1 1 3c3 0 0 1 3c4 0 0 1 3c5 0 0 1 3c6 0 0 1 3c7 0
0 1 3c8 0 0 1 3c9 0 0 1 2202 0 0 1 3b5 0 0 1 3b8 0 0 1 3ba 0 0 1 3c6 0 0 1 3c1 0 0 1 3c0 0 0 1
3b1 0 0 1 3b2 0 0 1 3b3 0 0 1 3b4 0 0 1 3b5 0 0 1 3b6 0 0 1 3b7 0 0 1 3b8 0 0 1 3b9 0 0 1 3ba 0
0 1 3bb 0 0 1 3bc 0 0 1 3bd 0 0 1 3be 0 0 1 3bf 0 0 1 3c0 0 0 1 3c1 0 0 1 3b8 0 0 1 3c3 0 0 1
3c4 0 0 1 3c5 0 0 1 3c6 0 0 1 3c7 0 0 1 3c8 0 0 1 3c9 0 0 1 2207 0 0 1 3b1 0 0 1 3b2 0 0 1 3b3 0
0 1 3b4 0 0 1 3b5 0 0 1 3b6 0 0 1 3b7 0 0 1 3b8 0 0 1 3b9 0 0 1 3ba 0 0 1 3bb 0 0 1 3bc 0 0 1
3bd 0 0 1 3be 0 0 1 3bf 0 0 1 3c0 0 0 1 3c1 0 1 1 3c3 0 0 1 3c4 0 0 1 3c5 0 0 1 3c6 0 0 1 3c7 0
0 1 3c8 0 0 1 3c9 0 0 1 2202 0 0 1 3b5 0 0 1 3b8 0 0 1 3ba 0 0 1 3c6 0 0 1 3c1 0 0 1 3c0 0 0 1
3b1 0 0 1 3b2 0 0 1 3b3 0 0 1 3b4 0 0 1 3b5 0 0 1 3b6 0 0 1 3b7 0 0 1 3b8 0 0 1 3b9 0 0 1 3ba 0
0 1 3bb 0 0 1 3bc 0 0 1 3bd 0 0 1 3be 0 0 1 3bf 0 0 1 3c0 0 0 1 3c1 0 0 1 3b8 0 0 1 3c3 0 0 1
3c4 0 0 1 3c5 0 0 1 3c6 0 0 1 3c7 0 0 1 3c8 0 0 1 3c9 0 0 1 2207 0 0 1 3b1 0 0 1 3b2 0 0 1 3b3 0
0 1 3b4 0 0 1 3b5 0 0 1 3b6 0 0 1 3b7 0 0 1 3b8 0 0 1 3b9 0 0 1 3ba 0 0 1 3bb 0 0 1 3bc 0 0 1
3bd 0 0 1 3be 0 0 1 3bf 0 0 1 3c0 0 0 1 3c1 0 1 1 3c3 0 0 1 3c4 0 0 1 3c5 0 0 1 3c6 0 0 1 3c7 0
0 1 3c8 0 0 1 3c9 0 0 1 2202 0 0 1 3b5 0 0 1 3b8 0 0 1 3ba 0 0 1 3c6 0 0 1 3c1 0 0 1 3c0 0 0 1
3b1 0 0 1 3b2 0 0 1 3b3 0 0 1 3b4 0 0 1 3b5 0 0 1 3b6 0 0 1 3b7 0 0 1 3b8 0 0 1 3b9 0 0 1 3ba 0
0 1 3bb 0 0 1 3bc 0 0 1 3bd 0 0 1 3be 0 0 1 3bf 0 0 1 3c0 0 0 1 3c1 0 0 1 3b8 0 0 1 3c3 0 0 1
3c4 0 0 1 3c5 0 0 1 3c6 0 0 1 3c7 0 0 1 3c8 0 0 1 3c9 0 0 1 2207 0 0 1 3b1 0 0 1 3b2 0 0 1 3b3 0
0 1 3b4 0 0 1 3b5 0 0 1 3b6 0 0 1 3b7 0 0 1 3b8 0 0 1 3b9 0 0 1 3ba 0 0 1 3bb 0 0 1 3bc 0 0 1
3bd 0 0 1 3be 0 0 1 3bf 0 0 1 3c0 0 0 1 3c1 0 1 1 3c3 0 0 1 3c4 0 0 1 3c5 0 0 1 3c6 0 0 1 3c7 0
0 1 3c8 0 0 1 3c9 0 0 1 2202 0 0 1 3b5 0 0 1 3b8 0 0 1 3ba 0 0 1 3c6 0 0 1 3c1 0 0 1 3c0 0 0 1
3b1 0 0 1 3b2 0 0 1 3b3 0 0 1 3b4 0 0 1 3b5 0 0 1 3b6 0 0 1 3b7 0 0 1 3b8 0 0 1 3b9 0 0 1 3ba 0
0 1 3bb 0 0 1 3bc 0 0 1 3bd 0 0 1 3be 0 0 1 3bf 0 0 1 3c0 0 0 1 3c1 0 0 1 3b8 0 0 1 3c3 0 0 1
3c4 0 0 1 3c5 0 0 1 3c6 0 0 1 3c7 0 0 1 3c8 0 0 1 3c9 0 0 1 2207 0 0 1 3b1 0 0 1 3b2 0 0 1 3b3 0
0 1 3b4 0 0 1 3b5 0 0 1 3b6 0 0 1 3b7 0 0 1 3b8 0 0 1 3b9 0 0 1 3ba 0 0 1 3bb 0 0 1 3bc 0 0 1
3bd 0 0 1 3be 0 0 1 3bf 0 0 1 3c0 0 0 1 3c1 0 1 1 3c3 0 0 1 3c4 0 0 1 3c5 0 0 1 3c6 0 0 1 3c7 0
0 1 3c8 0 0 1 3c9 0 0 1 2202 0 0 1 3b5 0 0 1 3b8 0 0 1 3ba 0 0 1 3c6 0 0 1 3c1 0 0 1 3c0 0 1 1
3dd 2 0 1 30 0 0 1 31 0 0 1 32 0 0 1 33 0 0 1 34 0 0 1 35 0 0 1 36 0 0 1 37 0 0 1 38 0 0 1 39 0
0 1 30 0 0 1 31 0 0 1 32 0 0 1 33 0 0 1 34 0 0 1 35 0 0 1 36 0 0 1 37 0 0 1 38 0 0 1 39 0 0 1 30
0 0 1 31 0 0 1 32 0 0 1 33 0 0 1 34 0 0 1 35 0 0 1 36 0 0 1 37 0 0 1 38 0 0 1 39 0 0 1 30 0 0 1
31 0 0 1 32 0 0 1 33 0 0 1 34 0 0 1 35 0 0 1 36 0 0 1 37 0 0 1 38 0 0 1 39 0 0 1 30 0 0 1 31 0 0
1 32 0 0 1 33 0 0 1 34 0 0 1 35 0 0 1 36 0 0 1 37 0 0 1 38 0 0 1 39 830 0 1 430 0 0 1 431 0 0 1
432 0 0 1 433 0 0 1 434 0 0 1 435 0 0 1 436 0 0 1 437 0 0 1 438 0 0 1 43a 0 0 1 43b 0 0 1 43c 0
0 1 43e 0 0 1 43f 0 0 1 440 0 0 1 441 0 0 1 442 0 0 1 443 0 0 1 444 0 0 1 445 0 0 1 446 0 0 1
447 0 0 1 448 0 0 1 44b 0 0 1 44d 0 0 1 44e 0 0 1 a689 0 0 1 4d9 0 0 1 456 0 0 1 458 0 0 1 4e9 0
0 1 4af 0 0 1 4cf 0 0 1 430 0 0 1 431 0 0 1 432 0 0 1 433 0 0 1 434 0 0 1 435 0 0 1 436 0 0 1
437 0 0 1 438 0 0 1 43a 0 0 1 43b 0 0 1 43e 0 0 1 43f 0 0 1 441 0 0 1 443 0 0 1 444 0 0 1 445 0
0 1 446 0 0 1 447 0 0 1 448 0 0 1 44a 0 0 1 44b 0 0 1 491 0 0 1 456 0 0 1 455 0 0 1 45f 0 0 1
4ab 0 0 1 a651 0 0 1 4b1 892 0 1 1e922 0 0 1 1e923 0 0 1 1e924 0 0 1 1e925 0 0 1 1e926 0 0 1
1e927 0 0 1 1e928 0 0 1 1e929 0 0 1 1e92a 0 0 1 1e92b 0 0 1 1e92c 0 0 1 1e92d 0 0 1 1e92e 0 0 1
1e92f 0 0 1 1e930 0 0 1 1e931 0 0 1 1e932 0 0 1 1e933 0 0 1 1e934 0 0 1 1e935 0 0 1 1e936 0 0 1
1e937 0 0 1 1e938 0 0 1 1e939 0 0 1 1e93a 0 0 1 1e93b 0 0 1 1e93c 0 0 1 1e93d 0 0 1 1e93e 0 0 1
1e93f 0 0 1 1e940 0 0 1 1e941 0 0 1 1e942 0 0 1 1e943 4de 0 1 627 0 0 1 628 0 0 1 62c 0 0 1 62f
1 0 1 648 0 0 1 632 0 0 1 62d 0 0 1 637 0 0 1 64a 0 0 1 643 0 0 1 644 0 0 1 645 0 0 1 646 0 0 1
633 0 0 1 639 0 0 1 641 0 0 1 635 0 0 1 642 0 0 1 631 0 0 1 634 0 0 1 62a 0 0 1 62b 0 0 1 62e 0
0 1 630 0 0 1 636 0 0 1 638 0 0 1 63a 0 0 1 66e 0 0 1 6ba 0 0 1 6a1 0 0 1 66f 1 0 1 628 0 0 1
62c 1 0 1 647 2 0 1 62d 1 0 1 64a 0 0 1 643 0 0 1 644 0 0 1 645 0 0 1 646 0 0 1 633 0 0 1 639 0
0 1 641 0 0 1 635 0 0 1 642 1 0 1 634 0 0 1 62a 0 0 1 62b 0 0 1 62e 1 0 1 636 1 0 1 63a 6 0 1
62c 4 0 1 62d 1 0 1 64a 1 0 1 644 1 0 1 646 0 0 1 633 0 0 1 639 1 0 1 635 0 0 1 642 1 0 1 634 2
0 1 62e 1 0 1 636 1 0 1 63a 1 0 1 6ba 1 0 1 66f 1 0 1 628 0 0 1 62c 1 0 1 647 2 0 1 62d 0 0 1
637 0 0 1 64a 0 0 1 643 1 0 1 645 0 0 1 646 0 0 1 633 0 0 1 639 0 0 1 641 0 0 1 635 0 0 1 642 1
0 1 634 0 0 1 62a 0 0 1 62b 0 0 1 62e 1 0 1 636 0 0 1 638 0 0 1 63a 0 0 1 66e 1 0 1 6a1 1 0 1
627 0 0 1 628 0 0 1 62c 0 0 1 62f 0 0 1 647 0 0 1 648 0 0 1 632 0 0 1 62d 0 0 1 637 0 0 1 64a 1
0 1 644 0 0 1 645 0 0 1 646 0 0 1 633 0 0 1 639 0 0 1 641 0 0 1 635 0 0 1 642 0 0 1 631 0 0 1
634 0 0 1 62a 0 0 1 62b 0 0 1 62e 0 0 1 630 0 0 1 636 0 0 1 638 0 0 1 63a 5 0 1 628 0 0 1 62c 0
0 1 62f 1 0 1 648 0 0 1 632 0 0 1 62d 0 0 1 637 0 0 1 64a 1 0 1 644 0 0 1 645 0 0 1 646 0 0 1
633 0 0 1 639 0 0 1 641 0 0 1 635 0 0 1 642 0 0 1 631 0 0 1 634 0 0 1 62a 0 0 1 62b 0 0 1 62e 0
0 1 630 0 0 1 636 0 0 1 638 0 0 1 63a 245 0 2 30 2c 0 0 2 31 2c 0 0 2 32 2c 0 0 2 33 2c 0 0 2 34
2c 0 0 2 35 2c 0 0 2 36 2c 0 0 2 37 2c 0 0 2 38 2c 0 0 2 39 2c 5 0 3 28 61 29 0 0 3 28 62 29 0 0
3 28 63 29 0 0 3 28 64 29 0 0 3 28 65 29 0 0 3 28 66 29 0 0 3 28 67 29 0 0 3 28 68 29 0 0 3 28
69 29 0 0 3 28 6a 29 0 0 3 28 6b 29 0 0 3 28 6c 29 0 0 3 28 6d 29 0 0 3 28 6e 29 0 0 3 28 6f 29
0 0 3 28 70 29 0 0 3 28 71 29 0 0 3 28 72 29 0 0 3 28 73 29 0 0 3 28 74 29 0 0 3 28 75 29 0 0 3
28 76 29 0 0 3 28 77 29 0 0 3 28 78 29 0 0 3 28 79 29 0 0 3 28 7a 29 0 0 3 3014 73 3015 0 0 1 63
0 0 1 72 0 0 2 63 64 0 0 2 77 7a 1 0 1 61 0 0 1 62 0 0 1 63 0 0 1 64 0 0 1 65 0 0 1 66 0 0 1 67
0 0 1 68 0 0 1 69 0 0 1 6a 0 0 1 6b 0 0 1 6c 0 0 1 6d 0 0 1 6e 0 0 1 6f 0 0 1 70 0 0 1 71 0 0 1
72 0 0 1 73 0 0 1 74 0 0 1 75 0 0 1 76 0 0 1 77 0 0 1 78 0 0 1 79 0 0 1 7a 0 0 2 68 76 0 0 2 6d
76 0 0 2 73 64 0 0 2 73 73 0 0 3 70 70 76 0 0 2 77 63 1a 0 2 6d 63 0 0 2 6d 64 0 0 2 6d 72 23 0
2 64 6a 6f 0 2 307b 304b 0 0 2 30b3 30b3 0 0 1 30b5 d 0 1 624b 0 0 1 5b57 0 0 1 53cc 0 0 1 30c7
0 0 1 4e8c 0 0 1 591a 0 0 1 89e3 0 0 1 5929 0 0 1 4ea4 0 0 1 6620 0 0 1 7121 0 0 1 6599 0 0 1
524d 0 0 1 5f8c 0 0 1 518d 0 0 1 65b0 0 0 1 521d 0 0 1 7d42 0 0 1 751f 0 0 1 8ca9 0 0 1 58f0 0 0
1 5439 0 0 1 6f14 0 0 1 6295 0 0 1 6355 0 0 1 4e00 0 0 1 4e09 0 0 1 904a 0 0 1 5de6 0 0 1 4e2d 0
0 1 53f3 0 0 1 6307 0 0 1 8d70 0 0 1 6253 0 0 1 7981 0 0 1 7a7a 0 0 1 5408 0 0 1 6e80 0 0 1 6709
0 0 1 6708 0 0 1 7533 0 0 1 5272 0 0 1 55b6 0 0 1 914d 4 0 3 3014 672c 3015 0 0 3 3014 4e09 3015
0 0 3 3014 4e8c 3015 0 0 3 3014 5b89 3015 0 0 3 3014 70b9 3015 0 0 3 3014 6253 3015 0 0 3 3014
76d7 3015 0 0 3 3014 52dd 3015 0 0 3 3014 6557 3015 7 0 1 5f97 0 0 1 53ef 99e 0 1 30 0 0 1 31 0
0 1 32 0 0 1 33 0 0 1 34 0 0 1 35 0 0 1 36 0 0 1 37 0 0 1 38 0 0 1 39 fc06 0 1 4e3d 0 0 1 4e38 0
0 1 4e41 0 0 1 20122 0 0 1 4f60 0 0 1 4fae 0 0 1 4fbb 0 0 1 5002 0 0 1 507a 0 0 1 5099 0 0 1
50e7 0 0 1 50cf 0 0 1 349e 0 0 1 2063a 0 0 1 514d 0 0 1 5154 0 0 1 5164 0 0 1 5177 0 0 1 2051c 0
0 1 34b9 0 0 1 5167 0 0 1 518d 0 0 1 2054b 0 0 1 5197 0 0 1 51a4 0 0 1 4ecc 0 0 1 51ac 0 0 1
51b5 0 0 1 291df 0 0 1 51f5 0 0 1 5203 0 0 1 34df 0 0 1 523b 0 0 1 5246 0 0 1 5272 0 0 1 5277 0
0 1 3515 0 0 1 52c7 0 0 1 52c9 0 0 1 52e4 0 0 1 52fa 0 0 1 5305 0 0 1 5306 0 0 1 5317 0 0 1 5349
0 0 1 5351 0 0 1 535a 0 0 1 5373 0 0 1 537d 0 2 1 537f 0 0 1 20a2c 0 0 1 7070 0 0 1 53ca 0 0 1
53df 0 0 1 20b63 0 0 1 53eb 0 0 1 53f1 0 0 1 5406 0 0 1 549e 0 0 1 5438 0 0 1 5448 0 0 1 5468 0
0 1 54a2 0 0 1 54f6 0 0 1 5510 0 0 1 5553 0 0 1 5563 0 1 1 5584 0 0 1 5599 0 0 1 55ab 0 0 1 55b3
0 0 1 55c2 0 0 1 5716 0 0 1 5606 0 0 1 5717 0 0 1 5651 0 0 1 5674 0 0 1 5207 0 0 1 58ee 0 0 1
57ce 0 0 1 57f4 0 0 1 580d 0 0 1 578b 0 0 1 5832 0 0 1 5831 0 0 1 58ac 0 0 1 214e4 0 0 1 58f2 0
0 1 58f7 0 0 1 5906 0 0 1 591a 0 0 1 5922 0 0 1 5962 0 0 1 216a8 0 0 1 216ea 0 0 1 59ec 0 0 1
5a1b 0 0 1 5a27 0 0 1 59d8 0 0 1 5a66 0 0 1 36ee 0 0 1 36fc 0 0 1 5b08 0 1 1 5b3e 0 0 1 219c8 0
0 1 5bc3 0 0 1 5bd8 0 0 1 5be7 0 0 1 5bf3 0 0 1 21b18 0 0 1 5bff 0 0 1 5c06 0 0 1 5f53 0 0 1
5c22 0 0 1 3781 0 0 1 5c60 0 0 1 5c6e 0 0 1 5cc0 0 0 1 5c8d 0 0 1 21de4 0 0 1 5d43 0 0 1 21de6 0
0 1 5d6e 0 0 1 5d6b 0 0 1 5d7c 0 0 1 5de1 0 0 1 5de2 0 0 1 382f 0 0 1 5dfd 0 0 1 5e28 0 0 1 5e3d
0 0 1 5e69 0 0 1 3862 0 0 1 22183 0 0 1 387c 0 0 1 5eb0 0 0 1 5eb3 0 0 1 5eb6 0 0 1 5eca 0 0 1
2a392 0 0 1 5efe 0 1 1 22331 0 0 1 8201 0 1 1 5f22 0 0 1 38c7 0 0 1 232b8 0 0 1 261da 0 0 1 5f62
0 0 1 5f6b 0 0 1 38e3 0 0 1 5f9a 0 0 1 5fcd 0 0 1 5fd7 0 0 1 5ff9 0 0 1 6081 0 0 1 393a 0 0 1
391c 0 0 1 6094 0 0 1 226d4 0 0 1 60c7 0 0 1 6148 0 0 1 614c 0 0 1 614e 0 0 1 614c 0 0 1 617a 0
0 1 618e 0 0 1 61b2 0 0 1 61a4 0 0 1 61af 0 0 1 61de 0 0 1 61f2 0 0 1 61f6 0 0 1 6210 0 0 1 621b
0 0 1 625d 0 0 1 62b1 0 0 1 62d4 0 0 1 6350 0 0 1 22b0c 0 0 1 633d 0 0 1 62fc 0 0 1 6368 0 0 1
6383 0 0 1 63e4 0 0 1 22bf1 0 0 1 6422 0 0 1 63c5 0 0 1 63a9 0 0 1 3a2e 0 0 1 6469 0 0 1 647e 0
0 1 649d 0 0 1 6477 0 0 1 3a6c 0 0 1 654f 0 0 1 656c 0 0 1 2300a 0 0 1 65e3 0 0 1 66f8 0 0 1
6649 0 0 1 3b19 0 0 1 6691 0 0 1 3b08 0 0 1 3ae4 0 0 1 5192 0 0 1 5195 0 0 1 6700 0 0 1 669c 0 0
1 80ad 0 0 1 43d9 0 0 1 6717 0 0 1 671b 0 0 1 6721 0 0 1 675e 0 0 1 6753 0 0 1 233c3 0 0 1 3b49
0 0 1 67fa 0 0 1 6785 0 0 1 6852 0 0 1 6885 0 0 1 2346d 0 0 1 688e 0 0 1 681f 0 0 1 6914 0 0 1
3b9d 0 0 1 6942 0 0 1 69a3 0 0 1 69ea 0 0 1 6aa8 0 0 1 236a3 0 0 1 6adb 0 0 1 3c18 0 0 1 6b21 0
0 1 238a7 0 0 1 6b54 0 0 1 3c4e 0 0 1 6b72 0 0 1 6b9f 0 0 1 6bba 0 0 1 6bbb 0 0 1 23a8d 0 0 1
21d0b 0 0 1 23afa 0 0 1 6c4e 0 0 1 23cbc 0 0 1 6cbf 0 0 1 6ccd 0 0 1 6c67 0 0 1 6d16 0 0 1 6d3e
0 0 1 6d77 0 0 1 6d41 0 0 1 6d69 0 0 1 6d78 0 0 1 6d85 0 0 1 23d1e 0 0 1 6d34 0 0 1 6e2f 0 0 1
6e6e 0 0 1 3d33 0 0 1 6ecb 0 0 1 6ec7 0 0 1 23ed1 0 0 1 6df9 0 0 1 6f6e 0 0 1 23f5e 0 0 1 23f8e
0 0 1 6fc6 0 0 1 7039 0 0 1 701e 0 0 1 701b 0 0 1 3d96 0 0 1 704a 0 0 1 707d 0 0 1 7077 0 0 1
70ad 0 0 1 20525 0 0 1 7145 0 0 1 24263 0 0 1 719c 0 0 1 243ab 0 0 1 7228 0 0 1 7235 0 0 1 7250
0 0 1 24608 0 0 1 7280 0 0 1 7295 0 0 1 24735 0 0 1 24814 0 0 1 737a 0 0 1 738b 0 0 1 3eac 0 0 1
73a5 0 1 1 3eb8 0 0 1 7447 0 0 1 745c 0 0 1 7471 0 0 1 7485 0 0 1 74ca 0 0 1 3f1b 0 0 1 7524 0 0
1 24c36 0 0 1 753e 0 0 1 24c92 0 0 1 7570 0 0 1 2219f 0 0 1 7610 0 0 1 24fa1 0 0 1 24fb8 0 0 1
25044 0 0 1 3ffc 0 0 1 4008 0 0 1 76f4 0 0 1 250f3 0 0 1 250f2 0 0 1 25119 0 0 1 25133 0 0 1
771e 0 1 1 771f 0 0 1 774a 0 0 1 4039 0 0 1 778b 0 0 1 4046 0 0 1 4096 0 0 1 2541d 0 0 1 784e 0
0 1 788c 0 0 1 78cc 0 0 1 40e3 0 0 1 25626 0 0 1 7956 0 0 1 2569a 0 0 1 256c5 0 0 1 798f 0 0 1
79eb 0 0 1 412f 0 0 1 7a40 0 0 1 7a4a 0 0 1 7a4f 0 0 1 2597c 0 1 1 25aa7 0 0 1 7aee 0 0 1 4202 0
0 1 25bab 0 0 1 7bc6 0 0 1 7bc9 0 0 1 4227 0 0 1 25c80 0 0 1 7cd2 0 0 1 42a0 0 0 1 7ce8 0 0 1
7ce3 0 0 1 7d00 0 0 1 25f86 0 0 1 7d63 0 0 1 4301 0 0 1 7dc7 0 0 1 7e02 0 0 1 7e45 0 0 1 4334 0
0 1 26228 0 0 1 26247 0 0 1 4359 0 0 1 262d9 0 0 1 7f7a 0 0 1 2633e 0 0 1 7f95 0 0 1 7ffa 0 0 1
8005 0 0 1 264da 0 0 1 26523 0 0 1 8060 0 0 1 265a8 0 0 1 8070 0 0 1 2335f 0 0 1 43d5 0 0 1 80b2
0 0 1 8103 0 0 1 440b 0 0 1 813e 0 0 1 5ab5 0 0 1 267a7 0 0 1 267b5 0 0 1 23393 0 0 1 2339c 0 0
1 8201 0 0 1 8204 0 0 1 8f9e 0 0 1 446b 0 0 1 8291 0 0 1 828b 0 0 1 829d 0 0 1 52b3 0 0 1 82b1 0
0 1 82b3 0 0 1 82bd 0 0 1 82e6 0 0 1 26b3c 0 0 1 82e5 0 0 1 831d 0 0 1 8363 0 0 1 83ad 0 0 1
8323 0 0 1 83bd 0 0 1 83e7 0 0 1 8457 0 0 1 8353 0 0 1 83ca 0 0 1 83cc 0 0 1 83dc 0 0 1 26c36 0
0 1 26d6b 0 0 1 26cd5 0 0 1 452b 0 0 1 84f1 0 0 1 84f3 0 0 1 8516 0 0 1 273ca 0 0 1 8564 0 0 1
26f2c 0 0 1 455d 0 0 1 4561 0 0 1 26fb1 0 0 1 270d2 0 0 1 456b 0 0 1 8650 0 0 1 865c 0 0 1 8667
0 0 1 8669 0 0 1 86a9 0 0 1 8688 0 0 1 870e 0 0 1 86e2 0 0 1 8779 0 0 1 8728 0 0 1 876b 0 0 1
8786 0 0 1 45d7 0 0 1 87e1 0 0 1 8801 0 0 1 45f9 0 0 1 8860 0 0 1 8863 0 0 1 27667 0 0 1 88d7 0
0 1 88de 0 0 1 4635 0 0 1 88fa 0 0 1 34bb 0 0 1 278ae 0 0 1 27966 0 0 1 46be 0 0 1 46c7 0 0 1
8aa0 0 0 1 8aed 0 0 1 8b8a 0 0 1 8c55 0 0 1 27ca8 0 0 1 8cab 0 0 1 8cc1 0 0 1 8d1b 0 0 1 8d77 0
0 1 27f2f 0 0 1 20804 0 0 1 8dcb 0 0 1 8dbc 0 0 1 8df0 0 0 1 208de 0 0 1 8ed4 0 0 1 8f38 0 0 1
285d2 0 0 1 285ed 0 0 1 9094 0 0 1 90f1 0 0 1 9111 0 0 1 2872e 0 0 1 911b 0 0 1 9238 0 0 1 92d7
0 0 1 92d8 0 0 1 927c 0 0 1 93f9 0 0 1 9415 0 0 1 28bfa 0 0 1 958b 0 0 1 4995 0 0 1 95b7 0 0 1
28d77 0 0 1 49e6 0 0 1 96c3 0 0 1 5db2 0 0 1 9723 0 0 1 29145 0 0 1 2921a 0 0 1 4a6e 0 0 1 4a76
0 0 1 97e0 0 0 1 2940a 0 0 1 4ab2 0 0 1 29496 0 1 1 980b 0 0 1 9829 0 0 1 295b6 0 0 1 98e2 0 0 1
4b33 0 0 1 9929 0 0 1 99a7 0 0 1 99c2 0 0 1 99fe 0 0 1 4bce 0 0 1 29b30 0 0 1 9b12 0 0 1 9c40 0
0 1 9cfd 0 0 1 4cce 0 0 1 4ced 0 0 1 9d67 0 0 1 2a0ce 0 0 1 4cf8 0 0 1 2a105 0 0 1 2a20e 0 0 1
2a291 0 0 1 9ebb 0 0 1 4d56 0 0 1 9ef9 0 0 1 9efe 0 0 1 9f05 0 0 1 9f0f 0 0 1 9f16 0 0 1 9f3b 0
0 1 2a600"

end DeepLink.Idn.Table
