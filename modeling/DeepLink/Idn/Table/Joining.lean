/-! # Marks and joining behaviour

Joining types of Unicode 17: 1 dual-joining, 2 left-joining, 3 right-joining, 4 transparent; other
characters do not join. -/

namespace DeepLink.Idn.Table

/-- Combining marks: gap, further members. -/
def markRuns : String := "
300 6f 113 6 107 2c 1 0 1 1 1 1 1 0 48 a 30 14 10 0 65 6 2 5 2 1 1 3 23 0 1e 1a 5b a 3a 8 9 0 18
3 1 8 1 2 1 4 2b 2 3b 8 2a 17 1 20 36 2 1 11 1 6 a 1 1d 2 38 0 1 6 2 1 2 2 9 0 a 1 1a 0 2 2 38 0
1 4 4 1 2 2 3 0 1e 1 3 0 b 2 38 0 1 7 1 2 1 2 14 1 16 5 1 2 38 0 1 6 2 1 2 2 7 2 a 1 1e 0 3b 4 3
2 1 3 9 0 28 4 37 0 1 6 1 2 1 3 7 1 b 1 1d 2 38 0 1 6 1 2 1 3 7 1 b 1 f 0 c 3 37 1 1 6 1 2 1 3 9
0 a 1 1d 2 46 0 4 5 1 0 1 7 12 1 3d 0 2 6 c 7 62 0 2 8 b 6 49 1 1b 0 1 0 1 0 4 1 31 13 1 1 5 a 1
23 9 0 64 13 17 3 4 2 1 2 2 6 3 3 d b 1 0 a 3 2bf 2 3b2 3 1c 2 1d 1 1e 1 40 1f 9 0 2d 2 1 0 75 1
22 0 76 b 4 b db 4 39 9 1 1c 2 0 30 2d 2 b 14 4 2f 10 26 8 c 2 1e c 38 d 30 13 98 2 1 14 4 0 6 0
2 2 c6 3f 2d0 20 bfe 2 8d 0 60 1f 22a 5 69 1 75d4 3 1 9 20 1 50 1 110 0 3 0 4 0 17 4 4 0 53 1 32
11 1a 11 d 0 26 7 19 c 2c 3 2f d 24 0 43 d c 0 8 1 2d 2 32 0 1 2 2 1 5 1 1 0 29 4 5 1 ec 7 1 1
4f30 0 2e1 f 10 f 3cd 0 e2 0 95 4 686 2 1 1 5 3 28 2 4 0 a5 1 23d 3 41 4 13d 1 4d 5 46 a 31 3 7a
2 35 e 29 0 2 1 a 3 2d a 7 0 3d 2 24 d 10 1 2c 0 c 2 30 d 8 3 1 1 5c b 6 0 2 0 9d b 15 3 37 1 1
6 2 1 2 2 9 0 a 1 2 6 3 4 43 8 1 0 2 0 1 3 1 4 1 0 e 1 52 11 17 0 51 13 eb 6 2 8 1b 1 52 10 6a c
65 e 100 e f5 5 1 1 2 3 1 0 1 1 8d 6 2 6 3 0 1c 9 28 6 1 3 8 0 9 a 2e f c6 7 c7 7 1 7 52 15 1 d
7a 5 3 0 1 1 1 6 1 0 42 4 1 1 1 4 15b 3 9 1 1 0 30 6 3 4 17 0 14e5 0 6 e 2cc8 11 9c0 4 3b 6 418
0 1 36 7 3 51 0 b 1 4cab 1 1261 2d 2 16 21e 4 3 5 8 7 2 6 1e 3 94 2 7bb 36 4 31 8 0 e 0 16 4 1 e
550 6 1 10 2 6 1 1 1 4 64 0 a0 6 177 0 3d 3 1fc 3 fe 1 f3 0 2 0 7 1 5 0 1da 6 6d 6 c17b5 ef"

/-- Joining types: gap, further members, type. -/
def joiningRuns : String := "
ad 0 4 252 6f 4 113 6 4 107 2c 4 1 0 4 1 1 4 1 1 4 1 0 4 48 a 4 1 0 4 3 0 1 1 3 3 0 0 1 0 0 3 0
0 1 0 0 3 0 4 1 0 3 3 0 c 1 1 6 1 0 0 3 0 1 1 0 14 4 e 1 1 0 0 4 0 2 3 1 2 3 0 f 1 0 11 3 0 25 1
0 0 3 0 1 1 0 8 3 0 0 1 0 0 3 0 0 1 0 0 3 0 1 1 0 1 3 1 0 3 0 6 4 2 5 4 2 1 4 1 3 4 0 1 3 a 2 1
2 0 1 f 0 4 0 0 3 0 0 4 0 2 1 0 4 3 0 3 1 0 0 3 0 8 1 0 0 3 0 0 1 0 0 3 0 0 1 0 0 3 0 1 1 0 0 3
0 1a 4 2 0 3 0 a 1 0 2 3 0 e 1 0 1 3 0 3 1 0 0 3 0 0 1 0 1 3 0 2 1 0 1 3 0 5 1 26 a 4 19 20 1 0
8 4 9 0 4 18 3 4 1 8 4 1 2 4 1 4 4 12 0 3 0 4 1 0 1 3 0 0 1 0 0 3 0 9 1 0 0 3 0 0 1 0 2 3 0 2 4
4 0 1 1 3 1 1 0 3 0 0 1 0 1 3 5 12 3 3 0 1 2 4 1 0 0 3 0 0 1 7 8 4 0 9 1 0 2 3 1 0 3 0 1 1 0 1 3
0 5 1 0 0 3 0 e 1 1 17 4 1 1f 4 37 0 4 1 0 4 4 7 4 4 0 4 3 6 4 a 1 4 1d 0 4 3a 0 4 4 3 4 8 0 4
14 1 4 1a 0 4 2 1 4 39 0 4 4 1 4 4 1 4 2 2 4 3 0 4 1e 1 4 3 0 4 b 1 4 39 0 4 4 4 4 1 1 4 4 0 4
14 1 4 16 5 4 1 0 4 3a 0 4 2 0 4 1 3 4 8 0 4 7 1 4 b 1 4 1e 0 4 3d 0 4 c 0 4 32 0 4 3 0 4 37 0 4
1 2 4 5 2 4 1 3 4 7 1 4 b 1 4 1d 0 4 3a 0 4 2 0 4 6 0 4 5 1 4 14 1 4 1c 1 4 39 1 4 4 3 4 8 0 4
14 1 4 1d 0 4 48 0 4 7 2 4 1 0 4 5a 0 4 2 6 4 c 7 4 62 0 4 2 8 4 b 6 4 49 1 4 1b 0 4 1 0 4 1 0 4
37 d 4 1 4 4 1 1 4 5 a 4 1 23 4 9 0 4 66 3 4 1 5 4 1 1 4 2 1 4 19 1 4 4 2 4 10 3 4 d 0 4 2 1 4 6
0 4 f 0 4 2bf 2 4 3b2 2 4 1d 1 4 1e 1 4 1e 1 4 40 1 4 1 6 4 8 0 4 2 a 4 9 0 4 29 0 1 3 2 4 1 0 4
10 58 1 c 1 4 0 21 1 0 0 4 0 0 1 75 2 4 4 1 4 9 0 4 6 2 4 db 1 4 2 0 4 3a 0 4 1 6 4 1 0 4 1 0 4
2 7 4 6 9 4 2 0 4 30 2d 4 2 b 4 14 3 4 30 0 4 1 4 4 1 0 4 5 0 4 28 8 4 c 1 4 20 3 4 2 1 4 1 2 4
38 0 4 1 1 4 3 0 4 1 2 4 3a 7 4 2 1 4 98 2 4 1 c 4 1 6 4 4 0 4 6 0 4 3 1 4 c6 3f 4 20b 0 4 2 1 4
1a 4 4 31 4 4 5 5 4 60 20 4 bfe 2 4 8d 0 4 60 1f 4 22a 3 4 6b 1 4 75d4 3 4 1 9 4 20 1 4 50 1 4
110 0 4 3 0 4 4 0 4 19 1 4 5 0 4 13 31 1 0 0 2 51 1 4 1a 11 4 d 0 4 26 7 4 19 a 4 2e 2 4 30 0 4
2 3 4 2 1 4 27 0 4 43 5 4 2 1 4 2 1 4 c 0 4 8 0 4 2f 0 4 33 0 4 1 2 4 2 1 4 5 1 4 1 0 4 2a 1 4 8
0 4 ee 0 4 2 0 4 4 0 4 4f30 0 4 2e1 f 4 10 f 4 cf 0 4 f9 2 4 201 0 4 e2 0 4 95 4 4 686 2 4 1 1 4
5 3 4 28 2 4 4 0 4 80 4 1 0 0 3 1 0 3 1 1 3 2 0 2 0 4 3 0 3 1 0 0 2 0 4 1 0 0 3 0 2 1 0 0 3 2 0
3 0 1 4 4 3 1 0 0 3 90 0 1 0 0 3 0 0 1 0 2 3 0 2 1 0 0 3 0 1 1 0 0 3 0 0 1 0 1 3 0 0 1 0 0 3 17
3 3 0 1 1 151 0 2 0 20 1 0 0 3 0 0 1 0 3 4 41 4 4 13d 1 4 15 0 3 0 1 1 1 1 1 32 5 4 30 2 1 0 0 3
0 10 1 1 a 4 0 2 1 0 0 3 1b 3 1 0 1 3 0 b 1 0 3 4 2a 0 1 1 1 1 0 2 3 1 0 1 0 1 3 0 1 1 0 0 3 0 1
1 1 0 1 0 1 3 0 0 1 4 0 3 0 0 1 0 0 2 35 0 4 36 e 4 29 0 4 2 1 4 a 2 4 31 3 4 2 1 4 7 0 4 3d 2 4
24 4 4 1 7 4 3e 0 4 c 1 4 34 8 4 a 3 4 2 0 4 5f 2 4 2 0 4 1 1 4 6 0 4 2 0 4 9d 0 4 3 7 4 15 1 4
39 1 4 3 0 4 25 6 4 3 4 4 46 5 4 d 0 4 1 0 4 1 0 4 e 1 4 55 7 4 2 2 4 1 0 4 17 0 4 54 5 4 1 0 4
4 1 4 1 1 4 ee 3 4 6 1 4 1 1 4 1b 1 4 55 7 4 2 0 4 1 1 4 6a 0 4 1 0 4 2 5 4 1 0 4 65 0 4 1 0 4 2
3 4 1 4 4 103 8 4 1 1 4 100 1 4 1 0 4 4 0 4 90 3 4 2 1 4 4 0 4 20 9 4 28 5 4 2 3 4 8 0 4 9 5 4 2
2 4 2e c 4 1 1 4 c6 0 4 1 2 4 1 0 4 c9 6 4 1 5 4 1 0 4 52 15 4 2 6 4 1 1 4 1 1 4 7a 5 4 3 0 4 1
1 4 1 6 4 1 0 4 48 1 4 3 0 4 1 0 4 15b 1 4 b 1 4 34 4 4 5 0 4 1 0 4 17 0 4 14d5 10 4 6 e 4 2cc8
b 4 3 2 4 9c0 4 4 3b 6 4 418 0 4 3f 3 4 51 0 4 4cb8 1 4 1 3 4 125c 2d 4 2 16 4 220 2 4 9 f 4 2 6
4 1e 3 4 94 2 4 7bb 36 4 4 31 4 8 0 4 e 0 4 16 4 4 1 e 4 550 6 4 1 10 4 2 6 4 1 1 4 1 4 4 64 0 4
a0 6 4 177 0 4 3d 3 4 1fc 3 4 fe 1 4 f3 0 4 2 0 4 7 1 4 5 0 4 1da 6 4 29 43 1 0 7 4 c16b5 0 4 1e
5f 4 80 ef 4"

end DeepLink.Idn.Table
