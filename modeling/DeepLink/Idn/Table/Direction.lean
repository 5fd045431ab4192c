/-! # Directions of characters

Bidirectional classes: 1 right-to-left, 2 Arabic letter, 3 Arabic number, 4 European number,
5 European separator, 6 common separator, 7 European terminator, 8 other neutral, 9 boundary
neutral, 10 nonspacing mark, 11 any other. A character that no run names is left-to-right. -/

namespace DeepLink.Idn.Table

/-- Classes: gap, further members, class. -/
def directionRuns : String := "
0 8 9 0 4 b 0 d 9 0 4 b 0 1 8 0 2 7 0 4 8 0 0 5 0 0 6 0 0 5 0 1 6 0 9 4 0 0 6 0 5 8 1a 5 8 1a 3
8 0 5 9 0 0 b 0 19 9 0 0 6 0 0 8 0 3 7 0 3 8 1 1 8 0 0 9 0 1 8 0 1 7 0 1 4 0 0 8 1 2 8 0 0 4 1 4
8 17 0 8 1f 0 8 1c1 1 8 7 d 8 2 d 8 5 8 8 1 10 8 0 6f a 4 1 8 8 0 8 5 1 8 1 0 8 6e 0 8 8c 6 a
100 0 8 2 1 8 0 0 7 0 0 1 0 2c a 0 0 1 0 0 a 0 0 1 0 1 a 0 0 1 0 1 a 0 0 1 0 0 a 0 37 1 0 5 3 0
1 8 0 0 2 0 1 7 0 0 2 0 0 6 0 0 2 0 1 8 0 a a 0 2f 2 0 14 a 0 9 3 0 0 7 0 1 3 0 2 2 0 0 a 0 64 2
0 6 a 0 0 3 0 0 8 0 5 a 0 1 2 0 1 a 0 0 8 0 3 a 0 1 2 0 9 4 0 16 2 0 0 a 0 1d 2 0 1a a 0 5a 2 0
a a 0 e 2 0 2a 1 0 8 a 0 1 1 0 3 8 0 2 1 0 0 a 0 17 1 0 3 a 0 0 1 0 8 a 0 0 1 0 2 a 0 0 1 0 4 a
0 2a 1 0 2 a 0 3 1 0 2f 2 0 1 3 0 4 2 0 8 a 0 29 2 0 17 a 0 0 3 0 1f a 37 0 a 1 0 a 4 7 a 4 0 a
3 6 a a 1 a 1d 0 a 3a 0 a 4 3 a 8 0 a 14 1 a e 1 7 7 0 7 2 0 a 2 1 a 39 0 a 4 1 a 4 1 a 2 2 a 3
0 a 1e 1 a 3 0 a b 1 a 39 0 a 4 4 a 1 1 a 4 0 a 14 1 a d 0 7 8 5 a 1 0 a 3a 0 a 2 0 a 1 3 a 8 0
a 7 1 a b 1 a 1e 0 a 3d 0 a c 0 a 25 5 8 0 0 7 0 0 8 5 0 a 3 0 a 37 0 a 1 2 a 5 2 a 1 3 a 7 1 a
b 1 a 14 6 8 2 0 a 3a 0 a f 1 a 14 1 a 1c 1 a 39 1 a 4 3 a 8 0 a 14 1 a 1d 0 a 48 0 a 7 2 a 1 0
a 5a 0 a 2 6 a 4 0 7 7 7 a 62 0 a 2 8 a b 6 a 49 1 a 1b 0 a 1 0 a 1 0 a 0 3 8 33 d a 1 4 a 1 1 a
5 a a 1 23 a 9 0 a 66 3 a 1 5 a 1 1 a 2 1 a 19 1 a 4 2 a 10 3 a d 0 a 2 1 a 6 0 a f 0 a 2bf 2 a
30 9 8 66 0 8 27f 0 b 1a 1 8 75 2 a 1d 1 a 1e 1 a 1e 1 a 40 1 a 1 6 a 8 0 a 2 a a 7 0 7 1 0 a 12
9 8 6 a 8 0 2 a 0 0 9 0 0 a 75 1 a 22 0 a 76 2 a 4 1 a 9 0 a 6 2 a 4 0 8 3 1 8 98 21 8 17 1 a 2
0 a 3a 0 a 1 6 a 1 0 a 1 0 a 2 7 a 6 9 a 2 0 a 30 2d a 2 b a 14 3 a 30 0 a 1 4 a 1 0 a 5 0 a 28
8 a c 1 a 20 3 a 2 1 a 1 2 a 38 0 a 1 1 a 3 0 a 1 2 a 3a 7 a 2 1 a 98 2 a 1 c a 1 6 a 4 0 a 6 0
a 3 1 a c6 3f a 1bd 0 8 1 2 8 b 2 8 d 2 8 d 2 8 d 1 8 1 a b 0 2 9 1 0 1 0 17 8 0 6 b 0 0 6 0 4 7
0 e 8 0 0 6 0 19 8 0 0 b 0 5 9 0 3 b 0 5 9 0 0 4 3 5 4 0 1 5 0 2 8 1 9 4 0 1 5 0 2 8 11 2f 7 0
20 a f 1 8 1 3 8 1 1 8 a 0 8 1 2 8 5 5 8 1 0 8 1 0 8 1 0 8 4 0 7 b 1 8 4 4 8 5 3 8 2 f 8 29 2 8
4 81 8 0 0 5 0 0 7 0 121 8 45 19 8 1 93 8 16 a 8 15 27 8 0 13 4 4e 1c1 8 1 152 8 100 273 8 2 89
8 e5 5 8 4 2 a 7 6 8 7f 0 a 60 1f a 0 5d 8 22 19 8 1 58 8 c d5 8 1a f 8 0 0 b 0 3 8 3 18 8 9 3 a
2 0 8 5 1 8 5 2 8 59 1 a 0 1 8 3 0 8 5a 0 8 c4 25 8 9 0 8 2d 1 8 31 f 8 1c 2 8 32 e 8 c 3 8 a7 3
8 63 1 8 1f 0 8 19c0 3f 8 5690 36 8 146 2 8 5f 3 a 0 0 8 0 9 a 0 1 8 1e 1 a 50 1 a e 21 8 66 0 8
79 0 a 3 0 a 4 0 a 19 1 a 1 3 8 0 0 a b 1 7 3a 3 8 4c 1 a 1a 11 a d 0 a 26 7 a 19 a a 2e 2 a 30
0 a 2 3 a 2 1 a 27 0 a 43 5 a 2 1 a 2 1 a c 0 a 8 0 a 2f 0 a 33 0 a 1 2 a 2 1 a 5 1 a 1 0 a 2a 1
a 8 0 a 73 1 8 79 0 a 2 0 a 4 0 a 4f2f 0 1 0 0 a 0 9 1 0 0 5 0 25 1 0 72 2 0 f 8 0 16a 2 0 11 8
0 3f 2 0 1 8 0 35 2 0 7 8 0 1f 9 0 c 2 0 2 8 0 f a 0 9 8 6 f a 0 1f 8 0 0 6 0 0 8 0 0 6 1 0 8 0
0 6 0 8 8 0 0 7 0 1 8 0 1 5 0 2 8 1 0 8 0 1 7 0 0 8 4 8e 2 0 0 9 1 1 8 0 2 7 0 4 8 0 0 5 0 0 6 0
0 5 0 1 6 0 9 4 0 0 6 0 5 8 1a 5 8 1a a 8 7a 1 7 0 2 8 0 1 7 1 6 8 1 8 9 0 4 8 0 1 9 101 0 8 3e
4c 8 3 c 8 3 0 8 5c 0 a e2 0 a 0 1a 4 7a 4 a 485 11e 1 0 0 8 0 e0 1 0 2 a 0 0 1 0 1 a 0 4 1 0 3
a 0 27 1 0 2 a 0 3 1 0 0 a 0 a4 1 0 1 a 0 51 1 0 6 8 0 1bf 1 0 23 2 0 3 a 0 7 2 0 9 3 0 5 2 0 28
1 0 4 a 0 0 8 0 f0 1 0 1e 3 0 2b 1 0 1 a 0 12 1 0 f 2 0 8 8 0 20 2 0 5 a 0 2f 1 0 15 2 0 a a 0
1e 2 0 11 1 0 3 a 0 79 1 1 0 a 36 e a b 13 8 a 0 a 2 1 a a 2 a 31 3 a 2 1 a 7 0 a 3d 2 a 24 4 a
1 7 a 3e 0 a c 1 a 34 8 a a 3 a 2 0 a 5f 2 a 2 0 a 1 1 a 6 0 a 2 0 a 9d 0 a 3 7 a 15 1 a 39 1 a
3 0 a 25 6 a 3 4 a 46 5 a d 0 a 1 0 a 1 0 a e 1 a 55 7 a 2 2 a 1 0 a 17 0 a 54 5 a 1 0 a 4 1 a 1
1 a ee 3 a 6 1 a 1 1 a 1b 1 a 55 7 a 2 0 a 1 1 a 1f c 8 3e 0 a 1 0 a 2 5 a 1 0 a 65 2 a 2 3 a 1
4 a 103 8 a 1 1 a 100 1 a 1 0 a 4 0 a 90 3 a 2 1 a 4 0 a 20 5 a 2 1 a 28 5 a 2 3 a 8 0 a 9 5 a 2
2 a 2e c a 1 1 a c6 0 a 1 2 a 1 0 a c9 6 a 1 5 a 54 15 a 2 6 a 1 1 a 1 1 a 7a 5 a 3 0 a 1 1 a 1
6 a 1 0 a 48 1 a 3 0 a 1 0 a 15b 1 a b 1 a 34 4 a 5 0 a 1 0 a 17 0 a 7a 7 8 0 3 7 0 10 8 144e 0
a 6 e a 2cc8 b a 3 2 a 9c0 4 a 3b 6 a 418 0 a 3f 3 a 4f 0 8 1 0 a 4cb8 1 a 1 3 9 f5c ef 8 0 9 4
0 2 8 3 1b3 8 6 16 8 f 10 8 f 2d a 2 16 a 220 2 a 9 7 9 0 7 a 2 6 a 1e 3 a 3b 1 8 15 41 8 0 2 a
0 0 8 ba 56 8 384 0 8 39 0 8 39 0 8 39 0 8 39 0 8 a 31 4 200 36 a 4 31 a 8 0 a e 0 a 16 4 a 1 e
a 550 6 a 1 10 a 2 6 a 1 1 a 1 4 a 64 0 a a0 6 a 177 0 a 3d 3 a f 0 7 1ec 3 a fe 1 a f3 0 a 2 0
a 7 1 a 5 0 a 10a cf 1 0 6 a 0 6c 1 0 6 a 0 324 1 0 4f 2 0 3f 1 0 4f 2 0 af 1 0 ef 2 0 1 8 0 d 2
0 ff 1 0 2b 8 4 63 8 c e 8 2 e 8 1 e 8 1 24 8 a a 4 0 4 8 1f 0 8 3a 5 8 3d 0 8 b2 5 8 9a 3d8 8 3
10 8 3 c 8 3 d9 8 6 b 8 4 0 8 f b 8 4 37 8 8 9 8 6 27 8 8 1d 8 2 b 8 4 1 8 e 8 8 27 157 8 8 d 8
2 c 8 3 a 8 3 38 8 1 0 8 4 f 8 2 b 8 4 9 8 7 92 8 1 5b 8 0 9 4 0 0 8 403 1 9 fffe 1 9 fffe 1 9
fffe 1 9 fffe 1 9 fffe 1 9 fffe 1 9 fffe 1 9 fffe 1 9 fffe 1 9 fffe 1 9 fffe 1 9 fffe 101 9 0 ef
a 0 e0f 9 effe 1 9 fffe 1 9 fffe 1 9"

end DeepLink.Idn.Table
