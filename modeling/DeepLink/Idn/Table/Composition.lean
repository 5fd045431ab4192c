/-! # Canonical decomposition, composition and order

The canonical mappings of Unicode 17, Hangul syllables apart, which follow a formula. Numbers are
hexadecimal. -/

namespace DeepLink.Idn.Table

/-- Full decompositions: step since the last character, length, the parts. -/
def decompositionRows : String := "
c0 2 41 300 1 2 41 301 1 2 41 302 1 2 41 303 1 2 41 308 1 2 41 30a 2 2 43 327 1 2 45 300 1 2 45
301 1 2 45 302 1 2 45 308 1 2 49 300 1 2 49 301 1 2 49 302 1 2 49 308 2 2 4e 303 1 2 4f 300 1 2
4f 301 1 2 4f 302 1 2 4f 303 1 2 4f 308 3 2 55 300 1 2 55 301 1 2 55 302 1 2 55 308 1 2 59 301 3
2 61 300 1 2 61 301 1 2 61 302 1 2 61 303 1 2 61 308 1 2 61 30a 2 2 63 327 1 2 65 300 1 2 65 301
1 2 65 302 1 2 65 308 1 2 69 300 1 2 69 301 1 2 69 302 1 2 69 308 2 2 6e 303 1 2 6f 300 1 2 6f
301 1 2 6f 302 1 2 6f 303 1 2 6f 308 3 2 75 300 1 2 75 301 1 2 75 302 1 2 75 308 1 2 79 301 2 2
79 308 1 2 41 304 1 2 61 304 1 2 41 306 1 2 61 306 1 2 41 328 1 2 61 328 1 2 43 301 1 2 63 301 1
2 43 302 1 2 63 302 1 2 43 307 1 2 63 307 1 2 43 30c 1 2 63 30c 1 2 44 30c 1 2 64 30c 3 2 45 304
1 2 65 304 1 2 45 306 1 2 65 306 1 2 45 307 1 2 65 307 1 2 45 328 1 2 65 328 1 2 45 30c 1 2 65
30c 1 2 47 302 1 2 67 302 1 2 47 306 1 2 67 306 1 2 47 307 1 2 67 307 1 2 47 327 1 2 67 327 1 2
48 302 1 2 68 302 3 2 49 303 1 2 69 303 1 2 49 304 1 2 69 304 1 2 49 306 1 2 69 306 1 2 49 328 1
2 69 328 1 2 49 307 4 2 4a 302 1 2 6a 302 1 2 4b 327 1 2 6b 327 2 2 4c 301 1 2 6c 301 1 2 4c 327
1 2 6c 327 1 2 4c 30c 1 2 6c 30c 5 2 4e 301 1 2 6e 301 1 2 4e 327 1 2 6e 327 1 2 4e 30c 1 2 6e
30c 4 2 4f 304 1 2 6f 304 1 2 4f 306 1 2 6f 306 1 2 4f 30b 1 2 6f 30b 3 2 52 301 1 2 72 301 1 2
52 327 1 2 72 327 1 2 52 30c 1 2 72 30c 1 2 53 301 1 2 73 301 1 2 53 302 1 2 73 302 1 2 53 327 1
2 73 327 1 2 53 30c 1 2 73 30c 1 2 54 327 1 2 74 327 1 2 54 30c 1 2 74 30c 3 2 55 303 1 2 75 303
1 2 55 304 1 2 75 304 1 2 55 306 1 2 75 306 1 2 55 30a 1 2 75 30a 1 2 55 30b 1 2 75 30b 1 2 55
328 1 2 75 328 1 2 57 302 1 2 77 302 1 2 59 302 1 2 79 302 1 2 59 308 1 2 5a 301 1 2 7a 301 1 2
5a 307 1 2 7a 307 1 2 5a 30c 1 2 7a 30c 22 2 4f 31b 1 2 6f 31b e 2 55 31b 1 2 75 31b 1d 2 41 30c
1 2 61 30c 1 2 49 30c 1 2 69 30c 1 2 4f 30c 1 2 6f 30c 1 2 55 30c 1 2 75 30c 1 3 55 308 304 1 3
75 308 304 1 3 55 308 301 1 3 75 308 301 1 3 55 308 30c 1 3 75 308 30c 1 3 55 308 300 1 3 75 308
300 2 3 41 308 304 1 3 61 308 304 1 3 41 307 304 1 3 61 307 304 1 2 c6 304 1 2 e6 304 3 2 47 30c
1 2 67 30c 1 2 4b 30c 1 2 6b 30c 1 2 4f 328 1 2 6f 328 1 3 4f 328 304 1 3 6f 328 304 1 2 1b7 30c
1 2 292 30c 1 2 6a 30c 4 2 47 301 1 2 67 301 3 2 4e 300 1 2 6e 300 1 3 41 30a 301 1 3 61 30a 301
1 2 c6 301 1 2 e6 301 1 2 d8 301 1 2 f8 301 1 2 41 30f 1 2 61 30f 1 2 41 311 1 2 61 311 1 2 45
30f 1 2 65 30f 1 2 45 311 1 2 65 311 1 2 49 30f 1 2 69 30f 1 2 49 311 1 2 69 311 1 2 4f 30f 1 2
6f 30f 1 2 4f 311 1 2 6f 311 1 2 52 30f 1 2 72 30f 1 2 52 311 1 2 72 311 1 2 55 30f 1 2 75 30f 1
2 55 311 1 2 75 311 1 2 53 326 1 2 73 326 1 2 54 326 1 2 74 326 3 2 48 30c 1 2 68 30c 7 2 41 307
1 2 61 307 1 2 45 327 1 2 65 327 1 3 4f 308 304 1 3 6f 308 304 1 3 4f 303 304 1 3 6f 303 304 1 2
4f 307 1 2 6f 307 1 3 4f 307 304 1 3 6f 307 304 1 2 59 304 1 2 79 304 10d 1 300 1 1 301 2 1 313
1 2 308 301 30 1 2b9 a 1 3b 7 2 a8 301 1 2 391 301 1 1 b7 1 2 395 301 1 2 397 301 1 2 399 301 2
2 39f 301 2 2 3a5 301 1 2 3a9 301 1 3 3b9 308 301 1a 2 399 308 1 2 3a5 308 1 2 3b1 301 1 2 3b5
301 1 2 3b7 301 1 2 3b9 301 1 3 3c5 308 301 1a 2 3b9 308 1 2 3c5 308 1 2 3bf 301 1 2 3c5 301 1 2
3c9 301 5 2 3d2 301 1 2 3d2 308 2c 2 415 300 1 2 415 308 2 2 413 301 4 2 406 308 5 2 41a 301 1 2
418 300 1 2 423 306 b 2 418 306 20 2 438 306 17 2 435 300 1 2 435 308 2 2 433 301 4 2 456 308 5
2 43a 301 1 2 438 300 1 2 443 306 18 2 474 30f 1 2 475 30f 4a 2 416 306 1 2 436 306 e 2 410 306
1 2 430 306 1 2 410 308 1 2 430 308 3 2 415 306 1 2 435 306 3 2 4d8 308 1 2 4d9 308 1 2 416 308
1 2 436 308 1 2 417 308 1 2 437 308 3 2 418 304 1 2 438 304 1 2 418 308 1 2 438 308 1 2 41e 308
1 2 43e 308 3 2 4e8 308 1 2 4e9 308 1 2 42d 308 1 2 44d 308 1 2 423 304 1 2 443 304 1 2 423 308
1 2 443 308 1 2 423 30b 1 2 443 30b 1 2 427 308 1 2 447 308 3 2 42b 308 1 2 44b 308 129 2 627
653 1 2 627 654 1 2 648 654 1 2 627 655 1 2 64a 654 9a 2 6d5 654 2 2 6c1 654 11 2 6d2 654 256 2
928 93c 8 2 930 93c 3 2 933 93c 24 2 915 93c 1 2 916 93c 1 2 917 93c 1 2 91c 93c 1 2 921 93c 1 2
922 93c 1 2 92b 93c 1 2 92f 93c 6c 2 9c7 9be 1 2 9c7 9d7 10 2 9a1 9bc 1 2 9a2 9bc 2 2 9af 9bc 54
2 a32 a3c 3 2 a38 a3c 23 2 a16 a3c 1 2 a17 a3c 1 2 a1c a3c 3 2 a2b a3c ea 2 b47 b56 3 2 b47 b3e
1 2 b47 b57 10 2 b21 b3c 1 2 b22 b3c 37 2 b92 bd7 36 2 bc6 bbe 1 2 bc7 bbe 1 2 bc6 bd7 7c 2 c46
c56 78 2 cbf cd5 7 2 cc6 cd5 1 2 cc6 cd6 2 2 cc6 cc2 1 3 cc6 cc2 cd5 7f 2 d46 d3e 1 2 d47 d3e 1
2 d46 d57 8e 2 dd9 dca 2 2 dd9 dcf 1 3 dd9 dcf dca 1 2 dd9 ddf 165 2 f42 fb7 a 2 f4c fb7 5 2 f51
fb7 5 2 f56 fb7 5 2 f5b fb7 d 2 f40 fb5 a 2 f71 f72 2 2 f71 f74 1 2 fb2 f80 2 2 fb3 f80 9 2 f71
f80 12 2 f92 fb7 a 2 f9c fb7 5 2 fa1 fb7 5 2 fa6 fb7 5 2 fab fb7 d 2 f90 fb5 6d 2 1025 102e ae0
2 1b05 1b35 2 2 1b07 1b35 2 2 1b09 1b35 2 2 1b0b 1b35 2 2 1b0d 1b35 4 2 1b11 1b35 29 2 1b3a 1b35
2 2 1b3c 1b35 3 2 1b3e 1b35 1 2 1b3f 1b35 2 2 1b42 1b35 2bd 2 41 325 1 2 61 325 1 2 42 307 1 2
62 307 1 2 42 323 1 2 62 323 1 2 42 331 1 2 62 331 1 3 43 327 301 1 3 63 327 301 1 2 44 307 1 2
64 307 1 2 44 323 1 2 64 323 1 2 44 331 1 2 64 331 1 2 44 327 1 2 64 327 1 2 44 32d 1 2 64 32d 1
3 45 304 300 1 3 65 304 300 1 3 45 304 301 1 3 65 304 301 1 2 45 32d 1 2 65 32d 1 2 45 330 1 2
65 330 1 3 45 327 306 1 3 65 327 306 1 2 46 307 1 2 66 307 1 2 47 304 1 2 67 304 1 2 48 307 1 2
68 307 1 2 48 323 1 2 68 323 1 2 48 308 1 2 68 308 1 2 48 327 1 2 68 327 1 2 48 32e 1 2 68 32e 1
2 49 330 1 2 69 330 1 3 49 308 301 1 3 69 308 301 1 2 4b 301 1 2 6b 301 1 2 4b 323 1 2 6b 323 1
2 4b 331 1 2 6b 331 1 2 4c 323 1 2 6c 323 1 3 4c 323 304 1 3 6c 323 304 1 2 4c 331 1 2 6c 331 1
2 4c 32d 1 2 6c 32d 1 2 4d 301 1 2 6d 301 1 2 4d 307 1 2 6d 307 1 2 4d 323 1 2 6d 323 1 2 4e 307
1 2 6e 307 1 2 4e 323 1 2 6e 323 1 2 4e 331 1 2 6e 331 1 2 4e 32d 1 2 6e 32d 1 3 4f 303 301 1 3
6f 303 301 1 3 4f 303 308 1 3 6f 303 308 1 3 4f 304 300 1 3 6f 304 300 1 3 4f 304 301 1 3 6f 304
301 1 2 50 301 1 2 70 301 1 2 50 307 1 2 70 307 1 2 52 307 1 2 72 307 1 2 52 323 1 2 72 323 1 3
52 323 304 1 3 72 323 304 1 2 52 331 1 2 72 331 1 2 53 307 1 2 73 307 1 2 53 323 1 2 73 323 1 3
53 301 307 1 3 73 301 307 1 3 53 30c 307 1 3 73 30c 307 1 3 53 323 307 1 3 73 323 307 1 2 54 307
1 2 74 307 1 2 54 323 1 2 74 323 1 2 54 331 1 2 74 331 1 2 54 32d 1 2 74 32d 1 2 55 324 1 2 75
324 1 2 55 330 1 2 75 330 1 2 55 32d 1 2 75 32d 1 3 55 303 301 1 3 75 303 301 1 3 55 304 308 1 3
75 304 308 1 2 56 303 1 2 76 303 1 2 56 323 1 2 76 323 1 2 57 300 1 2 77 300 1 2 57 301 1 2 77
301 1 2 57 308 1 2 77 308 1 2 57 307 1 2 77 307 1 2 57 323 1 2 77 323 1 2 58 307 1 2 78 307 1 2
58 308 1 2 78 308 1 2 59 307 1 2 79 307 1 2 5a 302 1 2 7a 302 1 2 5a 323 1 2 7a 323 1 2 5a 331 1
2 7a 331 1 2 68 331 1 2 74 308 1 2 77 30a 1 2 79 30a 2 2 17f 307 5 2 41 323 1 2 61 323 1 2 41
309 1 2 61 309 1 3 41 302 301 1 3 61 302 301 1 3 41 302 300 1 3 61 302 300 1 3 41 302 309 1 3 61
302 309 1 3 41 302 303 1 3 61 302 303 1 3 41 323 302 1 3 61 323 302 1 3 41 306 301 1 3 61 306
301 1 3 41 306 300 1 3 61 306 300 1 3 41 306 309 1 3 61 306 309 1 3 41 306 303 1 3 61 306 303 1
3 41 323 306 1 3 61 323 306 1 2 45 323 1 2 65 323 1 2 45 309 1 2 65 309 1 2 45 303 1 2 65 303 1
3 45 302 301 1 3 65 302 301 1 3 45 302 300 1 3 65 302 300 1 3 45 302 309 1 3 65 302 309 1 3 45
302 303 1 3 65 302 303 1 3 45 323 302 1 3 65 323 302 1 2 49 309 1 2 69 309 1 2 49 323 1 2 69 323
1 2 4f 323 1 2 6f 323 1 2 4f 309 1 2 6f 309 1 3 4f 302 301 1 3 6f 302 301 1 3 4f 302 300 1 3 6f
302 300 1 3 4f 302 309 1 3 6f 302 309 1 3 4f 302 303 1 3 6f 302 303 1 3 4f 323 302 1 3 6f 323
302 1 3 4f 31b 301 1 3 6f 31b 301 1 3 4f 31b 300 1 3 6f 31b 300 1 3 4f 31b 309 1 3 6f 31b 309 1
3 4f 31b 303 1 3 6f 31b 303 1 3 4f 31b 323 1 3 6f 31b 323 1 2 55 323 1 2 75 323 1 2 55 309 1 2
75 309 1 3 55 31b 301 1 3 75 31b 301 1 3 55 31b 300 1 3 75 31b 300 1 3 55 31b 309 1 3 75 31b 309
1 3 55 31b 303 1 3 75 31b 303 1 3 55 31b 323 1 3 75 31b 323 1 2 59 300 1 2 79 300 1 2 59 323 1 2
79 323 1 2 59 309 1 2 79 309 1 2 59 303 1 2 79 303 7 2 3b1 313 1 2 3b1 314 1 3 3b1 313 300 1 3
3b1 314 300 1 3 3b1 313 301 1 3 3b1 314 301 1 3 3b1 313 342 1 3 3b1 314 342 1 2 391 313 1 2 391
314 1 3 391 313 300 1 3 391 314 300 1 3 391 313 301 1 3 391 314 301 1 3 391 313 342 1 3 391 314
342 1 2 3b5 313 1 2 3b5 314 1 3 3b5 313 300 1 3 3b5 314 300 1 3 3b5 313 301 1 3 3b5 314 301 3 2
395 313 1 2 395 314 1 3 395 313 300 1 3 395 314 300 1 3 395 313 301 1 3 395 314 301 3 2 3b7 313
1 2 3b7 314 1 3 3b7 313 300 1 3 3b7 314 300 1 3 3b7 313 301 1 3 3b7 314 301 1 3 3b7 313 342 1 3
3b7 314 342 1 2 397 313 1 2 397 314 1 3 397 313 300 1 3 397 314 300 1 3 397 313 301 1 3 397 314
301 1 3 397 313 342 1 3 397 314 342 1 2 3b9 313 1 2 3b9 314 1 3 3b9 313 300 1 3 3b9 314 300 1 3
3b9 313 301 1 3 3b9 314 301 1 3 3b9 313 342 1 3 3b9 314 342 1 2 399 313 1 2 399 314 1 3 399 313
300 1 3 399 314 300 1 3 399 313 301 1 3 399 314 301 1 3 399 313 342 1 3 399 314 342 1 2 3bf 313
1 2 3bf 314 1 3 3bf 313 300 1 3 3bf 314 300 1 3 3bf 313 301 1 3 3bf 314 301 3 2 39f 313 1 2 39f
314 1 3 39f 313 300 1 3 39f 314 300 1 3 39f 313 301 1 3 39f 314 301 3 2 3c5 313 1 2 3c5 314 1 3
3c5 313 300 1 3 3c5 314 300 1 3 3c5 313 301 1 3 3c5 314 301 1 3 3c5 313 342 1 3 3c5 314 342 2 2
3a5 314 2 3 3a5 314 300 2 3 3a5 314 301 2 3 3a5 314 342 1 2 3c9 313 1 2 3c9 314 1 3 3c9 313 300
1 3 3c9 314 300 1 3 3c9 313 301 1 3 3c9 314 301 1 3 3c9 313 342 1 3 3c9 314 342 1 2 3a9 313 1 2
3a9 314 1 3 3a9 313 300 1 3 3a9 314 300 1 3 3a9 313 301 1 3 3a9 314 301 1 3 3a9 313 342 1 3 3a9
314 342 1 2 3b1 300 1 2 3b1 301 1 2 3b5 300 1 2 3b5 301 1 2 3b7 300 1 2 3b7 301 1 2 3b9 300 1 2
3b9 301 1 2 3bf 300 1 2 3bf 301 1 2 3c5 300 1 2 3c5 301 1 2 3c9 300 1 2 3c9 301 3 3 3b1 313 345
1 3 3b1 314 345 1 4 3b1 313 300 345 1 4 3b1 314 300 345 1 4 3b1 313 301 345 1 4 3b1 314 301 345
1 4 3b1 313 342 345 1 4 3b1 314 342 345 1 3 391 313 345 1 3 391 314 345 1 4 391 313 300 345 1 4
391 314 300 345 1 4 391 313 301 345 1 4 391 314 301 345 1 4 391 313 342 345 1 4 391 314 342 345
1 3 3b7 313 345 1 3 3b7 314 345 1 4 3b7 313 300 345 1 4 3b7 314 300 345 1 4 3b7 313 301 345 1 4
3b7 314 301 345 1 4 3b7 313 342 345 1 4 3b7 314 342 345 1 3 397 313 345 1 3 397 314 345 1 4 397
313 300 345 1 4 397 314 300 345 1 4 397 313 301 345 1 4 397 314 301 345 1 4 397 313 342 345 1 4
397 314 342 345 1 3 3c9 313 345 1 3 3c9 314 345 1 4 3c9 313 300 345 1 4 3c9 314 300 345 1 4 3c9
313 301 345 1 4 3c9 314 301 345 1 4 3c9 313 342 345 1 4 3c9 314 342 345 1 3 3a9 313 345 1 3 3a9
314 345 1 4 3a9 313 300 345 1 4 3a9 314 300 345 1 4 3a9 313 301 345 1 4 3a9 314 301 345 1 4 3a9
313 342 345 1 4 3a9 314 342 345 1 2 3b1 306 1 2 3b1 304 1 3 3b1 300 345 1 2 3b1 345 1 3 3b1 301
345 2 2 3b1 342 1 3 3b1 342 345 1 2 391 306 1 2 391 304 1 2 391 300 1 2 391 301 1 2 391 345 2 1
3b9 3 2 a8 342 1 3 3b7 300 345 1 2 3b7 345 1 3 3b7 301 345 2 2 3b7 342 1 3 3b7 342 345 1 2 395
300 1 2 395 301 1 2 397 300 1 2 397 301 1 2 397 345 1 2 1fbf 300 1 2 1fbf 301 1 2 1fbf 342 1 2
3b9 306 1 2 3b9 304 1 3 3b9 308 300 1 3 3b9 308 301 3 2 3b9 342 1 3 3b9 308 342 1 2 399 306 1 2
399 304 1 2 399 300 1 2 399 301 2 2 1ffe 300 1 2 1ffe 301 1 2 1ffe 342 1 2 3c5 306 1 2 3c5 304 1
3 3c5 308 300 1 3 3c5 308 301 1 2 3c1 313 1 2 3c1 314 1 2 3c5 342 1 3 3c5 308 342 1 2 3a5 306 1
2 3a5 304 1 2 3a5 300 1 2 3a5 301 1 2 3a1 314 1 2 a8 300 1 2 a8 301 1 1 60 3 3 3c9 300 345 1 2
3c9 345 1 3 3c9 301 345 2 2 3c9 342 1 3 3c9 342 345 1 2 39f 300 1 2 39f 301 1 2 3a9 300 1 2 3a9
301 1 2 3a9 345 1 1 b4 3 1 2002 1 1 2003 125 1 3a9 4 1 4b 1 2 41 30a 6f 2 2190 338 1 2 2192 338
13 2 2194 338 1f 2 21d0 338 1 2 21d4 338 1 2 21d2 338 35 2 2203 338 5 2 2208 338 3 2 220b 338 18
2 2223 338 2 2 2225 338 1b 2 223c 338 3 2 2243 338 3 2 2245 338 2 2 2248 338 17 2 3d 338 2 2
2261 338 b 2 224d 338 1 2 3c 338 1 2 3e 338 1 2 2264 338 1 2 2265 338 3 2 2272 338 1 2 2273 338
3 2 2276 338 1 2 2277 338 7 2 227a 338 1 2 227b 338 3 2 2282 338 1 2 2283 338 3 2 2286 338 1 2
2287 338 23 2 22a2 338 1 2 22a8 338 1 2 22a9 338 1 2 22ab 338 31 2 227c 338 1 2 227d 338 1 2
2291 338 1 2 2292 338 7 2 22b2 338 1 2 22b3 338 1 2 22b4 338 1 2 22b5 338 3c 1 3008 1 1 3009 7b2
2 2add 338 570 2 304b 3099 2 2 304d 3099 2 2 304f 3099 2 2 3051 3099 2 2 3053 3099 2 2 3055 3099
2 2 3057 3099 2 2 3059 3099 2 2 305b 3099 2 2 305d 3099 2 2 305f 3099 2 2 3061 3099 3 2 3064
3099 2 2 3066 3099 2 2 3068 3099 7 2 306f 3099 1 2 306f 309a 2 2 3072 3099 1 2 3072 309a 2 2
3075 3099 1 2 3075 309a 2 2 3078 3099 1 2 3078 309a 2 2 307b 3099 1 2 307b 309a 17 2 3046 3099 a
2 309d 3099 e 2 30ab 3099 2 2 30ad 3099 2 2 30af 3099 2 2 30b1 3099 2 2 30b3 3099 2 2 30b5 3099
2 2 30b7 3099 2 2 30b9 3099 2 2 30bb 3099 2 2 30bd 3099 2 2 30bf 3099 2 2 30c1 3099 3 2 30c4
3099 2 2 30c6 3099 2 2 30c8 3099 7 2 30cf 3099 1 2 30cf 309a 2 2 30d2 3099 1 2 30d2 309a 2 2
30d5 3099 1 2 30d5 309a 2 2 30d8 3099 1 2 30d8 309a 2 2 30db 3099 1 2 30db 309a 17 2 30a6 3099 3
2 30ef 3099 1 2 30f0 3099 1 2 30f1 3099 1 2 30f2 3099 4 2 30fd 3099 c802 1 8c48 1 1 66f4 1 1
8eca 1 1 8cc8 1 1 6ed1 1 1 4e32 1 1 53e5 1 1 9f9c 1 1 9f9c 1 1 5951 1 1 91d1 1 1 5587 1 1 5948 1
1 61f6 1 1 7669 1 1 7f85 1 1 863f 1 1 87ba 1 1 88f8 1 1 908f 1 1 6a02 1 1 6d1b 1 1 70d9 1 1 73de
1 1 843d 1 1 916a 1 1 99f1 1 1 4e82 1 1 5375 1 1 6b04 1 1 721b 1 1 862d 1 1 9e1e 1 1 5d50 1 1
6feb 1 1 85cd 1 1 8964 1 1 62c9 1 1 81d8 1 1 881f 1 1 5eca 1 1 6717 1 1 6d6a 1 1 72fc 1 1 90ce 1
1 4f86 1 1 51b7 1 1 52de 1 1 64c4 1 1 6ad3 1 1 7210 1 1 76e7 1 1 8001 1 1 8606 1 1 865c 1 1 8def
1 1 9732 1 1 9b6f 1 1 9dfa 1 1 788c 1 1 797f 1 1 7da0 1 1 83c9 1 1 9304 1 1 9e7f 1 1 8ad6 1 1
58df 1 1 5f04 1 1 7c60 1 1 807e 1 1 7262 1 1 78ca 1 1 8cc2 1 1 96f7 1 1 58d8 1 1 5c62 1 1 6a13 1
1 6dda 1 1 6f0f 1 1 7d2f 1 1 7e37 1 1 964b 1 1 52d2 1 1 808b 1 1 51dc 1 1 51cc 1 1 7a1c 1 1 7dbe
1 1 83f1 1 1 9675 1 1 8b80 1 1 62cf 1 1 6a02 1 1 8afe 1 1 4e39 1 1 5be7 1 1 6012 1 1 7387 1 1
7570 1 1 5317 1 1 78fb 1 1 4fbf 1 1 5fa9 1 1 4e0d 1 1 6ccc 1 1 6578 1 1 7d22 1 1 53c3 1 1 585e 1
1 7701 1 1 8449 1 1 8aaa 1 1 6bba 1 1 8fb0 1 1 6c88 1 1 62fe 1 1 82e5 1 1 63a0 1 1 7565 1 1 4eae
1 1 5169 1 1 51c9 1 1 6881 1 1 7ce7 1 1 826f 1 1 8ad2 1 1 91cf 1 1 52f5 1 1 5442 1 1 5973 1 1
5eec 1 1 65c5 1 1 6ffe 1 1 792a 1 1 95ad 1 1 9a6a 1 1 9e97 1 1 9ece 1 1 529b 1 1 66c6 1 1 6b77 1
1 8f62 1 1 5e74 1 1 6190 1 1 6200 1 1 649a 1 1 6f23 1 1 7149 1 1 7489 1 1 79ca 1 1 7df4 1 1 806f
1 1 8f26 1 1 84ee 1 1 9023 1 1 934a 1 1 5217 1 1 52a3 1 1 54bd 1 1 70c8 1 1 88c2 1 1 8aaa 1 1
5ec9 1 1 5ff5 1 1 637b 1 1 6bae 1 1 7c3e 1 1 7375 1 1 4ee4 1 1 56f9 1 1 5be7 1 1 5dba 1 1 601c 1
1 73b2 1 1 7469 1 1 7f9a 1 1 8046 1 1 9234 1 1 96f6 1 1 9748 1 1 9818 1 1 4f8b 1 1 79ae 1 1 91b4
1 1 96b8 1 1 60e1 1 1 4e86 1 1 50da 1 1 5bee 1 1 5c3f 1 1 6599 1 1 6a02 1 1 71ce 1 1 7642 1 1
84fc 1 1 907c 1 1 9f8d 1 1 6688 1 1 962e 1 1 5289 1 1 677b 1 1 67f3 1 1 6d41 1 1 6e9c 1 1 7409 1
1 7559 1 1 786b 1 1 7d10 1 1 985e 1 1 516d 1 1 622e 1 1 9678 1 1 502b 1 1 5d19 1 1 6dea 1 1 8f2a
1 1 5f8b 1 1 6144 1 1 6817 1 1 7387 1 1 9686 1 1 5229 1 1 540f 1 1 5c65 1 1 6613 1 1 674e 1 1
68a8 1 1 6ce5 1 1 7406 1 1 75e2 1 1 7f79 1 1 88cf 1 1 88e1 1 1 91cc 1 1 96e2 1 1 533f 1 1 6eba 1
1 541d 1 1 71d0 1 1 7498 1 1 85fa 1 1 96a3 1 1 9c57 1 1 9e9f 1 1 6797 1 1 6dcb 1 1 81e8 1 1 7acb
1 1 7b20 1 1 7c92 1 1 72c0 1 1 7099 1 1 8b58 1 1 4ec0 1 1 8336 1 1 523a 1 1 5207 1 1 5ea6 1 1
62d3 1 1 7cd6 1 1 5b85 1 1 6d1e 1 1 66b4 1 1 8f3b 1 1 884c 1 1 964d 1 1 898b 1 1 5ed3 1 1 5140 1
1 55c0 3 1 585a 2 1 6674 3 1 51de 1 1 732a 1 1 76ca 1 1 793c 1 1 795e 1 1 7965 1 1 798f 1 1 9756
1 1 7cbe 1 1 7fbd 2 1 8612 2 1 8af8 3 1 9038 1 1 90fd 4 1 98ef 1 1 98fc 1 1 9928 1 1 9db4 1 1
90de 1 1 96b7 1 1 4fae 1 1 50e7 1 1 514d 1 1 52c9 1 1 52e4 1 1 5351 1 1 559d 1 1 5606 1 1 5668 1
1 5840 1 1 58a8 1 1 5c64 1 1 5c6e 1 1 6094 1 1 6168 1 1 618e 1 1 61f2 1 1 654f 1 1 65e2 1 1 6691
1 1 6885 1 1 6d77 1 1 6e1a 1 1 6f22 1 1 716e 1 1 722b 1 1 7422 1 1 7891 1 1 793e 1 1 7949 1 1
7948 1 1 7950 1 1 7956 1 1 795d 1 1 798d 1 1 798e 1 1 7a40 1 1 7a81 1 1 7bc0 1 1 7df4 1 1 7e09 1
1 7e41 1 1 7f72 1 1 8005 1 1 81ed 1 1 8279 1 1 8279 1 1 8457 1 1 8910 1 1 8996 1 1 8b01 1 1 8b39
1 1 8cd3 1 1 8d08 1 1 8fb6 1 1 9038 1 1 96e3 1 1 97ff 1 1 983b 1 1 6075 1 1 242ee 1 1 8218 3 1
4e26 1 1 51b5 1 1 5168 1 1 4f80 1 1 5145 1 1 5180 1 1 52c7 1 1 52fa 1 1 559d 1 1 5555 1 1 5599 1
1 55e2 1 1 585a 1 1 58b3 1 1 5944 1 1 5954 1 1 5a62 1 1 5b28 1 1 5ed2 1 1 5ed9 1 1 5f69 1 1 5fad
1 1 60d8 1 1 614e 1 1 6108 1 1 618e 1 1 6160 1 1 61f2 1 1 6234 1 1 63c4 1 1 641c 1 1 6452 1 1
6556 1 1 6674 1 1 6717 1 1 671b 1 1 6756 1 1 6b79 1 1 6bba 1 1 6d41 1 1 6edb 1 1 6ecb 1 1 6f22 1
1 701e 1 1 716e 1 1 77a7 1 1 7235 1 1 72af 1 1 732a 1 1 7471 1 1 7506 1 1 753b 1 1 761d 1 1 761f
1 1 76ca 1 1 76db 1 1 76f4 1 1 774a 1 1 7740 1 1 78cc 1 1 7ab1 1 1 7bc0 1 1 7c7b 1 1 7d5b 1 1
7df4 1 1 7f3e 1 1 8005 1 1 8352 1 1 83ef 1 1 8779 1 1 8941 1 1 8986 1 1 8996 1 1 8abf 1 1 8af8 1
1 8acb 1 1 8b01 1 1 8afe 1 1 8aed 1 1 8b39 1 1 8b8a 1 1 8d08 1 1 8f38 1 1 9072 1 1 9199 1 1 9276
1 1 967c 1 1 96e3 1 1 9756 1 1 97db 1 1 97ff 1 1 980b 1 1 983b 1 1 9b12 1 1 9f9c 1 1 2284a 1 1
22844 1 1 233d5 1 1 3b9d 1 1 4018 1 1 4039 1 1 25249 1 1 25cd0 1 1 27ed3 1 1 9f43 1 1 9f8e 44 2
5d9 5b4 2 2 5f2 5b7 b 2 5e9 5c1 1 2 5e9 5c2 1 3 5e9 5bc 5c1 1 3 5e9 5bc 5c2 1 2 5d0 5b7 1 2 5d0
5b8 1 2 5d0 5bc 1 2 5d1 5bc 1 2 5d2 5bc 1 2 5d3 5bc 1 2 5d4 5bc 1 2 5d5 5bc 1 2 5d6 5bc 2 2 5d8
5bc 1 2 5d9 5bc 1 2 5da 5bc 1 2 5db 5bc 1 2 5dc 5bc 2 2 5de 5bc 2 2 5e0 5bc 1 2 5e1 5bc 2 2 5e3
5bc 1 2 5e4 5bc 2 2 5e6 5bc 1 2 5e7 5bc 1 2 5e8 5bc 1 2 5e9 5bc 1 2 5ea 5bc 1 2 5d5 5b9 1 2 5d1
5bf 1 2 5db 5bf 1 2 5e4 5bf a7b 2 105d2 307 1b 2 105da 307 ab6 2 11099 110ba 2 2 1109b 110ba f 2
110a5 110ba 83 2 11131 11127 1 2 11132 11127 21c 2 11347 1133e 1 2 11347 11357 37 2 11382 113c9
2 2 11384 113bb 9 2 1138b 113c2 3 2 11390 113c9 34 2 113c2 113c2 2 2 113c2 113b8 1 2 113c2 113c9
f3 2 114b9 114ba 1 2 114b9 114b0 2 2 114b9 114bd fc 2 115b8 115af 1 2 115b9 115af 37d 2 11935
11930 47e9 2 1611e 1611e 1 2 1611e 16129 1 2 1611e 1611f 1 2 16129 1611f 1 2 1611e 16120 1 3
1611e 1611e 1611f 1 3 1611e 16129 1611f 1 3 1611e 1611e 16120 c40 2 16d67 16d67 1 2 16d63 16d67
1 3 16d63 16d67 16d67 63f4 2 1d157 1d165 1 2 1d158 1d165 1 3 1d158 1d165 1d16e 1 3 1d158 1d165
1d16f 1 3 1d158 1d165 1d170 1 3 1d158 1d165 1d171 1 3 1d158 1d165 1d172 57 2 1d1b9 1d165 1 2
1d1ba 1d165 1 3 1d1b9 1d165 1d16e 1 3 1d1ba 1d165 1d16e 1 3 1d1b9 1d165 1d16f 1 3 1d1ba 1d165
1d16f 12640 1 4e3d 1 1 4e38 1 1 4e41 1 1 20122 1 1 4f60 1 1 4fae 1 1 4fbb 1 1 5002 1 1 507a 1 1
5099 1 1 50e7 1 1 50cf 1 1 349e 1 1 2063a 1 1 514d 1 1 5154 1 1 5164 1 1 5177 1 1 2051c 1 1 34b9
1 1 5167 1 1 518d 1 1 2054b 1 1 5197 1 1 51a4 1 1 4ecc 1 1 51ac 1 1 51b5 1 1 291df 1 1 51f5 1 1
5203 1 1 34df 1 1 523b 1 1 5246 1 1 5272 1 1 5277 1 1 3515 1 1 52c7 1 1 52c9 1 1 52e4 1 1 52fa 1
1 5305 1 1 5306 1 1 5317 1 1 5349 1 1 5351 1 1 535a 1 1 5373 1 1 537d 1 1 537f 1 1 537f 1 1 537f
1 1 20a2c 1 1 7070 1 1 53ca 1 1 53df 1 1 20b63 1 1 53eb 1 1 53f1 1 1 5406 1 1 549e 1 1 5438 1 1
5448 1 1 5468 1 1 54a2 1 1 54f6 1 1 5510 1 1 5553 1 1 5563 1 1 5584 1 1 5584 1 1 5599 1 1 55ab 1
1 55b3 1 1 55c2 1 1 5716 1 1 5606 1 1 5717 1 1 5651 1 1 5674 1 1 5207 1 1 58ee 1 1 57ce 1 1 57f4
1 1 580d 1 1 578b 1 1 5832 1 1 5831 1 1 58ac 1 1 214e4 1 1 58f2 1 1 58f7 1 1 5906 1 1 591a 1 1
5922 1 1 5962 1 1 216a8 1 1 216ea 1 1 59ec 1 1 5a1b 1 1 5a27 1 1 59d8 1 1 5a66 1 1 36ee 1 1 36fc
1 1 5b08 1 1 5b3e 1 1 5b3e 1 1 219c8 1 1 5bc3 1 1 5bd8 1 1 5be7 1 1 5bf3 1 1 21b18 1 1 5bff 1 1
5c06 1 1 5f53 1 1 5c22 1 1 3781 1 1 5c60 1 1 5c6e 1 1 5cc0 1 1 5c8d 1 1 21de4 1 1 5d43 1 1 21de6
1 1 5d6e 1 1 5d6b 1 1 5d7c 1 1 5de1 1 1 5de2 1 1 382f 1 1 5dfd 1 1 5e28 1 1 5e3d 1 1 5e69 1 1
3862 1 1 22183 1 1 387c 1 1 5eb0 1 1 5eb3 1 1 5eb6 1 1 5eca 1 1 2a392 1 1 5efe 1 1 22331 1 1
22331 1 1 8201 1 1 5f22 1 1 5f22 1 1 38c7 1 1 232b8 1 1 261da 1 1 5f62 1 1 5f6b 1 1 38e3 1 1
5f9a 1 1 5fcd 1 1 5fd7 1 1 5ff9 1 1 6081 1 1 393a 1 1 391c 1 1 6094 1 1 226d4 1 1 60c7 1 1 6148
1 1 614c 1 1 614e 1 1 614c 1 1 617a 1 1 618e 1 1 61b2 1 1 61a4 1 1 61af 1 1 61de 1 1 61f2 1 1
61f6 1 1 6210 1 1 621b 1 1 625d 1 1 62b1 1 1 62d4 1 1 6350 1 1 22b0c 1 1 633d 1 1 62fc 1 1 6368
1 1 6383 1 1 63e4 1 1 22bf1 1 1 6422 1 1 63c5 1 1 63a9 1 1 3a2e 1 1 6469 1 1 647e 1 1 649d 1 1
6477 1 1 3a6c 1 1 654f 1 1 656c 1 1 2300a 1 1 65e3 1 1 66f8 1 1 6649 1 1 3b19 1 1 6691 1 1 3b08
1 1 3ae4 1 1 5192 1 1 5195 1 1 6700 1 1 669c 1 1 80ad 1 1 43d9 1 1 6717 1 1 671b 1 1 6721 1 1
675e 1 1 6753 1 1 233c3 1 1 3b49 1 1 67fa 1 1 6785 1 1 6852 1 1 6885 1 1 2346d 1 1 688e 1 1 681f
1 1 6914 1 1 3b9d 1 1 6942 1 1 69a3 1 1 69ea 1 1 6aa8 1 1 236a3 1 1 6adb 1 1 3c18 1 1 6b21 1 1
238a7 1 1 6b54 1 1 3c4e 1 1 6b72 1 1 6b9f 1 1 6bba 1 1 6bbb 1 1 23a8d 1 1 21d0b 1 1 23afa 1 1
6c4e 1 1 23cbc 1 1 6cbf 1 1 6ccd 1 1 6c67 1 1 6d16 1 1 6d3e 1 1 6d77 1 1 6d41 1 1 6d69 1 1 6d78
1 1 6d85 1 1 23d1e 1 1 6d34 1 1 6e2f 1 1 6e6e 1 1 3d33 1 1 6ecb 1 1 6ec7 1 1 23ed1 1 1 6df9 1 1
6f6e 1 1 23f5e 1 1 23f8e 1 1 6fc6 1 1 7039 1 1 701e 1 1 701b 1 1 3d96 1 1 704a 1 1 707d 1 1 7077
1 1 70ad 1 1 20525 1 1 7145 1 1 24263 1 1 719c 1 1 243ab 1 1 7228 1 1 7235 1 1 7250 1 1 24608 1
1 7280 1 1 7295 1 1 24735 1 1 24814 1 1 737a 1 1 738b 1 1 3eac 1 1 73a5 1 1 3eb8 1 1 3eb8 1 1
7447 1 1 745c 1 1 7471 1 1 7485 1 1 74ca 1 1 3f1b 1 1 7524 1 1 24c36 1 1 753e 1 1 24c92 1 1 7570
1 1 2219f 1 1 7610 1 1 24fa1 1 1 24fb8 1 1 25044 1 1 3ffc 1 1 4008 1 1 76f4 1 1 250f3 1 1 250f2
1 1 25119 1 1 25133 1 1 771e 1 1 771f 1 1 771f 1 1 774a 1 1 4039 1 1 778b 1 1 4046 1 1 4096 1 1
2541d 1 1 784e 1 1 788c 1 1 78cc 1 1 40e3 1 1 25626 1 1 7956 1 1 2569a 1 1 256c5 1 1 798f 1 1
79eb 1 1 412f 1 1 7a40 1 1 7a4a 1 1 7a4f 1 1 2597c 1 1 25aa7 1 1 25aa7 1 1 7aee 1 1 4202 1 1
25bab 1 1 7bc6 1 1 7bc9 1 1 4227 1 1 25c80 1 1 7cd2 1 1 42a0 1 1 7ce8 1 1 7ce3 1 1 7d00 1 1
25f86 1 1 7d63 1 1 4301 1 1 7dc7 1 1 7e02 1 1 7e45 1 1 4334 1 1 26228 1 1 26247 1 1 4359 1 1
262d9 1 1 7f7a 1 1 2633e 1 1 7f95 1 1 7ffa 1 1 8005 1 1 264da 1 1 26523 1 1 8060 1 1 265a8 1 1
8070 1 1 2335f 1 1 43d5 1 1 80b2 1 1 8103 1 1 440b 1 1 813e 1 1 5ab5 1 1 267a7 1 1 267b5 1 1
23393 1 1 2339c 1 1 8201 1 1 8204 1 1 8f9e 1 1 446b 1 1 8291 1 1 828b 1 1 829d 1 1 52b3 1 1 82b1
1 1 82b3 1 1 82bd 1 1 82e6 1 1 26b3c 1 1 82e5 1 1 831d 1 1 8363 1 1 83ad 1 1 8323 1 1 83bd 1 1
83e7 1 1 8457 1 1 8353 1 1 83ca 1 1 83cc 1 1 83dc 1 1 26c36 1 1 26d6b 1 1 26cd5 1 1 452b 1 1
84f1 1 1 84f3 1 1 8516 1 1 273ca 1 1 8564 1 1 26f2c 1 1 455d 1 1 4561 1 1 26fb1 1 1 270d2 1 1
456b 1 1 8650 1 1 865c 1 1 8667 1 1 8669 1 1 86a9 1 1 8688 1 1 870e 1 1 86e2 1 1 8779 1 1 8728 1
1 876b 1 1 8786 1 1 45d7 1 1 87e1 1 1 8801 1 1 45f9 1 1 8860 1 1 8863 1 1 27667 1 1 88d7 1 1
88de 1 1 4635 1 1 88fa 1 1 34bb 1 1 278ae 1 1 27966 1 1 46be 1 1 46c7 1 1 8aa0 1 1 8aed 1 1 8b8a
1 1 8c55 1 1 27ca8 1 1 8cab 1 1 8cc1 1 1 8d1b 1 1 8d77 1 1 27f2f 1 1 20804 1 1 8dcb 1 1 8dbc 1 1
8df0 1 1 208de 1 1 8ed4 1 1 8f38 1 1 285d2 1 1 285ed 1 1 9094 1 1 90f1 1 1 9111 1 1 2872e 1 1
911b 1 1 9238 1 1 92d7 1 1 92d8 1 1 927c 1 1 93f9 1 1 9415 1 1 28bfa 1 1 958b 1 1 4995 1 1 95b7
1 1 28d77 1 1 49e6 1 1 96c3 1 1 5db2 1 1 9723 1 1 29145 1 1 2921a 1 1 4a6e 1 1 4a76 1 1 97e0 1 1
2940a 1 1 4ab2 1 1 29496 1 1 980b 1 1 980b 1 1 9829 1 1 295b6 1 1 98e2 1 1 4b33 1 1 9929 1 1
99a7 1 1 99c2 1 1 99fe 1 1 4bce 1 1 29b30 1 1 9b12 1 1 9c40 1 1 9cfd 1 1 4cce 1 1 4ced 1 1 9d67
1 1 2a0ce 1 1 4cf8 1 1 2a105 1 1 2a20e 1 1 2a291 1 1 9ebb 1 1 4d56 1 1 9ef9 1 1 9efe 1 1 9f05 1
1 9f0f 1 1 9f16 1 1 9f3b 1 1 2a600"

/-- Pairs that compose: first, second, the composite. -/
def compositionRows : String := "
41 300 c0 41 301 c1 41 302 c2 41 303 c3 41 308 c4 41 30a c5 43 327 c7 45 300 c8 45 301 c9 45 302
ca 45 308 cb 49 300 cc 49 301 cd 49 302 ce 49 308 cf 4e 303 d1 4f 300 d2 4f 301 d3 4f 302 d4 4f
303 d5 4f 308 d6 55 300 d9 55 301 da 55 302 db 55 308 dc 59 301 dd 61 300 e0 61 301 e1 61 302 e2
61 303 e3 61 308 e4 61 30a e5 63 327 e7 65 300 e8 65 301 e9 65 302 ea 65 308 eb 69 300 ec 69 301
ed 69 302 ee 69 308 ef 6e 303 f1 6f 300 f2 6f 301 f3 6f 302 f4 6f 303 f5 6f 308 f6 75 300 f9 75
301 fa 75 302 fb 75 308 fc 79 301 fd 79 308 ff 41 304 100 61 304 101 41 306 102 61 306 103 41
328 104 61 328 105 43 301 106 63 301 107 43 302 108 63 302 109 43 307 10a 63 307 10b 43 30c 10c
63 30c 10d 44 30c 10e 64 30c 10f 45 304 112 65 304 113 45 306 114 65 306 115 45 307 116 65 307
117 45 328 118 65 328 119 45 30c 11a 65 30c 11b 47 302 11c 67 302 11d 47 306 11e 67 306 11f 47
307 120 67 307 121 47 327 122 67 327 123 48 302 124 68 302 125 49 303 128 69 303 129 49 304 12a
69 304 12b 49 306 12c 69 306 12d 49 328 12e 69 328 12f 49 307 130 4a 302 134 6a 302 135 4b 327
136 6b 327 137 4c 301 139 6c 301 13a 4c 327 13b 6c 327 13c 4c 30c 13d 6c 30c 13e 4e 301 143 6e
301 144 4e 327 145 6e 327 146 4e 30c 147 6e 30c 148 4f 304 14c 6f 304 14d 4f 306 14e 6f 306 14f
4f 30b 150 6f 30b 151 52 301 154 72 301 155 52 327 156 72 327 157 52 30c 158 72 30c 159 53 301
15a 73 301 15b 53 302 15c 73 302 15d 53 327 15e 73 327 15f 53 30c 160 73 30c 161 54 327 162 74
327 163 54 30c 164 74 30c 165 55 303 168 75 303 169 55 304 16a 75 304 16b 55 306 16c 75 306 16d
55 30a 16e 75 30a 16f 55 30b 170 75 30b 171 55 328 172 75 328 173 57 302 174 77 302 175 59 302
176 79 302 177 59 308 178 5a 301 179 7a 301 17a 5a 307 17b 7a 307 17c 5a 30c 17d 7a 30c 17e 4f
31b 1a0 6f 31b 1a1 55 31b 1af 75 31b 1b0 41 30c 1cd 61 30c 1ce 49 30c 1cf 69 30c 1d0 4f 30c 1d1
6f 30c 1d2 55 30c 1d3 75 30c 1d4 dc 304 1d5 fc 304 1d6 dc 301 1d7 fc 301 1d8 dc 30c 1d9 fc 30c
1da dc 300 1db fc 300 1dc c4 304 1de e4 304 1df 226 304 1e0 227 304 1e1 c6 304 1e2 e6 304 1e3 47
30c 1e6 67 30c 1e7 4b 30c 1e8 6b 30c 1e9 4f 328 1ea 6f 328 1eb 1ea 304 1ec 1eb 304 1ed 1b7 30c
1ee 292 30c 1ef 6a 30c 1f0 47 301 1f4 67 301 1f5 4e 300 1f8 6e 300 1f9 c5 301 1fa e5 301 1fb c6
301 1fc e6 301 1fd d8 301 1fe f8 301 1ff 41 30f 200 61 30f 201 41 311 202 61 311 203 45 30f 204
65 30f 205 45 311 206 65 311 207 49 30f 208 69 30f 209 49 311 20a 69 311 20b 4f 30f 20c 6f 30f
20d 4f 311 20e 6f 311 20f 52 30f 210 72 30f 211 52 311 212 72 311 213 55 30f 214 75 30f 215 55
311 216 75 311 217 53 326 218 73 326 219 54 326 21a 74 326 21b 48 30c 21e 68 30c 21f 41 307 226
61 307 227 45 327 228 65 327 229 d6 304 22a f6 304 22b d5 304 22c f5 304 22d 4f 307 22e 6f 307
22f 22e 304 230 22f 304 231 59 304 232 79 304 233 a8 301 385 391 301 386 395 301 388 397 301 389
399 301 38a 39f 301 38c 3a5 301 38e 3a9 301 38f 3ca 301 390 399 308 3aa 3a5 308 3ab 3b1 301 3ac
3b5 301 3ad 3b7 301 3ae 3b9 301 3af 3cb 301 3b0 3b9 308 3ca 3c5 308 3cb 3bf 301 3cc 3c5 301 3cd
3c9 301 3ce 3d2 301 3d3 3d2 308 3d4 415 300 400 415 308 401 413 301 403 406 308 407 41a 301 40c
418 300 40d 423 306 40e 418 306 419 438 306 439 435 300 450 435 308 451 433 301 453 456 308 457
43a 301 45c 438 300 45d 443 306 45e 474 30f 476 475 30f 477 416 306 4c1 436 306 4c2 410 306 4d0
430 306 4d1 410 308 4d2 430 308 4d3 415 306 4d6 435 306 4d7 4d8 308 4da 4d9 308 4db 416 308 4dc
436 308 4dd 417 308 4de 437 308 4df 418 304 4e2 438 304 4e3 418 308 4e4 438 308 4e5 41e 308 4e6
43e 308 4e7 4e8 308 4ea 4e9 308 4eb 42d 308 4ec 44d 308 4ed 423 304 4ee 443 304 4ef 423 308 4f0
443 308 4f1 423 30b 4f2 443 30b 4f3 427 308 4f4 447 308 4f5 42b 308 4f8 44b 308 4f9 627 653 622
627 654 623 648 654 624 627 655 625 64a 654 626 6d5 654 6c0 6c1 654 6c2 6d2 654 6d3 928 93c 929
930 93c 931 933 93c 934 9c7 9be 9cb 9c7 9d7 9cc b47 b56 b48 b47 b3e b4b b47 b57 b4c b92 bd7 b94
bc6 bbe bca bc7 bbe bcb bc6 bd7 bcc c46 c56 c48 cbf cd5 cc0 cc6 cd5 cc7 cc6 cd6 cc8 cc6 cc2 cca
cca cd5 ccb d46 d3e d4a d47 d3e d4b d46 d57 d4c dd9 dca dda dd9 dcf ddc ddc dca ddd dd9 ddf dde
1025 102e 1026 1b05 1b35 1b06 1b07 1b35 1b08 1b09 1b35 1b0a 1b0b 1b35 1b0c 1b0d 1b35 1b0e 1b11
1b35 1b12 1b3a 1b35 1b3b 1b3c 1b35 1b3d 1b3e 1b35 1b40 1b3f 1b35 1b41 1b42 1b35 1b43 41 325 1e00
61 325 1e01 42 307 1e02 62 307 1e03 42 323 1e04 62 323 1e05 42 331 1e06 62 331 1e07 c7 301 1e08
e7 301 1e09 44 307 1e0a 64 307 1e0b 44 323 1e0c 64 323 1e0d 44 331 1e0e 64 331 1e0f 44 327 1e10
64 327 1e11 44 32d 1e12 64 32d 1e13 112 300 1e14 113 300 1e15 112 301 1e16 113 301 1e17 45 32d
1e18 65 32d 1e19 45 330 1e1a 65 330 1e1b 228 306 1e1c 229 306 1e1d 46 307 1e1e 66 307 1e1f 47
304 1e20 67 304 1e21 48 307 1e22 68 307 1e23 48 323 1e24 68 323 1e25 48 308 1e26 68 308 1e27 48
327 1e28 68 327 1e29 48 32e 1e2a 68 32e 1e2b 49 330 1e2c 69 330 1e2d cf 301 1e2e ef 301 1e2f 4b
301 1e30 6b 301 1e31 4b 323 1e32 6b 323 1e33 4b 331 1e34 6b 331 1e35 4c 323 1e36 6c 323 1e37
1e36 304 1e38 1e37 304 1e39 4c 331 1e3a 6c 331 1e3b 4c 32d 1e3c 6c 32d 1e3d 4d 301 1e3e 6d 301
1e3f 4d 307 1e40 6d 307 1e41 4d 323 1e42 6d 323 1e43 4e 307 1e44 6e 307 1e45 4e 323 1e46 6e 323
1e47 4e 331 1e48 6e 331 1e49 4e 32d 1e4a 6e 32d 1e4b d5 301 1e4c f5 301 1e4d d5 308 1e4e f5 308
1e4f 14c 300 1e50 14d 300 1e51 14c 301 1e52 14d 301 1e53 50 301 1e54 70 301 1e55 50 307 1e56 70
307 1e57 52 307 1e58 72 307 1e59 52 323 1e5a 72 323 1e5b 1e5a 304 1e5c 1e5b 304 1e5d 52 331 1e5e
72 331 1e5f 53 307 1e60 73 307 1e61 53 323 1e62 73 323 1e63 15a 307 1e64 15b 307 1e65 160 307
1e66 161 307 1e67 1e62 307 1e68 1e63 307 1e69 54 307 1e6a 74 307 1e6b 54 323 1e6c 74 323 1e6d 54
331 1e6e 74 331 1e6f 54 32d 1e70 74 32d 1e71 55 324 1e72 75 324 1e73 55 330 1e74 75 330 1e75 55
32d 1e76 75 32d 1e77 168 301 1e78 169 301 1e79 16a 308 1e7a 16b 308 1e7b 56 303 1e7c 76 303 1e7d
56 323 1e7e 76 323 1e7f 57 300 1e80 77 300 1e81 57 301 1e82 77 301 1e83 57 308 1e84 77 308 1e85
57 307 1e86 77 307 1e87 57 323 1e88 77 323 1e89 58 307 1e8a 78 307 1e8b 58 308 1e8c 78 308 1e8d
59 307 1e8e 79 307 1e8f 5a 302 1e90 7a 302 1e91 5a 323 1e92 7a 323 1e93 5a 331 1e94 7a 331 1e95
68 331 1e96 74 308 1e97 77 30a 1e98 79 30a 1e99 17f 307 1e9b 41 323 1ea0 61 323 1ea1 41 309 1ea2
61 309 1ea3 c2 301 1ea4 e2 301 1ea5 c2 300 1ea6 e2 300 1ea7 c2 309 1ea8 e2 309 1ea9 c2 303 1eaa
e2 303 1eab 1ea0 302 1eac 1ea1 302 1ead 102 301 1eae 103 301 1eaf 102 300 1eb0 103 300 1eb1 102
309 1eb2 103 309 1eb3 102 303 1eb4 103 303 1eb5 1ea0 306 1eb6 1ea1 306 1eb7 45 323 1eb8 65 323
1eb9 45 309 1eba 65 309 1ebb 45 303 1ebc 65 303 1ebd ca 301 1ebe ea 301 1ebf ca 300 1ec0 ea 300
1ec1 ca 309 1ec2 ea 309 1ec3 ca 303 1ec4 ea 303 1ec5 1eb8 302 1ec6 1eb9 302 1ec7 49 309 1ec8 69
309 1ec9 49 323 1eca 69 323 1ecb 4f 323 1ecc 6f 323 1ecd 4f 309 1ece 6f 309 1ecf d4 301 1ed0 f4
301 1ed1 d4 300 1ed2 f4 300 1ed3 d4 309 1ed4 f4 309 1ed5 d4 303 1ed6 f4 303 1ed7 1ecc 302 1ed8
1ecd 302 1ed9 1a0 301 1eda 1a1 301 1edb 1a0 300 1edc 1a1 300 1edd 1a0 309 1ede 1a1 309 1edf 1a0
303 1ee0 1a1 303 1ee1 1a0 323 1ee2 1a1 323 1ee3 55 323 1ee4 75 323 1ee5 55 309 1ee6 75 309 1ee7
1af 301 1ee8 1b0 301 1ee9 1af 300 1eea 1b0 300 1eeb 1af 309 1eec 1b0 309 1eed 1af 303 1eee 1b0
303 1eef 1af 323 1ef0 1b0 323 1ef1 59 300 1ef2 79 300 1ef3 59 323 1ef4 79 323 1ef5 59 309 1ef6
79 309 1ef7 59 303 1ef8 79 303 1ef9 3b1 313 1f00 3b1 314 1f01 1f00 300 1f02 1f01 300 1f03 1f00
301 1f04 1f01 301 1f05 1f00 342 1f06 1f01 342 1f07 391 313 1f08 391 314 1f09 1f08 300 1f0a 1f09
300 1f0b 1f08 301 1f0c 1f09 301 1f0d 1f08 342 1f0e 1f09 342 1f0f 3b5 313 1f10 3b5 314 1f11 1f10
300 1f12 1f11 300 1f13 1f10 301 1f14 1f11 301 1f15 395 313 1f18 395 314 1f19 1f18 300 1f1a 1f19
300 1f1b 1f18 301 1f1c 1f19 301 1f1d 3b7 313 1f20 3b7 314 1f21 1f20 300 1f22 1f21 300 1f23 1f20
301 1f24 1f21 301 1f25 1f20 342 1f26 1f21 342 1f27 397 313 1f28 397 314 1f29 1f28 300 1f2a 1f29
300 1f2b 1f28 301 1f2c 1f29 301 1f2d 1f28 342 1f2e 1f29 342 1f2f 3b9 313 1f30 3b9 314 1f31 1f30
300 1f32 1f31 300 1f33 1f30 301 1f34 1f31 301 1f35 1f30 342 1f36 1f31 342 1f37 399 313 1f38 399
314 1f39 1f38 300 1f3a 1f39 300 1f3b 1f38 301 1f3c 1f39 301 1f3d 1f38 342 1f3e 1f39 342 1f3f 3bf
313 1f40 3bf 314 1f41 1f40 300 1f42 1f41 300 1f43 1f40 301 1f44 1f41 301 1f45 39f 313 1f48 39f
314 1f49 1f48 300 1f4a 1f49 300 1f4b 1f48 301 1f4c 1f49 301 1f4d 3c5 313 1f50 3c5 314 1f51 1f50
300 1f52 1f51 300 1f53 1f50 301 1f54 1f51 301 1f55 1f50 342 1f56 1f51 342 1f57 3a5 314 1f59 1f59
300 1f5b 1f59 301 1f5d 1f59 342 1f5f 3c9 313 1f60 3c9 314 1f61 1f60 300 1f62 1f61 300 1f63 1f60
301 1f64 1f61 301 1f65 1f60 342 1f66 1f61 342 1f67 3a9 313 1f68 3a9 314 1f69 1f68 300 1f6a 1f69
300 1f6b 1f68 301 1f6c 1f69 301 1f6d 1f68 342 1f6e 1f69 342 1f6f 3b1 300 1f70 3b5 300 1f72 3b7
300 1f74 3b9 300 1f76 3bf 300 1f78 3c5 300 1f7a 3c9 300 1f7c 1f00 345 1f80 1f01 345 1f81 1f02
345 1f82 1f03 345 1f83 1f04 345 1f84 1f05 345 1f85 1f06 345 1f86 1f07 345 1f87 1f08 345 1f88
1f09 345 1f89 1f0a 345 1f8a 1f0b 345 1f8b 1f0c 345 1f8c 1f0d 345 1f8d 1f0e 345 1f8e 1f0f 345
1f8f 1f20 345 1f90 1f21 345 1f91 1f22 345 1f92 1f23 345 1f93 1f24 345 1f94 1f25 345 1f95 1f26
345 1f96 1f27 345 1f97 1f28 345 1f98 1f29 345 1f99 1f2a 345 1f9a 1f2b 345 1f9b 1f2c 345 1f9c
1f2d 345 1f9d 1f2e 345 1f9e 1f2f 345 1f9f 1f60 345 1fa0 1f61 345 1fa1 1f62 345 1fa2 1f63 345
1fa3 1f64 345 1fa4 1f65 345 1fa5 1f66 345 1fa6 1f67 345 1fa7 1f68 345 1fa8 1f69 345 1fa9 1f6a
345 1faa 1f6b 345 1fab 1f6c 345 1fac 1f6d 345 1fad 1f6e 345 1fae 1f6f 345 1faf 3b1 306 1fb0 3b1
304 1fb1 1f70 345 1fb2 3b1 345 1fb3 3ac 345 1fb4 3b1 342 1fb6 1fb6 345 1fb7 391 306 1fb8 391 304
1fb9 391 300 1fba 391 345 1fbc a8 342 1fc1 1f74 345 1fc2 3b7 345 1fc3 3ae 345 1fc4 3b7 342 1fc6
1fc6 345 1fc7 395 300 1fc8 397 300 1fca 397 345 1fcc 1fbf 300 1fcd 1fbf 301 1fce 1fbf 342 1fcf
3b9 306 1fd0 3b9 304 1fd1 3ca 300 1fd2 3b9 342 1fd6 3ca 342 1fd7 399 306 1fd8 399 304 1fd9 399
300 1fda 1ffe 300 1fdd 1ffe 301 1fde 1ffe 342 1fdf 3c5 306 1fe0 3c5 304 1fe1 3cb 300 1fe2 3c1
313 1fe4 3c1 314 1fe5 3c5 342 1fe6 3cb 342 1fe7 3a5 306 1fe8 3a5 304 1fe9 3a5 300 1fea 3a1 314
1fec a8 300 1fed 1f7c 345 1ff2 3c9 345 1ff3 3ce 345 1ff4 3c9 342 1ff6 1ff6 345 1ff7 39f 300 1ff8
3a9 300 1ffa 3a9 345 1ffc 2190 338 219a 2192 338 219b 2194 338 21ae 21d0 338 21cd 21d4 338 21ce
21d2 338 21cf 2203 338 2204 2208 338 2209 220b 338 220c 2223 338 2224 2225 338 2226 223c 338
2241 2243 338 2244 2245 338 2247 2248 338 2249 3d 338 2260 2261 338 2262 224d 338 226d 3c 338
226e 3e 338 226f 2264 338 2270 2265 338 2271 2272 338 2274 2273 338 2275 2276 338 2278 2277 338
2279 227a 338 2280 227b 338 2281 2282 338 2284 2283 338 2285 2286 338 2288 2287 338 2289 22a2
338 22ac 22a8 338 22ad 22a9 338 22ae 22ab 338 22af 227c 338 22e0 227d 338 22e1 2291 338 22e2
2292 338 22e3 22b2 338 22ea 22b3 338 22eb 22b4 338 22ec 22b5 338 22ed 304b 3099 304c 304d 3099
304e 304f 3099 3050 3051 3099 3052 3053 3099 3054 3055 3099 3056 3057 3099 3058 3059 3099 305a
305b 3099 305c 305d 3099 305e 305f 3099 3060 3061 3099 3062 3064 3099 3065 3066 3099 3067 3068
3099 3069 306f 3099 3070 306f 309a 3071 3072 3099 3073 3072 309a 3074 3075 3099 3076 3075 309a
3077 3078 3099 3079 3078 309a 307a 307b 3099 307c 307b 309a 307d 3046 3099 3094 309d 3099 309e
30ab 3099 30ac 30ad 3099 30ae 30af 3099 30b0 30b1 3099 30b2 30b3 3099 30b4 30b5 3099 30b6 30b7
3099 30b8 30b9 3099 30ba 30bb 3099 30bc 30bd 3099 30be 30bf 3099 30c0 30c1 3099 30c2 30c4 3099
30c5 30c6 3099 30c7 30c8 3099 30c9 30cf 3099 30d0 30cf 309a 30d1 30d2 3099 30d3 30d2 309a 30d4
30d5 3099 30d6 30d5 309a 30d7 30d8 3099 30d9 30d8 309a 30da 30db 3099 30dc 30db 309a 30dd 30a6
3099 30f4 30ef 3099 30f7 30f0 3099 30f8 30f1 3099 30f9 30f2 3099 30fa 30fd 3099 30fe 105d2 307
105c9 105da 307 105e4 11099 110ba 1109a 1109b 110ba 1109c 110a5 110ba 110ab 11131 11127 1112e
11132 11127 1112f 11347 1133e 1134b 11347 11357 1134c 11382 113c9 11383 11384 113bb 11385 1138b
113c2 1138e 11390 113c9 11391 113c2 113c2 113c5 113c2 113b8 113c7 113c2 113c9 113c8 114b9 114ba
114bb 114b9 114b0 114bc 114b9 114bd 114be 115b8 115af 115ba 115b9 115af 115bb 11935 11930 11938
1611e 1611e 16121 1611e 16129 16122 1611e 1611f 16123 16129 1611f 16124 1611e 16120 16125 16121
1611f 16126 16122 1611f 16127 16121 16120 16128 16d67 16d67 16d68 16d63 16d67 16d69 16d69 16d67
16d6a"

/-- Combining classes other than 0: gap, further members, class. -/
def combiningRuns : String := "
300 14 e6 0 0 e8 0 3 dc 0 0 e8 0 0 d8 0 4 dc 0 1 ca 0 3 dc 0 1 ca 0 a dc 0 4 1 0 3 dc 0 7 e6 0 0
f0 0 0 e6 0 2 dc 0 2 e6 0 1 dc 1 2 e6 0 3 dc 0 0 e6 0 0 e8 0 1 dc 0 0 e6 0 0 e9 0 1 ea 0 0 e9 0
1 ea 0 0 e9 0 c e6 113 4 e6 109 0 dc 0 3 e6 0 0 dc 0 2 e6 0 0 de 0 0 dc 0 5 e6 0 5 dc 0 1 e6 0 0
dc 0 1 e6 0 0 de 0 0 e4 0 0 e6 0 0 a 0 0 b 0 0 c 0 0 d 0 0 e 0 0 f 0 0 10 0 0 11 0 0 12 0 1 13 0
0 14 0 0 15 0 0 16 1 0 17 1 0 18 0 0 19 1 0 e6 0 0 dc 1 0 12 48 7 e6 0 0 1e 0 0 1f 0 0 20 30 0
1b 0 0 1c 0 0 1d 0 0 1e 0 0 1f 0 0 20 0 0 21 0 0 22 0 1 e6 0 1 dc 0 4 e6 0 0 dc 0 1 e6 0 0 dc 10
0 23 65 6 e6 2 3 e6 0 0 dc 0 0 e6 2 1 e6 1 0 dc 0 1 e6 0 0 dc 23 0 24 1e 0 e6 0 0 dc 0 1 e6 0 0
dc 0 1 e6 0 2 dc 0 0 e6 0 1 dc 0 0 e6 0 0 dc 0 2 e6 0 0 dc 0 0 e6 0 0 dc 0 0 e6 0 0 dc 0 0 e6 0
0 dc 0 1 e6 a0 6 e6 0 0 dc 0 0 e6 9 0 dc 18 3 e6 1 8 e6 1 2 e6 1 4 e6 2b 2 dc 3b 1 e6 0 2 dc 0 3
e6 2a 4 e6 0 4 dc 0 d e6 1 0 dc 0 1 e6 0 0 dc 0 1 e6 0 0 dc 0 2 e6 0 2 dc 0 0 1b 0 0 1c 0 0 1d 0
2 e6 0 0 dc 0 1 e6 0 1 dc 0 4 e6 3c 0 7 10 0 9 3 0 e6 0 0 dc 0 1 e6 67 0 7 10 0 9 30 0 e6 3d 0 7
10 0 9 6e 0 7 10 0 9 6e 0 7 10 0 9 7f 0 9 6e 0 7 10 0 9 7 0 54 0 0 5b 65 0 7 10 0 9 6d 1 9 10 0
9 7c 0 9 6d 1 67 0 0 9 d 3 6b 6c 1 76 0 0 9 d 3 7a 4c 1 dc 1b 0 dc 1 0 dc 1 0 d8 37 0 81 0 0 82
1 0 84 5 3 82 2 0 82 1 1 e6 0 0 9 1 1 e6 3e 0 dc 70 0 7 1 1 9 52 0 dc 2cf 2 e6 3b4 1 9 1e 0 9 9d
0 9 a 0 e6 cb 0 e4 8f 0 de 0 0 e6 0 0 dc db 0 e6 0 0 dc 47 0 9 14 7 e6 2 0 dc 30 4 e6 0 5 dc 0 1
e6 0 0 dc 1 1 dc 0 1 e6 0 1 dc 0 4 e6 0 0 dc 0 11 e6 0 0 dc 2 5 e6 0 0 dc 0 3 e6 0 0 ea 48 0 7 f
0 9 26 0 e6 0 0 dc 0 6 e6 36 1 9 3a 0 7 b 1 9 43 0 7 98 2 e6 1 0 1 0 4 dc 0 1 e6 0 3 dc 0 0 e6 1
6 1 4 0 dc 6 0 e6 3 1 e6 c6 1 e6 0 0 dc 0 6 e6 0 0 dc 0 1 e6 0 0 ea 0 0 d6 0 0 dc 0 0 ca 0 24 e6
0 0 e8 0 1 e4 0 0 dc 0 0 da 0 0 e6 0 0 e9 0 0 dc 0 0 e6 0 0 dc 2d0 1 e6 0 1 1 0 3 e6 0 2 1 0 1
e6 4 0 e6 3 1 1 0 0 e6 0 0 dc 0 0 e6 0 1 1 0 3 dc 0 0 e6 bfe 2 e6 8d 0 9 60 1f e6 22a 0 da 0 0
e4 0 0 e8 0 0 de 0 1 e0 69 1 8 75d4 0 e6 4 9 e6 20 1 e6 50 1 e6 114 0 9 25 0 9 97 0 9 1b 11 e6
39 2 dc 25 0 9 5f 0 7 c 0 9 ef 0 e6 1 1 e6 0 0 dc 2 1 e6 5 1 e6 1 0 e6 34 0 9 f6 0 9 4f30 0 1a
301 6 e6 0 6 dc 0 1 e6 3cd 0 dc e2 0 dc 95 4 e6 692 0 dc 1 0 e6 28 0 e6 0 0 1 0 0 dc 4 0 9 a5 0
e6 0 0 dc 23d 3 e6 41 4 e6 13d 1 e6 4d 1 dc 1 2 dc 46 1 dc 0 2 e6 0 0 dc 0 0 e6 0 3 dc 31 0 e6 0
0 dc 0 0 e6 0 0 dc c0 0 9 29 0 9 e 0 9 39 0 9 0 0 7 45 2 e6 30 1 9 3e 0 7 4c 0 9 9 0 7 6a 0 9 0
0 7 b2 0 7 0 0 9 50 1 7 10 0 9 18 6 e6 3 4 e6 59 2 9 71 0 9 3 0 7 17 0 e6 63 0 9 0 0 7 fb 0 9 0
0 7 7e 0 9 76 0 9 0 0 7 73 0 9 10d 0 9 0 0 7 102 1 9 4 0 7 9c 0 9 53 0 9 12 0 9 51 0 9 1a5 0 9
102 0 7 1 1 9 51 0 9 1a9 1 9 41ec 0 9 9c0 4 1 3b 6 e6 4b9 1 6 4cac 0 1 14c6 1 d8 0 2 1 3 0 e2 0
4 d8 8 7 dc 2 4 e6 0 1 dc 1e 3 e6 94 2 e6 dbb 6 e6 1 10 e6 2 6 e6 1 1 e6 1 4 e6 64 0 e6 a0 6 e6
177 0 e6 3d 3 e6 1fc 1 e8 0 0 dc 0 0 e6 fe 0 e6 0 0 dc f3 0 e6 2 0 e6 7 1 e6 5 0 e6 1da 6 dc 6d
5 e6 0 0 7"

end DeepLink.Idn.Table
