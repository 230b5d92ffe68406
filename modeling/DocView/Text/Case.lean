import DocView.Text.Table

/-!
# Letter case

Lower case, upper case and case folding of whole texts, with the mappings of Unicode 14. A letter
may map to several letters, and the lower case of a sigma depends on its neighbours, so these are
functions on texts and not on characters.

Case-insensitive matching compares characters one by one and so has its own, simple mapping:
`simpleLower`, together with the few groups of lower-case letters that share an upper case.

## Main definitions

* `Text.lower`, `Text.upper`, `Text.foldCase` - the mappings of whole texts
* `Text.simpleLower`, `Text.simpleUpper`, `Text.isCased`, `Text.caseSiblings` - one character
-/

namespace DocView.Text

/-! ### Tables -/

/-- Lower case, one letter to one letter, outside ASCII. -/
def lowerRuns : Array Run := Table.runs
  "c0,16,1,e0 d8,6,1,f8 100,2e,2,101 132,4,2,133 139,e,2,13a 14a,2c,2,14b 178,0,1,ff 179,4,2,17a
  181,0,1,253 182,2,2,183 186,0,1,254 187,0,1,188 189,1,1,256 18b,0,1,18c 18e,0,1,1dd
  18f,0,1,259 190,0,1,25b 191,0,1,192 193,0,1,260 194,0,1,263 196,0,1,269 197,0,1,268
  198,0,1,199 19c,0,1,26f 19d,0,1,272 19f,0,1,275 1a0,4,2,1a1 1a6,0,1,280 1a7,0,1,1a8
  1a9,0,1,283 1ac,0,1,1ad 1ae,0,1,288 1af,0,1,1b0 1b1,1,1,28a 1b3,2,2,1b4 1b7,0,1,292
  1b8,0,1,1b9 1bc,0,1,1bd 1c4,0,1,1c6 1c5,0,1,1c6 1c7,0,1,1c9 1c8,0,1,1c9 1ca,0,1,1cc
  1cb,10,2,1cc 1de,10,2,1df 1f1,0,1,1f3 1f2,2,2,1f3 1f6,0,1,195 1f7,0,1,1bf 1f8,26,2,1f9
  220,0,1,19e 222,10,2,223 23a,0,1,2c65 23b,0,1,23c 23d,0,1,19a 23e,0,1,2c66 241,0,1,242
  243,0,1,180 244,0,1,289 245,0,1,28c 246,8,2,247 370,2,2,371 376,0,1,377 37f,0,1,3f3
  386,0,1,3ac 388,2,1,3ad 38c,0,1,3cc 38e,1,1,3cd 391,10,1,3b1 3a3,8,1,3c3 3cf,0,1,3d7
  3d8,16,2,3d9 3f4,0,1,3b8 3f7,0,1,3f8 3f9,0,1,3f2 3fa,0,1,3fb 3fd,2,1,37b 400,f,1,450
  410,1f,1,430 460,20,2,461 48a,34,2,48b 4c0,0,1,4cf 4c1,c,2,4c2 4d0,5e,2,4d1 531,25,1,561
  10a0,25,1,2d00 10c7,0,1,2d27 10cd,0,1,2d2d 13a0,4f,1,ab70 13f0,5,1,13f8 1c90,2a,1,10d0
  1cbd,2,1,10fd 1e00,94,2,1e01 1e9e,0,1,df 1ea0,5e,2,1ea1 1f08,7,1,1f00 1f18,5,1,1f10
  1f28,7,1,1f20 1f38,7,1,1f30 1f48,5,1,1f40 1f59,6,2,1f51 1f68,7,1,1f60 1f88,7,1,1f80
  1f98,7,1,1f90 1fa8,7,1,1fa0 1fb8,1,1,1fb0 1fba,1,1,1f70 1fbc,0,1,1fb3 1fc8,3,1,1f72
  1fcc,0,1,1fc3 1fd8,1,1,1fd0 1fda,1,1,1f76 1fe8,1,1,1fe0 1fea,1,1,1f7a 1fec,0,1,1fe5
  1ff8,1,1,1f78 1ffa,1,1,1f7c 1ffc,0,1,1ff3 2126,0,1,3c9 212a,0,1,6b 212b,0,1,e5 2132,0,1,214e
  2160,f,1,2170 2183,0,1,2184 24b6,19,1,24d0 2c00,2f,1,2c30 2c60,0,1,2c61 2c62,0,1,26b
  2c63,0,1,1d7d 2c64,0,1,27d 2c67,4,2,2c68 2c6d,0,1,251 2c6e,0,1,271 2c6f,0,1,250 2c70,0,1,252
  2c72,0,1,2c73 2c75,0,1,2c76 2c7e,1,1,23f 2c80,62,2,2c81 2ceb,2,2,2cec 2cf2,0,1,2cf3
  a640,2c,2,a641 a680,1a,2,a681 a722,c,2,a723 a732,3c,2,a733 a779,2,2,a77a a77d,0,1,1d79
  a77e,8,2,a77f a78b,0,1,a78c a78d,0,1,265 a790,2,2,a791 a796,12,2,a797 a7aa,0,1,266
  a7ab,0,1,25c a7ac,0,1,261 a7ad,0,1,26c a7ae,0,1,26a a7b0,0,1,29e a7b1,0,1,287 a7b2,0,1,29d
  a7b3,0,1,ab53 a7b4,e,2,a7b5 a7c4,0,1,a794 a7c5,0,1,282 a7c6,0,1,1d8e a7c7,2,2,a7c8
  a7d0,0,1,a7d1 a7d6,2,2,a7d7 a7f5,0,1,a7f6 ff21,19,1,ff41 10400,27,1,10428 104b0,23,1,104d8
  10570,a,1,10597 1057c,e,1,105a3 1058c,6,1,105b3 10594,1,1,105bb 10c80,32,1,10cc0
  118a0,1f,1,118c0 16e40,1f,1,16e60 1e900,21,1,1e922"

/-- Upper case, one letter to one letter, outside ASCII. -/
def upperRuns : Array Run := Table.runs
  "b5,0,1,39c e0,16,1,c0 f8,6,1,d8 ff,0,1,178 101,2e,2,100 131,0,1,49 133,4,2,132 13a,e,2,139
  14b,2c,2,14a 17a,4,2,179 17f,0,1,53 180,0,1,243 183,2,2,182 188,0,1,187 18c,0,1,18b
  192,0,1,191 195,0,1,1f6 199,0,1,198 19a,0,1,23d 19e,0,1,220 1a1,4,2,1a0 1a8,0,1,1a7
  1ad,0,1,1ac 1b0,0,1,1af 1b4,2,2,1b3 1b9,0,1,1b8 1bd,0,1,1bc 1bf,0,1,1f7 1c5,0,1,1c4
  1c6,0,1,1c4 1c8,0,1,1c7 1c9,0,1,1c7 1cb,0,1,1ca 1cc,0,1,1ca 1ce,e,2,1cd 1dd,0,1,18e
  1df,10,2,1de 1f2,0,1,1f1 1f3,0,1,1f1 1f5,0,1,1f4 1f9,26,2,1f8 223,10,2,222 23c,0,1,23b
  23f,1,1,2c7e 242,0,1,241 247,8,2,246 250,0,1,2c6f 251,0,1,2c6d 252,0,1,2c70 253,0,1,181
  254,0,1,186 256,1,1,189 259,0,1,18f 25b,0,1,190 25c,0,1,a7ab 260,0,1,193 261,0,1,a7ac
  263,0,1,194 265,0,1,a78d 266,0,1,a7aa 268,0,1,197 269,0,1,196 26a,0,1,a7ae 26b,0,1,2c62
  26c,0,1,a7ad 26f,0,1,19c 271,0,1,2c6e 272,0,1,19d 275,0,1,19f 27d,0,1,2c64 280,0,1,1a6
  282,0,1,a7c5 283,0,1,1a9 287,0,1,a7b1 288,0,1,1ae 289,0,1,244 28a,1,1,1b1 28c,0,1,245
  292,0,1,1b7 29d,0,1,a7b2 29e,0,1,a7b0 345,0,1,399 371,2,2,370 377,0,1,376 37b,2,1,3fd
  3ac,0,1,386 3ad,2,1,388 3b1,10,1,391 3c2,0,1,3a3 3c3,8,1,3a3 3cc,0,1,38c 3cd,1,1,38e
  3d0,0,1,392 3d1,0,1,398 3d5,0,1,3a6 3d6,0,1,3a0 3d7,0,1,3cf 3d9,16,2,3d8 3f0,0,1,39a
  3f1,0,1,3a1 3f2,0,1,3f9 3f3,0,1,37f 3f5,0,1,395 3f8,0,1,3f7 3fb,0,1,3fa 430,1f,1,410
  450,f,1,400 461,20,2,460 48b,34,2,48a 4c2,c,2,4c1 4cf,0,1,4c0 4d1,5e,2,4d0 561,25,1,531
  10d0,2a,1,1c90 10fd,2,1,1cbd 13f8,5,1,13f0 1c80,0,1,412 1c81,0,1,414 1c82,0,1,41e
  1c83,1,1,421 1c85,0,1,422 1c86,0,1,42a 1c87,0,1,462 1c88,0,1,a64a 1d79,0,1,a77d 1d7d,0,1,2c63
  1d8e,0,1,a7c6 1e01,94,2,1e00 1e9b,0,1,1e60 1ea1,5e,2,1ea0 1f00,7,1,1f08 1f10,5,1,1f18
  1f20,7,1,1f28 1f30,7,1,1f38 1f40,5,1,1f48 1f51,6,2,1f59 1f60,7,1,1f68 1f70,1,1,1fba
  1f72,3,1,1fc8 1f76,1,1,1fda 1f78,1,1,1ff8 1f7a,1,1,1fea 1f7c,1,1,1ffa 1fb0,1,1,1fb8
  1fbe,0,1,399 1fd0,1,1,1fd8 1fe0,1,1,1fe8 1fe5,0,1,1fec 214e,0,1,2132 2170,f,1,2160
  2184,0,1,2183 24d0,19,1,24b6 2c30,2f,1,2c00 2c61,0,1,2c60 2c65,0,1,23a 2c66,0,1,23e
  2c68,4,2,2c67 2c73,0,1,2c72 2c76,0,1,2c75 2c81,62,2,2c80 2cec,2,2,2ceb 2cf3,0,1,2cf2
  2d00,25,1,10a0 2d27,0,1,10c7 2d2d,0,1,10cd a641,2c,2,a640 a681,1a,2,a680 a723,c,2,a722
  a733,3c,2,a732 a77a,2,2,a779 a77f,8,2,a77e a78c,0,1,a78b a791,2,2,a790 a794,0,1,a7c4
  a797,12,2,a796 a7b5,e,2,a7b4 a7c8,2,2,a7c7 a7d1,0,1,a7d0 a7d7,2,2,a7d6 a7f6,0,1,a7f5
  ab53,0,1,a7b3 ab70,4f,1,13a0 ff41,19,1,ff21 10428,27,1,10400 104d8,23,1,104b0 10597,a,1,10570
  105a3,e,1,1057c 105b3,6,1,1058c 105bb,1,1,10594 10cc0,32,1,10c80 118c0,1f,1,118a0
  16e60,1f,1,16e40 1e922,21,1,1e900"

/-- Letters whose upper case has several letters. -/
def upperRows : Array Expansion := Table.expansions
  "df,53,53 149,2bc,4e 1f0,4a,30c 390,399,308,301 3b0,3a5,308,301 587,535,552 1e96,48,331
  1e97,54,308 1e98,57,30a 1e99,59,30a 1e9a,41,2be 1f50,3a5,313 1f52,3a5,313,300
  1f54,3a5,313,301 1f56,3a5,313,342 1f80,1f08,399 1f81,1f09,399 1f82,1f0a,399 1f83,1f0b,399
  1f84,1f0c,399 1f85,1f0d,399 1f86,1f0e,399 1f87,1f0f,399 1f88,1f08,399 1f89,1f09,399
  1f8a,1f0a,399 1f8b,1f0b,399 1f8c,1f0c,399 1f8d,1f0d,399 1f8e,1f0e,399 1f8f,1f0f,399
  1f90,1f28,399 1f91,1f29,399 1f92,1f2a,399 1f93,1f2b,399 1f94,1f2c,399 1f95,1f2d,399
  1f96,1f2e,399 1f97,1f2f,399 1f98,1f28,399 1f99,1f29,399 1f9a,1f2a,399 1f9b,1f2b,399
  1f9c,1f2c,399 1f9d,1f2d,399 1f9e,1f2e,399 1f9f,1f2f,399 1fa0,1f68,399 1fa1,1f69,399
  1fa2,1f6a,399 1fa3,1f6b,399 1fa4,1f6c,399 1fa5,1f6d,399 1fa6,1f6e,399 1fa7,1f6f,399
  1fa8,1f68,399 1fa9,1f69,399 1faa,1f6a,399 1fab,1f6b,399 1fac,1f6c,399 1fad,1f6d,399
  1fae,1f6e,399 1faf,1f6f,399 1fb2,1fba,399 1fb3,391,399 1fb4,386,399 1fb6,391,342
  1fb7,391,342,399 1fbc,391,399 1fc2,1fca,399 1fc3,397,399 1fc4,389,399 1fc6,397,342
  1fc7,397,342,399 1fcc,397,399 1fd2,399,308,300 1fd3,399,308,301 1fd6,399,342 1fd7,399,308,342
  1fe2,3a5,308,300 1fe3,3a5,308,301 1fe4,3a1,313 1fe6,3a5,342 1fe7,3a5,308,342 1ff2,1ffa,399
  1ff3,3a9,399 1ff4,38f,399 1ff6,3a9,342 1ff7,3a9,342,399 1ffc,3a9,399 fb00,46,46 fb01,46,49
  fb02,46,4c fb03,46,46,49 fb04,46,46,4c fb05,53,54 fb06,53,54 fb13,544,546 fb14,544,535
  fb15,544,53b fb16,54e,546 fb17,544,53d"

/-- Case folding, one letter to one letter, outside ASCII. -/
def foldRuns : Array Run := Table.runs
  "b5,0,1,3bc c0,16,1,e0 d8,6,1,f8 100,2e,2,101 132,4,2,133 139,e,2,13a 14a,2c,2,14b 178,0,1,ff
  179,4,2,17a 17f,0,1,73 181,0,1,253 182,2,2,183 186,0,1,254 187,0,1,188 189,1,1,256
  18b,0,1,18c 18e,0,1,1dd 18f,0,1,259 190,0,1,25b 191,0,1,192 193,0,1,260 194,0,1,263
  196,0,1,269 197,0,1,268 198,0,1,199 19c,0,1,26f 19d,0,1,272 19f,0,1,275 1a0,4,2,1a1
  1a6,0,1,280 1a7,0,1,1a8 1a9,0,1,283 1ac,0,1,1ad 1ae,0,1,288 1af,0,1,1b0 1b1,1,1,28a
  1b3,2,2,1b4 1b7,0,1,292 1b8,0,1,1b9 1bc,0,1,1bd 1c4,0,1,1c6 1c5,0,1,1c6 1c7,0,1,1c9
  1c8,0,1,1c9 1ca,0,1,1cc 1cb,10,2,1cc 1de,10,2,1df 1f1,0,1,1f3 1f2,2,2,1f3 1f6,0,1,195
  1f7,0,1,1bf 1f8,26,2,1f9 220,0,1,19e 222,10,2,223 23a,0,1,2c65 23b,0,1,23c 23d,0,1,19a
  23e,0,1,2c66 241,0,1,242 243,0,1,180 244,0,1,289 245,0,1,28c 246,8,2,247 345,0,1,3b9
  370,2,2,371 376,0,1,377 37f,0,1,3f3 386,0,1,3ac 388,2,1,3ad 38c,0,1,3cc 38e,1,1,3cd
  391,10,1,3b1 3a3,8,1,3c3 3c2,0,1,3c3 3cf,0,1,3d7 3d0,0,1,3b2 3d1,0,1,3b8 3d5,0,1,3c6
  3d6,0,1,3c0 3d8,16,2,3d9 3f0,0,1,3ba 3f1,0,1,3c1 3f4,0,1,3b8 3f5,0,1,3b5 3f7,0,1,3f8
  3f9,0,1,3f2 3fa,0,1,3fb 3fd,2,1,37b 400,f,1,450 410,1f,1,430 460,20,2,461 48a,34,2,48b
  4c0,0,1,4cf 4c1,c,2,4c2 4d0,5e,2,4d1 531,25,1,561 10a0,25,1,2d00 10c7,0,1,2d27 10cd,0,1,2d2d
  13f8,5,1,13f0 1c80,0,1,432 1c81,0,1,434 1c82,0,1,43e 1c83,1,1,441 1c85,0,1,442 1c86,0,1,44a
  1c87,0,1,463 1c88,0,1,a64b 1c90,2a,1,10d0 1cbd,2,1,10fd 1e00,94,2,1e01 1e9b,0,1,1e61
  1ea0,5e,2,1ea1 1f08,7,1,1f00 1f18,5,1,1f10 1f28,7,1,1f20 1f38,7,1,1f30 1f48,5,1,1f40
  1f59,6,2,1f51 1f68,7,1,1f60 1fb8,1,1,1fb0 1fba,1,1,1f70 1fbe,0,1,3b9 1fc8,3,1,1f72
  1fd8,1,1,1fd0 1fda,1,1,1f76 1fe8,1,1,1fe0 1fea,1,1,1f7a 1fec,0,1,1fe5 1ff8,1,1,1f78
  1ffa,1,1,1f7c 2126,0,1,3c9 212a,0,1,6b 212b,0,1,e5 2132,0,1,214e 2160,f,1,2170 2183,0,1,2184
  24b6,19,1,24d0 2c00,2f,1,2c30 2c60,0,1,2c61 2c62,0,1,26b 2c63,0,1,1d7d 2c64,0,1,27d
  2c67,4,2,2c68 2c6d,0,1,251 2c6e,0,1,271 2c6f,0,1,250 2c70,0,1,252 2c72,0,1,2c73 2c75,0,1,2c76
  2c7e,1,1,23f 2c80,62,2,2c81 2ceb,2,2,2cec 2cf2,0,1,2cf3 a640,2c,2,a641 a680,1a,2,a681
  a722,c,2,a723 a732,3c,2,a733 a779,2,2,a77a a77d,0,1,1d79 a77e,8,2,a77f a78b,0,1,a78c
  a78d,0,1,265 a790,2,2,a791 a796,12,2,a797 a7aa,0,1,266 a7ab,0,1,25c a7ac,0,1,261 a7ad,0,1,26c
  a7ae,0,1,26a a7b0,0,1,29e a7b1,0,1,287 a7b2,0,1,29d a7b3,0,1,ab53 a7b4,e,2,a7b5 a7c4,0,1,a794
  a7c5,0,1,282 a7c6,0,1,1d8e a7c7,2,2,a7c8 a7d0,0,1,a7d1 a7d6,2,2,a7d7 a7f5,0,1,a7f6
  ab70,4f,1,13a0 ff21,19,1,ff41 10400,27,1,10428 104b0,23,1,104d8 10570,a,1,10597
  1057c,e,1,105a3 1058c,6,1,105b3 10594,1,1,105bb 10c80,32,1,10cc0 118a0,1f,1,118c0
  16e40,1f,1,16e60 1e900,21,1,1e922"

/-- Letters that fold to several letters. -/
def foldRows : Array Expansion := Table.expansions
  "df,73,73 130,69,307 149,2bc,6e 1f0,6a,30c 390,3b9,308,301 3b0,3c5,308,301 587,565,582
  1e96,68,331 1e97,74,308 1e98,77,30a 1e99,79,30a 1e9a,61,2be 1e9e,73,73 1f50,3c5,313
  1f52,3c5,313,300 1f54,3c5,313,301 1f56,3c5,313,342 1f80,1f00,3b9 1f81,1f01,3b9 1f82,1f02,3b9
  1f83,1f03,3b9 1f84,1f04,3b9 1f85,1f05,3b9 1f86,1f06,3b9 1f87,1f07,3b9 1f88,1f00,3b9
  1f89,1f01,3b9 1f8a,1f02,3b9 1f8b,1f03,3b9 1f8c,1f04,3b9 1f8d,1f05,3b9 1f8e,1f06,3b9
  1f8f,1f07,3b9 1f90,1f20,3b9 1f91,1f21,3b9 1f92,1f22,3b9 1f93,1f23,3b9 1f94,1f24,3b9
  1f95,1f25,3b9 1f96,1f26,3b9 1f97,1f27,3b9 1f98,1f20,3b9 1f99,1f21,3b9 1f9a,1f22,3b9
  1f9b,1f23,3b9 1f9c,1f24,3b9 1f9d,1f25,3b9 1f9e,1f26,3b9 1f9f,1f27,3b9 1fa0,1f60,3b9
  1fa1,1f61,3b9 1fa2,1f62,3b9 1fa3,1f63,3b9 1fa4,1f64,3b9 1fa5,1f65,3b9 1fa6,1f66,3b9
  1fa7,1f67,3b9 1fa8,1f60,3b9 1fa9,1f61,3b9 1faa,1f62,3b9 1fab,1f63,3b9 1fac,1f64,3b9
  1fad,1f65,3b9 1fae,1f66,3b9 1faf,1f67,3b9 1fb2,1f70,3b9 1fb3,3b1,3b9 1fb4,3ac,3b9
  1fb6,3b1,342 1fb7,3b1,342,3b9 1fbc,3b1,3b9 1fc2,1f74,3b9 1fc3,3b7,3b9 1fc4,3ae,3b9
  1fc6,3b7,342 1fc7,3b7,342,3b9 1fcc,3b7,3b9 1fd2,3b9,308,300 1fd3,3b9,308,301 1fd6,3b9,342
  1fd7,3b9,308,342 1fe2,3c5,308,300 1fe3,3c5,308,301 1fe4,3c1,313 1fe6,3c5,342 1fe7,3c5,308,342
  1ff2,1f7c,3b9 1ff3,3c9,3b9 1ff4,3ce,3b9 1ff6,3c9,342 1ff7,3c9,342,3b9 1ffc,3c9,3b9 fb00,66,66
  fb01,66,69 fb02,66,6c fb03,66,66,69 fb04,66,66,6c fb05,73,74 fb06,73,74 fb13,574,576
  fb14,574,565 fb15,574,56b fb16,57e,576 fb17,574,56d"

/-- Letters that have case. -/
def casedRanges : Array Span := Table.spans
  "41,5a 61,7a aa,aa b5,b5 ba,ba c0,d6 d8,f6 f8,1ba 1bc,1bf 1c4,293 295,2b8 2c0,2c1 2e0,2e4
  345,345 370,373 376,377 37a,37d 37f,37f 386,386 388,38a 38c,38c 38e,3a1 3a3,3f5 3f7,481
  48a,52f 531,556 560,588 10a0,10c5 10c7,10c7 10cd,10cd 10d0,10fa 10fd,10ff 13a0,13f5 13f8,13fd
  1c80,1c88 1c90,1cba 1cbd,1cbf 1d00,1dbf 1e00,1f15 1f18,1f1d 1f20,1f45 1f48,1f4d 1f50,1f57
  1f59,1f59 1f5b,1f5b 1f5d,1f5d 1f5f,1f7d 1f80,1fb4 1fb6,1fbc 1fbe,1fbe 1fc2,1fc4 1fc6,1fcc
  1fd0,1fd3 1fd6,1fdb 1fe0,1fec 1ff2,1ff4 1ff6,1ffc 2071,2071 207f,207f 2090,209c 2102,2102
  2107,2107 210a,2113 2115,2115 2119,211d 2124,2124 2126,2126 2128,2128 212a,212d 212f,2134
  2139,2139 213c,213f 2145,2149 214e,214e 2160,217f 2183,2184 24b6,24e9 2c00,2ce4 2ceb,2cee
  2cf2,2cf3 2d00,2d25 2d27,2d27 2d2d,2d2d a640,a66d a680,a69d a722,a787 a78b,a78e a790,a7ca
  a7d0,a7d1 a7d3,a7d3 a7d5,a7d9 a7f5,a7f6 a7f8,a7fa ab30,ab5a ab5c,ab68 ab70,abbf fb00,fb06
  fb13,fb17 ff21,ff3a ff41,ff5a 10400,1044f 104b0,104d3 104d8,104fb 10570,1057a 1057c,1058a
  1058c,10592 10594,10595 10597,105a1 105a3,105b1 105b3,105b9 105bb,105bc 10780,10780
  10783,10785 10787,107b0 107b2,107ba 10c80,10cb2 10cc0,10cf2 118a0,118df 16e40,16e7f
  1d400,1d454 1d456,1d49c 1d49e,1d49f 1d4a2,1d4a2 1d4a5,1d4a6 1d4a9,1d4ac 1d4ae,1d4b9
  1d4bb,1d4bb 1d4bd,1d4c3 1d4c5,1d505 1d507,1d50a 1d50d,1d514 1d516,1d51c 1d51e,1d539
  1d53b,1d53e 1d540,1d544 1d546,1d546 1d54a,1d550 1d552,1d6a5 1d6a8,1d6c0 1d6c2,1d6da
  1d6dc,1d6fa 1d6fc,1d714 1d716,1d734 1d736,1d74e 1d750,1d76e 1d770,1d788 1d78a,1d7a8
  1d7aa,1d7c2 1d7c4,1d7cb 1df00,1df09 1df0b,1df1e 1e900,1e943 1f130,1f149 1f150,1f169
  1f170,1f189"

/-- Characters that are passed over when looking for a neighbouring letter. -/
def caseIgnorableRanges : Array Span := Table.spans
  "27,27 2e,2e 3a,3a 5e,5e 60,60 a8,a8 ad,ad af,af b4,b4 b7,b8 2b0,36f 374,375 37a,37a 384,385
  387,387 483,489 559,559 55f,55f 591,5bd 5bf,5bf 5c1,5c2 5c4,5c5 5c7,5c7 5f4,5f4 600,605
  610,61a 61c,61c 640,640 64b,65f 670,670 6d6,6dd 6df,6e8 6ea,6ed 70f,70f 711,711 730,74a
  7a6,7b0 7eb,7f5 7fa,7fa 7fd,7fd 816,82d 859,85b 888,888 890,891 898,89f 8c9,902 93a,93a
  93c,93c 941,948 94d,94d 951,957 962,963 971,971 981,981 9bc,9bc 9c1,9c4 9cd,9cd 9e2,9e3
  9fe,9fe a01,a02 a3c,a3c a41,a42 a47,a48 a4b,a4d a51,a51 a70,a71 a75,a75 a81,a82 abc,abc
  ac1,ac5 ac7,ac8 acd,acd ae2,ae3 afa,aff b01,b01 b3c,b3c b3f,b3f b41,b44 b4d,b4d b55,b56
  b62,b63 b82,b82 bc0,bc0 bcd,bcd c00,c00 c04,c04 c3c,c3c c3e,c40 c46,c48 c4a,c4d c55,c56
  c62,c63 c81,c81 cbc,cbc cbf,cbf cc6,cc6 ccc,ccd ce2,ce3 d00,d01 d3b,d3c d41,d44 d4d,d4d
  d62,d63 d81,d81 dca,dca dd2,dd4 dd6,dd6 e31,e31 e34,e3a e46,e4e eb1,eb1 eb4,ebc ec6,ec6
  ec8,ecd f18,f19 f35,f35 f37,f37 f39,f39 f71,f7e f80,f84 f86,f87 f8d,f97 f99,fbc fc6,fc6
  102d,1030 1032,1037 1039,103a 103d,103e 1058,1059 105e,1060 1071,1074 1082,1082 1085,1086
  108d,108d 109d,109d 10fc,10fc 135d,135f 1712,1714 1732,1733 1752,1753 1772,1773 17b4,17b5
  17b7,17bd 17c6,17c6 17c9,17d3 17d7,17d7 17dd,17dd 180b,180f 1843,1843 1885,1886 18a9,18a9
  1920,1922 1927,1928 1932,1932 1939,193b 1a17,1a18 1a1b,1a1b 1a56,1a56 1a58,1a5e 1a60,1a60
  1a62,1a62 1a65,1a6c 1a73,1a7c 1a7f,1a7f 1aa7,1aa7 1ab0,1ace 1b00,1b03 1b34,1b34 1b36,1b3a
  1b3c,1b3c 1b42,1b42 1b6b,1b73 1b80,1b81 1ba2,1ba5 1ba8,1ba9 1bab,1bad 1be6,1be6 1be8,1be9
  1bed,1bed 1bef,1bf1 1c2c,1c33 1c36,1c37 1c78,1c7d 1cd0,1cd2 1cd4,1ce0 1ce2,1ce8 1ced,1ced
  1cf4,1cf4 1cf8,1cf9 1d2c,1d6a 1d78,1d78 1d9b,1dff 1fbd,1fbd 1fbf,1fc1 1fcd,1fcf 1fdd,1fdf
  1fed,1fef 1ffd,1ffe 200b,200f 2018,2019 2024,2024 2027,2027 202a,202e 2060,2064 2066,206f
  2071,2071 207f,207f 2090,209c 20d0,20f0 2c7c,2c7d 2cef,2cf1 2d6f,2d6f 2d7f,2d7f 2de0,2dff
  2e2f,2e2f 3005,3005 302a,302d 3031,3035 303b,303b 3099,309e 30fc,30fe a015,a015 a4f8,a4fd
  a60c,a60c a66f,a672 a674,a67d a67f,a67f a69c,a69f a6f0,a6f1 a700,a721 a770,a770 a788,a78a
  a7f2,a7f4 a7f8,a7f9 a802,a802 a806,a806 a80b,a80b a825,a826 a82c,a82c a8c4,a8c5 a8e0,a8f1
  a8ff,a8ff a926,a92d a947,a951 a980,a982 a9b3,a9b3 a9b6,a9b9 a9bc,a9bd a9cf,a9cf a9e5,a9e6
  aa29,aa2e aa31,aa32 aa35,aa36 aa43,aa43 aa4c,aa4c aa70,aa70 aa7c,aa7c aab0,aab0 aab2,aab4
  aab7,aab8 aabe,aabf aac1,aac1 aadd,aadd aaec,aaed aaf3,aaf4 aaf6,aaf6 ab5b,ab5f ab69,ab6b
  abe5,abe5 abe8,abe8 abed,abed fb1e,fb1e fbb2,fbc2 fe00,fe0f fe13,fe13 fe20,fe2f fe52,fe52
  fe55,fe55 feff,feff ff07,ff07 ff0e,ff0e ff1a,ff1a ff3e,ff3e ff40,ff40 ff70,ff70 ff9e,ff9f
  ffe3,ffe3 fff9,fffb 101fd,101fd 102e0,102e0 10376,1037a 10780,10785 10787,107b0 107b2,107ba
  10a01,10a03 10a05,10a06 10a0c,10a0f 10a38,10a3a 10a3f,10a3f 10ae5,10ae6 10d24,10d27
  10eab,10eac 10f46,10f50 10f82,10f85 11001,11001 11038,11046 11070,11070 11073,11074
  1107f,11081 110b3,110b6 110b9,110ba 110bd,110bd 110c2,110c2 110cd,110cd 11100,11102
  11127,1112b 1112d,11134 11173,11173 11180,11181 111b6,111be 111c9,111cc 111cf,111cf
  1122f,11231 11234,11234 11236,11237 1123e,1123e 112df,112df 112e3,112ea 11300,11301
  1133b,1133c 11340,11340 11366,1136c 11370,11374 11438,1143f 11442,11444 11446,11446
  1145e,1145e 114b3,114b8 114ba,114ba 114bf,114c0 114c2,114c3 115b2,115b5 115bc,115bd
  115bf,115c0 115dc,115dd 11633,1163a 1163d,1163d 1163f,11640 116ab,116ab 116ad,116ad
  116b0,116b5 116b7,116b7 1171d,1171f 11722,11725 11727,1172b 1182f,11837 11839,1183a
  1193b,1193c 1193e,1193e 11943,11943 119d4,119d7 119da,119db 119e0,119e0 11a01,11a0a
  11a33,11a38 11a3b,11a3e 11a47,11a47 11a51,11a56 11a59,11a5b 11a8a,11a96 11a98,11a99
  11c30,11c36 11c38,11c3d 11c3f,11c3f 11c92,11ca7 11caa,11cb0 11cb2,11cb3 11cb5,11cb6
  11d31,11d36 11d3a,11d3a 11d3c,11d3d 11d3f,11d45 11d47,11d47 11d90,11d91 11d95,11d95
  11d97,11d97 11ef3,11ef4 13430,13438 16af0,16af4 16b30,16b36 16b40,16b43 16f4f,16f4f
  16f8f,16f9f 16fe0,16fe1 16fe3,16fe4 1aff0,1aff3 1aff5,1affb 1affd,1affe 1bc9d,1bc9e
  1bca0,1bca3 1cf00,1cf2d 1cf30,1cf46 1d167,1d169 1d173,1d182 1d185,1d18b 1d1aa,1d1ad
  1d242,1d244 1da00,1da36 1da3b,1da6c 1da75,1da75 1da84,1da84 1da9b,1da9f 1daa1,1daaf
  1e000,1e006 1e008,1e018 1e01b,1e021 1e023,1e024 1e026,1e02a 1e130,1e13d 1e2ae,1e2ae
  1e2ec,1e2ef 1e8d0,1e8d6 1e944,1e94b 1f3fb,1f3ff e0001,e0001 e0020,e007f e0100,e01ef"

/-- Groups of lower-case letters that share an upper case. -/
def siblingGroups : List (List Nat) := Table.rows
  "69,131 73,17f b5,3bc 345,3b9,1fbe 390,1fd3 3b0,1fe3 3b2,3d0 3b5,3f5 3b8,3d1 3ba,3f0 3c0,3d6
  3c1,3f1 3c2,3c3 3c6,3d5 432,1c80 434,1c81 43e,1c82 441,1c83 442,1c84,1c85 44a,1c86 463,1c87
  1c88,a64b 1e61,1e9b fb05,fb06"

/-! ### Single characters -/

/-- The upper case of one letter. -/
def upperLetters (c : Char) : List Char :=
  if c.toNat < 128 then [c.toUpper]
  else match Run.image? upperRuns c.toNat with
    | some n => [Char.ofNat n]
    | none => ((Expansion.image? upperRows c.toNat).map (·.map Char.ofNat)).getD [c]

/-- The lower case of a character as one character. -/
def simpleLower (c : Char) : Char :=
  if c.toNat < 128 then c.toLower
  else if c.toNat = 0x130 then 'i'
  else ((Run.image? lowerRuns c.toNat).map Char.ofNat).getD c

/-- The upper case of a character as one character: its first letter, if it has several. -/
def simpleUpper (c : Char) : Char := (upperLetters c).headD c

/-- Whether lower or upper case changes the character. -/
def isCased (c : Char) : Bool := simpleLower c != c || simpleUpper c != c

/-- The other lower-case letters with the same upper case. -/
def caseSiblings (c : Char) : List Char :=
  (siblingGroups.filter (·.contains c.toNat)).flatMap fun group =>
    (group.filter (· != c.toNat)).map Char.ofNat

/-! ### Whole texts -/

/-- Whether a letter of some case comes first, characters that do not matter set aside. -/
def leadsWithCased (cs : List Char) : Bool :=
  match cs.dropWhile fun c => Span.covers caseIgnorableRanges c.toNat with
  | [] => false
  | c :: _ => Span.covers casedRanges c.toNat

/-- The lower case of a text of which `before`, reversed, has been read. A sigma that ends a word
- a letter before it and none after it - takes its final form; a capital I with a dot keeps its
dot as a mark. -/
def lowerFrom (before : List Char) : List Char → List Char
  | [] => []
  | c :: rest =>
    let image :=
      if c.toNat < 128 then [c.toLower]
      else if c.toNat = 0x3A3 then
        [if leadsWithCased before && !leadsWithCased rest then 'ς' else 'σ']
      else if c.toNat = 0x130 then ['i', Char.ofNat 0x307]
      else [((Run.image? lowerRuns c.toNat).map Char.ofNat).getD c]
    image ++ lowerFrom (c :: before) rest

/-- The lower case of a text. -/
def lower (s : String) : String := String.ofList (lowerFrom [] s.toList)

/-- The upper case of a text. -/
def upper (s : String) : String := String.ofList (s.toList.flatMap upperLetters)

/-- The case folding of one letter. -/
def foldLetters (c : Char) : List Char :=
  if c.toNat < 128 then [c.toLower]
  else match Run.image? foldRuns c.toNat with
    | some n => [Char.ofNat n]
    | none => ((Expansion.image? foldRows c.toNat).map (·.map Char.ofNat)).getD [c]

/-- The case folding of a text. -/
def foldCase (s : String) : String := String.ofList (s.toList.flatMap foldLetters)

end DocView.Text
