import DocView.Text.Digit
import DocView.Text.Letter

/-!
# Identifiers

An identifier starts with a letter or an underscore and goes on with letters, digits, underscores
and marks. The classes of characters are those of Unicode 14, which are not quite letters and
numbers: most numerals other than digits are in no identifier, a few letters are in none or do not
start one, and a few signs do.

## Main definitions

* `Text.isIdentifier`
-/

namespace DocView.Text

/-- The letters and numbers outside ASCII that are in no identifier. -/
def foreignRanges : Array Span := Table.spans
  "b2,b3 b9,b9 bc,be 37a,37a 9f4,9f9 b72,b77 bf0,bf2 c78,c7e d58,d5e d70,d78 f2a,f33 1372,137c
  17f0,17f9 2070,2070 2074,2079 2080,2089 2150,215f 2189,2189 2460,249b 24ea,24ff 2776,2793
  2cfd,2cfd 2e2f,2e2f 3192,3195 3220,3229 3248,324f 3251,325f 3280,3289 32b1,32bf a830,a835
  fc5e,fc63 fdfa,fdfb fe70,fe70 fe72,fe72 fe74,fe74 fe76,fe76 fe78,fe78 fe7a,fe7a fe7c,fe7c
  fe7e,fe7e 10107,10133 10175,10178 1018a,1018b 102e1,102fb 10320,10323 10858,1085f 10879,1087f
  108a7,108af 108fb,108ff 10916,1091b 109bc,109bd 109c0,109cf 109d2,109ff 10a40,10a48 10a7d,10a7e
  10a9d,10a9f 10aeb,10aef 10b58,10b5f 10b78,10b7f 10ba9,10baf 10cfa,10cff 10e60,10e7e 10f1d,10f26
  10f51,10f54 10fc5,10fcb 11052,11065 111e1,111f4 1173a,1173b 118ea,118f2 11c5a,11c6c 11fc0,11fd4
  16b5b,16b61 16e80,16e96 1d2e0,1d2f3 1d360,1d378 1e8c7,1e8cf 1ec71,1ecab 1ecad,1ecaf 1ecb1,1ecb4
  1ed01,1ed2d 1ed2f,1ed3d 1f100,1f10c"

/-- The characters outside ASCII that are in identifiers and are neither letters nor numbers. -/
def joiningRanges : Array Span := Table.spans
  "b7,b7 300,36f 387,387 483,487 591,5bd 5bf,5bf 5c1,5c2 5c4,5c5 5c7,5c7 610,61a 64b,65f 670,670
  6d6,6dc 6df,6e4 6e7,6e8 6ea,6ed 711,711 730,74a 7a6,7b0 7eb,7f3 7fd,7fd 816,819 81b,823 825,827
  829,82d 859,85b 898,89f 8ca,8e1 8e3,903 93a,93c 93e,94f 951,957 962,963 981,983 9bc,9bc 9be,9c4
  9c7,9c8 9cb,9cd 9d7,9d7 9e2,9e3 9fe,9fe a01,a03 a3c,a3c a3e,a42 a47,a48 a4b,a4d a51,a51 a70,a71
  a75,a75 a81,a83 abc,abc abe,ac5 ac7,ac9 acb,acd ae2,ae3 afa,aff b01,b03 b3c,b3c b3e,b44 b47,b48
  b4b,b4d b55,b57 b62,b63 b82,b82 bbe,bc2 bc6,bc8 bca,bcd bd7,bd7 c00,c04 c3c,c3c c3e,c44 c46,c48
  c4a,c4d c55,c56 c62,c63 c81,c83 cbc,cbc cbe,cc4 cc6,cc8 cca,ccd cd5,cd6 ce2,ce3 d00,d03 d3b,d3c
  d3e,d44 d46,d48 d4a,d4d d57,d57 d62,d63 d81,d83 dca,dca dcf,dd4 dd6,dd6 dd8,ddf df2,df3 e31,e31
  e34,e3a e47,e4e eb1,eb1 eb4,ebc ec8,ecd f18,f19 f35,f35 f37,f37 f39,f39 f3e,f3f f71,f84 f86,f87
  f8d,f97 f99,fbc fc6,fc6 102b,103e 1056,1059 105e,1060 1062,1064 1067,106d 1071,1074 1082,108d
  108f,108f 109a,109d 135d,135f 1712,1715 1732,1734 1752,1753 1772,1773 17b4,17d3 17dd,17dd
  180b,180d 180f,180f 1885,1886 18a9,18a9 1920,192b 1930,193b 1a17,1a1b 1a55,1a5e 1a60,1a7c
  1a7f,1a7f 1ab0,1abd 1abf,1ace 1b00,1b04 1b34,1b44 1b6b,1b73 1b80,1b82 1ba1,1bad 1be6,1bf3
  1c24,1c37 1cd0,1cd2 1cd4,1ce8 1ced,1ced 1cf4,1cf4 1cf7,1cf9 1dc0,1dff 203f,2040 2054,2054
  20d0,20dc 20e1,20e1 20e5,20f0 2118,2118 212e,212e 2cef,2cf1 2d7f,2d7f 2de0,2dff 302a,302f
  3099,309a a66f,a66f a674,a67d a69e,a69f a6f0,a6f1 a802,a802 a806,a806 a80b,a80b a823,a827
  a82c,a82c a880,a881 a8b4,a8c5 a8e0,a8f1 a8ff,a8ff a926,a92d a947,a953 a980,a983 a9b3,a9c0
  a9e5,a9e5 aa29,aa36 aa43,aa43 aa4c,aa4d aa7b,aa7d aab0,aab0 aab2,aab4 aab7,aab8 aabe,aabf
  aac1,aac1 aaeb,aaef aaf5,aaf6 abe3,abea abec,abed fb1e,fb1e fe00,fe0f fe20,fe2f fe33,fe34
  fe4d,fe4f ff3f,ff3f 101fd,101fd 102e0,102e0 10376,1037a 10a01,10a03 10a05,10a06 10a0c,10a0f
  10a38,10a3a 10a3f,10a3f 10ae5,10ae6 10d24,10d27 10eab,10eac 10f46,10f50 10f82,10f85 11000,11002
  11038,11046 11070,11070 11073,11074 1107f,11082 110b0,110ba 110c2,110c2 11100,11102 11127,11134
  11145,11146 11173,11173 11180,11182 111b3,111c0 111c9,111cc 111ce,111cf 1122c,11237 1123e,1123e
  112df,112ea 11300,11303 1133b,1133c 1133e,11344 11347,11348 1134b,1134d 11357,11357 11362,11363
  11366,1136c 11370,11374 11435,11446 1145e,1145e 114b0,114c3 115af,115b5 115b8,115c0 115dc,115dd
  11630,11640 116ab,116b7 1171d,1172b 1182c,1183a 11930,11935 11937,11938 1193b,1193e 11940,11940
  11942,11943 119d1,119d7 119da,119e0 119e4,119e4 11a01,11a0a 11a33,11a39 11a3b,11a3e 11a47,11a47
  11a51,11a5b 11a8a,11a99 11c2f,11c36 11c38,11c3f 11c92,11ca7 11ca9,11cb6 11d31,11d36 11d3a,11d3a
  11d3c,11d3d 11d3f,11d45 11d47,11d47 11d8a,11d8e 11d90,11d91 11d93,11d97 11ef3,11ef6 16af0,16af4
  16b30,16b36 16f4f,16f4f 16f51,16f87 16f8f,16f92 16fe4,16fe4 16ff0,16ff1 1bc9d,1bc9e 1cf00,1cf2d
  1cf30,1cf46 1d165,1d169 1d16d,1d172 1d17b,1d182 1d185,1d18b 1d1aa,1d1ad 1d242,1d244 1da00,1da36
  1da3b,1da6c 1da75,1da75 1da84,1da84 1da9b,1da9f 1daa1,1daaf 1e000,1e006 1e008,1e018 1e01b,1e021
  1e023,1e024 1e026,1e02a 1e130,1e136 1e2ae,1e2ae 1e2ec,1e2ef 1e8d0,1e8d6 1e944,1e94a e0100,e01ef"

/-- The signs outside ASCII that start identifiers although they are no letters. -/
def leadingSigns : List Nat := [0x1885, 0x1886, 0x2118, 0x212E]

/-- The letters and numerals that do not start identifiers although they are no digits. -/
def trailingRanges : Array Span := Table.spans "e33,e33 eb3,eb3 1369,1371 19da,19da ff9e,ff9f"

/-- Whether a character goes on an identifier. -/
def continuesIdentifier (c : Char) : Bool :=
  if c.toNat < 128 then c.isAlphanum || c == '_'
  else Span.covers joiningRanges c.toNat
    || (isLetterOrNumber c && !Span.covers foreignRanges c.toNat)

/-- Whether a character starts an identifier. -/
def startsIdentifier (c : Char) : Bool :=
  if c.toNat < 128 then c.isAlpha || c == '_'
  else leadingSigns.contains c.toNat
    || (isLetterOrNumber c && !isDigit c && !Span.covers foreignRanges c.toNat
      && !Span.covers trailingRanges c.toNat)

/-- Whether a text is an identifier. -/
def isIdentifier : List Char → Bool
  | [] => false
  | c :: rest => startsIdentifier c && rest.all continuesIdentifier

end DocView.Text
