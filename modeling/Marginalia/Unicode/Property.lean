import Marginalia.Unicode.CodePointSet

/-!
# Character properties that are not categories

Sets of the Unicode character database that a pattern may name.  Where a property is by definition a
union of categories with a few exceptions, only the exceptions are listed here; the union is formed
where the property is named.
-/

namespace Marginalia.Unicode.Property

/-- Letters in effect though not by category. -/
def otherAlphabetic : CodePointSet :=
  .decode
    ["345 1d+c 240+d 1 1+1 1+1 1 48+a 30+c 1+6 10 65+6 4+3 2+1 4 23 1e+f 66+a 65+1 3+8 1+2 1+3",
     "6a 3c+b 3+6 6+13 36+1 2+e 1+1 5+2 a+1 1d+2 3a+6 2+1 2+1 a a+1 1d+2 3a+4 4+1 2+1 4 1e+1 3",
     "b+2 3a+7 1+2 1+1 15+1 16+2 4+2 3a+6 2+1 2+1 9+1 a+1 1e 3b+4 3+2 1+2 a 28+4 39+6 1+2 1+2",
     "8+1 b+1 1d+2 3a+6 1+2 1+2 8+1 b+1 f c+3 3a+6 1+2 1+2 a a+1 1d+2 4b+5 1 1+7 12+1 3d 2+6 12",
     "63 2+5 1+1 10 a3+12 9+a 1+23 6e+b 1 2+3 17+3 4+2 1+2 2+6 3+3 d+b 1 a+3 674+1 1e+1 1e+1",
     "1e+1 42+12 bc+1 22 76+b 4+8 de+4 39+9 2+13 4a+1 b+2 31+4 30+e 3c+2 1e+8 2+1 39+a 32+12",
     "19c+21 6c1+33 8f6+1f 7874+7 22+1 162 8 17+4 58+1 32+f 1 39 26+4 1c+b 2d+3 30+b 25 43+d c",
     "8+1 2d+2 32 1+2 2+1 5 2c+4 5 ed+7 4f33 857+4 686+2 1+1 5+3 314+3 41 141+1 4f 103+2 35+d",
     "2d+1 b+2 2d+8 9 3d+2 24+b 12+1 39+2 30+c e+1 5c+8 2 6 2 9d+9 17+3 3a+6 2+1 2+1 a a+1 54+8",
     "1 2 1+3 1+1 67+c 1+2 6a+11 ed+6 2+6 1d+1 52+e 1 6a+a 67+d 101+c f7+5 1+1 2+1 3 1 8e+6 2+5",
     "4 1c+9 2a+4 1+3 12+a 2e+d 197+7 1+6 53+15 1+d 7a+5 3 1+1 1+2 1 3 42+4 1+1 1+3 15c+3 9+1 1",
     "30+6 3+2 41dd+10 e20 1+36 7+3 5d+1 4cac 2361+6 1+10 2+6 1+1 1+4 64 8b7 7e8+19 6+19 6+19"]

/-- Lower case in effect though not by category. -/
def otherLowercase : CodePointSet :=
  .decode
    ["aa f 1f5+8 7+1 1e+4 60 34 d81 c2f+3e d 22+24 2b1 d 10+c d3+f 350+19 792+1 7a1e+1 d2 81+2",
     "3+1 362+3 9 5c16 2+2 1+29 1+8 d875+3d"]

/-- Upper case in effect though not by category. -/
def otherUppercase : CodePointSet :=
  .decode
    ["2160+f 346+19 1cc60+19 6+19 6+19"]

/-- Used in mathematics though not a mathematical symbol by category. -/
def otherMath : CodePointSet :=
  .decode
    ["5e 371+2 2 1a+1 2+1 1c20 1b+2 b 20+3 18+1 e+1 41+c 4 3+1 4+4 12 4 2+9 1 3+4 6 3+1 2+1 1+2",
     "1+5 3+3 5+4 4b+4 2+3 1+1 1+1 1 1+4 2+1 4+1 4+11 2+1 1 1+6 1 6+1 122+3 a8+1 1 18 11 1bd+1",
     "c+8 5+4 5+1 2+1 3+4 e 1 2+5 18+1 39 1 1d+3 9+1 156+1 1f+9 193+15 3f+3 20+1 d463 1 4 d3 1",
     "d4c1+54 1+46 1+1 2 2+1 2+3 1+b 1 1+6 1+40 1+3 2+7 1+6 1+1b 1+3 1+4 1 3+6 1+153 2+18 1+18",
     "1+1e 1+18 1+1e 1+18 1+1e 1+18 1+1e 1+18 1+7 2+31 1600+3 1+1a 1+1 1 2 1+9 1+3 1 1 6 4 1 1",
     "1+2 1+1 1 2 1 1 1 1 1+1 1 2+3 1+6 1+3 1+3 1 1+9 1+10 5+2 1+4 1+10"]

/-- Extend a grapheme though not a mark by category. -/
def otherGraphemeExtend : CodePointSet :=
  .decode
    ["9be 18 166 18 66 18 e8 1 4+1 1+1 9+1 67 18 77 f 935 1e 400 5 1 5+1 65 47+1 418 1021+1 7923",
     "6c 55dd+1 1220 74 108 e 9 60 9 2 1+2 5 e0 c f1 106 279 c 603 50ae+1 6173+1 6+5 c2ead+5f"]

/-- Ignorable for case though not by category. -/
def otherIgnorable : CodePointSet :=
  .decode
    ["27 6 b 7c 2cf 1d7 94 1a23+1 a 2 ddeb 3e 2 b1 6 b"]

/-- Dashes though not by category. -/
def otherDash : CodePointSet :=
  .decode
    ["2053 27 f 186"]

/-- Start an identifier though not a letter by category. -/
def otherIdStart : CodePointSet :=
  .decode
    ["1885+1 891 15 f6c+1"]

/-- Letters by category that do not start an identifier. -/
def notIdStart : CodePointSet :=
  .decode
    ["2e2f"]

/-- Continue an identifier though not by category. -/
def otherIdContinue : CodePointSet :=
  .decode
    ["b7 2cf fe1+8 668 631+1 10a 15 f6c+1 5e ce69"]

/-- Start an identifier, but not one closed under normalisation. -/
def notXidStart : CodePointSet :=
  .decode
    ["37a ab8 7f 21e7+1 cbc1+5 196+1 74 1 1 1 1 1 1 1 11f+1"]

/-- Continue an identifier, but not one closed under normalisation. -/
def notXidContinue : CodePointSet :=
  .decode
    ["37a 2d20+1 cbc1+5 196+1 74 1 1 1 1 1 1 1"]

/-- ASCII hexadecimal digits. -/
def asciiHexDigit : CodePointSet :=
  .decode
    ["30+9 7+5 1a+5"]

/-- Controls of text direction. -/
def bidiControl : CodePointSet :=
  .decode
    ["61c 19f1+1 1a+4 37+3"]

/-- Mirrored in right-to-left text. -/
def bidiMirrored : CodePointSet :=
  .decode
    ["28+1 12 1 1c 1 1d 1 2d f e7e+3 75d+1 99c+1 a+1 36+1 e+1 b1 c0+3 3+5 3 3+1 3+3 1+3 1 1 4+8",
     "5 1+11 5+3 9+1 1 1+7 1+1f 2+3 5 9+1 2+12 5+1 9+4 2+1 4+17 2+f 8+3 14+1 7+1 43d+d 4a 2+3",
     "1+1 1+2 5+3 5+2 3+d 193+15 2+5 1+d 8 7+5 3 4+4 1+1 2+4 4 1+2 2+1 a+5 2+1 c+12 1+3 2 1 2",
     "1+3 5+1 6+2 18+1 b+1 4+3 1+1 2+1 4+2a 2+7 1+27 5 1 3+4 5+2 4 3+4 1 100 203+3 3+1 1+1 e+1",
     "2+9 2b+7 1ab+9 2+7 ce3d+5 5+1 a2+1 12 1 1c 1 1d 1 1+1 1+1 d777 39 39 39 39"]

/-- Ignored when they cannot be shown. -/
def defaultIgnorable : CodePointSet :=
  .decode
    ["ad 2a1 2cc b42+1 653+1 55+4 7fb+4 1a+4 31+f 10f4 cc9b+f ef a0 4f+8 bca7+3 14cf+7 c2e85+fff"]

/-- Deprecated. -/
def deprecated : CodePointSet :=
  .decode
    ["149 529 903 1 829+1 8c5+5 2b9+1 ddcd6"]

/-- Diacritics. -/
def diacritic : CodePointSet :=
  .decode
    ["5e 1 47 6 4 2+1 1f7+9e 1+7 5+5 11+1 4 9+1 fd+4 d1 37+2c 1 1+1 1+1 1 83+7 4+1 86+1 4+1 3+2",
     "43+1a 5b+a 3a+a 22+1 7e+7 29+9 10+1b 3d 10 3+3 1c 4a 10 6e 10 6e 10 2f+2 3c 10 7 77 6e 10",
     "6e 10 6d+1 10 7c 6f c+5 1 6b d+4 4b+1 1b 1 1 4+1 42+2 1+1 3e 70 1+1 28+1 4+4 19+6 1 a+1",
     "2c1+2 3b4+1 1e 94+a 9 15b+2 124 14+7 2 30+e 2+a 68 f 26+8 36+1 3a b+1 42+1 40+5 52+18 4 6",
     "2+2 32+3e 30+23 5+b 25+a 1bd 1+2 b+2 d+2 d+2 d+1 cf0+2 13d 1fa+5 69+3 5f 7572 c+1 1 1c+1",
     "52+1 e+21 66+2 6d+1 c 25 97 1b+11 39+3 24 5f c 24 95+2 41+3 33 64+4 9+2 80+1 4f30 301+f",
     "10e 1 2f 2d+1 43 2fc 49f+5 1+29 1+8 27d+2 4 a5+1 23b+5 26 1a+4 18f+2 46+a 31+3 c0 29 48+1",
     "78+1 3e 4c 9+2 68+1 b2+1 50+1 10 18+6 3+4 59+2 1+1 d+1 5f 3 7b+1 fb+1 7e 76+1 73 10d+1",
     "102+1 4 9c 53 12 51 1a5 102 1+1 51 1a9+1 17 14ec+e 2cd9 9c0+4 3b+6 234+1 222+10 50+1",
     "3ffe+3 1+6 1+1 1f01+2d 2+16 220+2 3+5 8+7 2+6 1e+3 e82+3d c2+6 177 3d+3 2fe+1 2e0+6 6d+2",
     "1+2"]

/-- Emoji. -/
def emoji : CodePointSet :=
  .decode
    ["23 6 5+9 6f 4 1f8d c d8 16 5a+5 f+1 16f+1 c a6 19+a 4+2 c7 e7+1 a 9 3a+3 1+4 9 2 2+1 2 4 2",
     "1+1 2 3 3+1 8+2 5 1 5+b b+1 2 1+1 1 12 2+1 12+5 1 1+1 3+1 5 2+1 4+1 b+1 5+1 2 5+1 1 1+1",
     "14+1 5+5 1+3 2 4 2 2+5 1 2 1 1 6 3 6 a+1 f 2 4 1 4+2 1 b+1 30+2 9 e e 174+1 1cf+2 13+1 33",
     "4 4da c 259 1 1bd6a ca a0+1 c+1 e 2+9 4b+19 1+1 17 14 2+8 15+1 ae+21 2+6f 2+1 1+2 2+52 2+2",
     "1+106 1+3e b+5 1+17 7+1 2+7 c 2+3 2 4+1 d+1 2 8+1 9 5+2 c+2 8+2 2 1 4 6 3 6+55 30+45 5+7",
     "2+2 4+9 3 1+1 3 2+9 e3+b 4 11b+2e 1+9 1+b8 70+c 3+9 5+37 7+e 2+a 6+8"]

/-- Parts of emoji sequences. -/
def emojiComponent : CodePointSet :=
  .decode
    ["23 6 5+9 1fd3 d5 dd2b f3d6+19 1fb+4 5b0+3 c066c+5f"]

/-- Emoji modifiers. -/
def emojiModifier : CodePointSet :=
  .decode
    ["1f3fb+4"]

/-- Bases of emoji modifiers. -/
def emojiModifierBase : CodePointSet :=
  .decode
    ["261d db 10+3 1cc77 3c+2 2 2+2 75+1 2+a 15+12 3 4+2 1+2 7 1 18 c9+1 4 15 4+1 ae+2 3+4 53",
     "10+2 9 b 23f 2 8+7 6 9+9 2+2 38 3d+1 1+1 1 11+2 1+c e5+2 2a+8"]

/-- Shown as emoji by default. -/
def emojiPresentation : CodePointSet :=
  .decode
    ["231a+1 cd+3 3 2 209+1 15+1 32+b 2b 13 d 8+1 11+1 5+1 8 5 15 7+1 1 4 2 7 4+1 1c 23 1 4+2 1",
     "3d+2 18 e 35b+1 33 4 1c4ae ca be 2+9 4b+19 1 18 14 2+4 1+2 15+1 ae+20 c+8 1+45 1+15 c+2a",
     "4+4 c+10 3 3+46 1 1+ba 2+3e d+3 1+17 12 1a+1 d 56+54 30+45 6 3+2 2+2 4+3 b+1 7+8 e3+b 4",
     "11b+2e 1+9 1+b8 70+c 3+9 5+37 7+e 2+a 6+8"]

/-- Pictographs. -/
def extendedPictographic : CodePointSet :=
  .decode
    ["a9 4 1f8d c d8 16 5a+5 f+1 16f+1 c a6 19+a 4+2 c7 e7+1 a 9 3a+3 1+4 9 2 2+1 2 4 2 1+1 2 3",
     "3+1 8+2 5 1 5+b b+1 2 1+1 1 12 2+1 12+5 1 1+1 3+1 5 2+1 4+1 b+1 5+1 2 5+1 1 1+1 14+1 5+5",
     "1+3 2 4 2 2+5 1 2 1 1 6 3 6 a+1 f 2 4 1 4+2 1 b+1 30+2 9 e e 174+1 1cf+2 13+1 33 4 4da c",
     "259 1 1bd6a 27+3 64+b f+1 f e+1 25+9 70+1 c+1 e 2+9 13+37 1b+e a 14 2+8 1+3 9+16 6+bb 2+6f",
     "2+1 1+2 2+52 2+2 1+3 5+fd 1+3e b+5 1+17 7+1 2+7 c 2+3 2 4+1 d+1 2 8+1 9 5+2 c+2 8+2 2 1 4",
     "6 3 6+55 30+45 5+7 2+2 1+c 3 1+5 2+c da+25 c+3 38+7 a+5 28+7 1e+1 c+3 2+d 9+26 c+2e 1+9",
     "1+b8 58+7 e+1b 1+2 1+38 1+3 1+1b 1+3 1+f 100+3fd"]

/-- Extend the preceding letter. -/
def extender : CodePointSet :=
  .decode
    ["b7 218+1 36e 1b9 276 89 59 2f0 7f 943 38 263 18e 44 1389 2b+4 67+1 5d+2 6f16 5f6 3c2 16 89",
     "6c 15+1 547b 810+1 5cb 1b 4 4c7 125 74+1 1f2+2 4cf 50a9+1 49c+1 1 7158+1 4b1 354+2"]

/-- Hexadecimal digits. -/
def hexDigit : CodePointSet :=
  .decode
    ["30+9 7+5 1a+5 fea9+9 7+5 1a+5"]

/-- Binary operators of ideographic description. -/
def idsBinary : CodePointSet :=
  .decode
    ["2ff0+1 2+9 1f1"]

/-- Trinary operators of ideographic description. -/
def idsTrinary : CodePointSet :=
  .decode
    ["2ff2+1"]

/-- Ideographs. -/
def ideographic : CodePointSet :=
  .decode
    ["3006+1 19+8 e+2 3c5+19bf 40+51ff 5900+16d 2+69 750a 1b+17f7 8+4d5 2a+8 2467+18b 4d04+a6df",
     "20+1039 6+dd 2+1681 e+1d30 f+26d 9a2+21d 5e2+134a 5+105f"]

/-- Controls of joining. -/
def joinControl : CodePointSet :=
  .decode
    ["200c+1"]

/-- Stored after the letter they precede. -/
def logicalOrderException : CodePointSet :=
  .decode
    ["e40+4 7b+4 af0+2 2 90fa+1 2 1+1"]

/-- Never assigned. -/
def noncharacter : CodePointSet :=
  .decode
    ["fdd0+1f 20e+1 fffe+1 fffe+1 fffe+1 fffe+1 fffe+1 fffe+1 fffe+1 fffe+1 fffe+1 fffe+1 fffe+1",
     "fffe+1 fffe+1 fffe+1 fffe+1 fffe+1"]

/-- Reserved for the grammar of patterns. -/
def patternSyntax : CodePointSet :=
  .decode
    ["21+e a+6 1a+3 1 1a+3 22+6 1 1+1 1 1+1 4 4 3 17 1f 1f18+17 8+e 2+12 1+9 131+2cf a0+275",
     "1e+401 1+68 200+7f 181+2 4+18 f cd0d+1 105+1"]

/-- White space in the grammar of patterns. -/
def patternWhiteSpace : CodePointSet :=
  .decode
    ["9+4 12 64 1f88+1 18+1"]

/-- Quotation marks. -/
def quotationMark : CodePointSet :=
  .decode
    ["22 4 83 f 1f5c+7 19+1 e07 1c9+3 d+2 ce21+3 bd 4 5a+1"]

/-- Radicals of ideographs. -/
def radical : CodePointSet :=
  .decode
    ["2e80+19 1+58 c+d5"]

/-- Regional indicators. -/
def regionalIndicator : CodePointSet :=
  .decode
    ["1f1e6+19"]

/-- End a sentence. -/
def sentenceTerminal : CodePointSet :=
  .decode
    ["21 c 10 549 93+2 b4 2b+2 f6 3d 1 3+1 125+1 6e4+1 316 4+1 305 c6+1 9d+1 2d 5 13a+1 162+3",
     "a2+1 a+1 2+1 1d+2 bb+1 41+1 3a4 17+1 9+2 caf+2 132 d 16+1 1ad 74fc 10e+1 e3 3 17e+1 56+1",
     "5f 98+1 93+2 90+1 f9 5226 2+1 3b 3+1 a9 c 10 41 af4+1 4fd+4 2c+3 bd+1 75+3 7f+2 81+1 6",
     "10+1 58+1 1+1 6c 12a+1 75+1 175+1 5+e 69+1 f9+2 205 1 fb+1 57+1 1a4+1 2b4+1 4a+1 4b29+1 85",
     "41+1 b 229+1 128 4e06 1de8"]

/-- Lose their dot under an accent. -/
def softDotted : CodePointSet :=
  .decode
    ["69+1 c4 119 1e 34 14 140 62 1 1909 33 d 3 84 9d 1a5 d6+1 b32 1a7a5+1 32+1 32+1 32+1 32+1",
     "32+1 32+1 32+1 32+1 32+1 32+1 32+1 32+1 886 131+1 1a"]

/-- End a phrase. -/
def terminalPunctuation : CodePointSet :=
  .decode
    ["21 a 1 b+1 3 33e 8 201 39 48 e 1+2 b4 2b+a 1 eb+1 36+5 1+7 1f 105+1 4f4+1 ac 4+5 137+1",
     "315+7 305 7c+2 47+1 9d+2 3 27+3 2+1 13a+1 162+3 a2+1 a+1 1+2 1d+2 bb+4 3e+1 3a4 17+1 9+2",
     "caf+2 132 d 4 a 1+1 3+1 1ac+1 74fb+1 10d+2 e3+4 17e+1 56+1 5f 97+2 93+2 7f 10+1 f9 5226",
     "2+1 39+2 1+3 a9 a 1 b+1 3 41 2 43a 30 486 c7 136+1 98+5 44+5 59+3 3b8+4 2c+3 bd+6 70+3",
     "7f+2 81+1 6 10+1 58+4 6c 12a+1 75+2 c+1 166+3 3+e 69+1 f9+2 205 1 fb+1 57+1 4+1 19e+2 2d",
     "285+1 4a+1 52b+4 45f9+1 85 41+2 a 229+1 127+1 4e06 1de7+3"]

/-- Unified ideographs. -/
def unifiedIdeograph : CodePointSet :=
  .decode
    ["3400+19bf 40+51ff 5a0e+1 1 1+1 a 1 1+1 2+2 105d6+a6df 20+1039 6+dd 2+1681 e+1d30 f+26d",
     "11a2+134a 5+105f"]

/-- Variation selectors. -/
def variationSelector : CodePointSet :=
  .decode
    ["180b+2 1 e5f0+f d02f0+ef"]

end Marginalia.Unicode.Property
