import Marginalia.Unicode.CodePointSet

/-!
# Scripts

The scripts of the Unicode character database, each with its four-letter code, its long name, the
characters of the script, and the further characters that are used with it (together these are the
script's extension).
-/

namespace Marginalia.Unicode

/-- A script: its names, its characters, and how its extension differs from them. -/
structure Script where
  names : List String
  members : CodePointSet
  extended : CodePointSet
  shared : CodePointSet

namespace Script

/-- Adlam. -/
def adlamScript : Script where
  names := ["adlm", "adlam"]
  members := .decode
    ["1e900+4b 4+9 4+1"]
  extended := .decode
    ["61f 20 1a0e df1"]
  shared := .empty

/-- Caucasian Albanian. -/
def caucasianAlbanianScript : Script where
  names := ["aghb", "caucasianalbanian"]
  members := .decode
    ["10530+33 b"]
  extended := .decode
    ["304 2c 2c"]
  shared := .empty

/-- Ahom. -/
def ahomScript : Script where
  names := ["ahom"]
  members := .decode
    ["11700+1a 2+e 4+16"]
  extended := .empty
  shared := .empty

/-- Arabic. -/
def arabicScript : Script where
  names := ["arab", "arabic"]
  members := .decode
    ["600+4 1+5 1+d 1+2 1+1f 1+9 b+19 1+6b 1+21 50+2f f0+1e 1+1 5+4a 1+1c f250+72 10+16a 2+4f",
     "2+35 7 20+f 70+4 1+86 f63+1e 43+2 37+3 df00+3 1+1a 1+1 1 2 1+9 1+3 1 1 6 4 1 1 1+2 1+1 1 2",
     "1 1 1 1 1+1 1 2+3 1+6 1+3 1+3 1 1+9 1+10 5+2 1+4 1+10 34+1"]
  extended := .decode
    ["60c e 3 20 a+a 1a 19de df1 cefc+1 5a0+1b"]
  shared := .empty

/-- Imperial Aramaic. -/
def imperialAramaicScript : Script where
  names := ["armi", "imperialaramaic"]
  members := .decode
    ["10840+15 1+8"]
  extended := .empty
  shared := .empty

/-- Armenian. -/
def armenianScript : Script where
  names := ["armn", "armenian"]
  members := .decode
    ["531+25 2+31 2+2 f583+4"]
  extended := .decode
    ["308"]
  shared := .empty

/-- Avestan. -/
def avestanScript : Script where
  names := ["avst", "avestan"]
  members := .decode
    ["10b00+35 3+6"]
  extended := .decode
    ["b7 2d78+1"]
  shared := .empty

/-- Balinese. -/
def balineseScript : Script where
  names := ["bali", "balinese"]
  members := .decode
    ["1b00+4c 1+31"]
  extended := .empty
  shared := .empty

/-- Bamum. -/
def bamumScript : Script where
  names := ["bamu", "bamum"]
  members := .decode
    ["a6a0+57 c108+238"]
  extended := .empty
  shared := .empty

/-- Bassa Vah. -/
def bassaVahScript : Script where
  names := ["bass", "bassavah"]
  members := .decode
    ["16ad0+1d 2+5"]
  extended := .empty
  shared := .empty

/-- Batak. -/
def batakScript : Script where
  names := ["batk", "batak"]
  members := .decode
    ["1bc0+33 8+3"]
  extended := .empty
  shared := .empty

/-- Bengali. -/
def bengaliScript : Script where
  names := ["beng", "bengali"]
  members := .decode
    ["980+3 1+7 2+1 2+15 1+6 1 3+3 2+8 2+1 2+3 8 4+1 1+4 2+18"]
  extended := .decode
    ["2bc 694+1 11+1 136a 1 2+1 1 8 8 2 4 2+2 8bf9"]
  shared := .empty

/-- Bhaiksuki. -/
def bhaiksukiScript : Script where
  names := ["bhks", "bhaiksuki"]
  members := .decode
    ["11c00+8 1+2c 1+d a+1c"]
  extended := .empty
  shared := .empty

/-- Bopomofo. -/
def bopomofoScript : Script where
  names := ["bopo", "bopomofo"]
  members := .decode
    ["2ea+1 2e19+2a 70+1f"]
  extended := .decode
    ["2c7 1+2 d 2d27+2 4+9 1+c a+3 2 6 c3 cd49+1 11a+4"]
  shared := .empty

/-- Brahmi. -/
def brahmiScript : Script where
  names := ["brah", "brahmi"]
  members := .decode
    ["11000+4d 4+23 9"]
  extended := .empty
  shared := .empty

/-- Braille. -/
def brailleScript : Script where
  names := ["brai", "braille"]
  members := .decode
    ["2800+ff"]
  extended := .empty
  shared := .empty

/-- Buginese. -/
def bugineseScript : Script where
  names := ["bugi", "buginese"]
  members := .decode
    ["1a00+1b 2+1"]
  extended := .decode
    ["a9cf"]
  shared := .empty

/-- Buhid. -/
def buhidScript : Script where
  names := ["buhd", "buhid"]
  members := .decode
    ["1740+13"]
  extended := .decode
    ["1735+1"]
  shared := .empty

/-- Chakma. -/
def chakmaScript : Script where
  names := ["cakm", "chakma"]
  members := .decode
    ["11100+34 1+11"]
  extended := .decode
    ["9e6+9 650+9"]
  shared := .empty

/-- Canadian Aboriginal. -/
def canadianAboriginalScript : Script where
  names := ["cans", "canadianaboriginal"]
  members := .decode
    ["1400+27f 230+45 101ba+f"]
  extended := .empty
  shared := .empty

/-- Carian. -/
def carianScript : Script where
  names := ["cari", "carian"]
  members := .decode
    ["102a0+30"]
  extended := .decode
    ["b7 1fa2 2 dd3"]
  shared := .empty

/-- Cham. -/
def chamScript : Script where
  names := ["cham"]
  members := .decode
    ["aa00+36 9+d 2+9 2+3"]
  extended := .empty
  shared := .empty

/-- Cherokee. -/
def cherokeeScript : Script where
  names := ["cher", "cherokee"]
  members := .decode
    ["13a0+55 2+5 9772+4f"]
  extended := .decode
    ["300+2 1 6+1 16+1 b+1"]
  shared := .empty

/-- Chorasmian. -/
def chorasmianScript : Script where
  names := ["chrs", "chorasmian"]
  members := .decode
    ["10fb0+1b"]
  extended := .empty
  shared := .empty

/-- Coptic. -/
def copticScript : Script where
  names := ["copt", "coptic", "qaac"]
  members := .decode
    ["3e2+d 2890+73 5+6"]
  extended := .decode
    ["b7 248 3+1 1 6c+1 2aa1 d4c8+1b"]
  shared := .empty

/-- Cypro Minoan. -/
def cyproMinoanScript : Script where
  names := ["cpmn", "cyprominoan"]
  members := .decode
    ["12f90+62"]
  extended := .decode
    ["10100+1"]
  shared := .empty

/-- Cypriot. -/
def cypriotScript : Script where
  names := ["cprt", "cypriot"]
  members := .decode
    ["10800+5 2 1+2b 1+1 3 2"]
  extended := .decode
    ["10100+2 4+2c 3+8"]
  shared := .empty

/-- Cyrillic. -/
def cyrillicScript : Script where
  names := ["cyrl", "cyrillic"]
  members := .decode
    ["400+84 2+a8 1750+a a0 4c 1067+1f 7840+5f 578e+1 e200+3d 21"]
  extended := .decode
    ["2bc 43+2 1 1 1 2 5 173+1 1971 104a"]
  shared := .empty

/-- Devanagari. -/
def devanagariScript : Script where
  names := ["deva", "devanagari"]
  members := .decode
    ["900+50 4+e 2+19 9f60+1f 7200+9"]
  extended := .decode
    ["2bc 694+1 11+1 136a+26 1+1 3f6 873f+9"]
  shared := .empty

/-- Dives Akuru. -/
def divesAkuruScript : Script where
  names := ["diak", "divesakuru"]
  members := .decode
    ["11900+6 2 2+7 1+1 1+1d 1+1 2+b 9+9"]
  extended := .empty
  shared := .empty

/-- Dogra. -/
def dograScript : Script where
  names := ["dogr", "dogra"]
  members := .decode
    ["11800+3b"]
  extended := .decode
    ["964+b 9ec0+9"]
  shared := .empty

/-- Deseret. -/
def deseretScript : Script where
  names := ["dsrt", "deseret"]
  members := .decode
    ["10400+4f"]
  extended := .empty
  shared := .empty

/-- Duployan. -/
def duployanScript : Script where
  names := ["dupl", "duployan"]
  members := .decode
    ["1bc00+6a 5+c 3+8 7+9 2+3"]
  extended := .decode
    ["b7 24f+1 1 18+1 2b17 18e63+3"]
  shared := .empty

/-- Egyptian Hieroglyphs. -/
def egyptianHieroglyphsScript : Script where
  names := ["egyp", "egyptianhieroglyphs"]
  members := .decode
    ["13000+455 a+f9a"]
  extended := .empty
  shared := .empty

/-- Elbasan. -/
def elbasanScript : Script where
  names := ["elba", "elbasan"]
  members := .decode
    ["10500+27"]
  extended := .decode
    ["b7 24d"]
  shared := .empty

/-- Elymaic. -/
def elymaicScript : Script where
  names := ["elym", "elymaic"]
  members := .decode
    ["10fe0+16"]
  extended := .empty
  shared := .empty

/-- Ethiopic. -/
def ethiopicScript : Script where
  names := ["ethi", "ethiopic"]
  members := .decode
    ["1200+48 1+3 2+6 1 1+3 2+28 1+3 2+20 1+3 2+6 1 1+3 2+e 1+38 1+3 2+42 2+1f 3+19 19e6+16 9+6",
     "1+6 1+6 1+6 1+6 1+6 1+6 1+6 7d22+5 2+5 2+5 9+6 1+6 13cb1+6 1+3 1+1 1+e"]
  extended := .decode
    ["30e"]
  shared := .empty

/-- Georgian. -/
def georgianScript : Script where
  names := ["geor", "georgian"]
  members := .decode
    ["10a0+25 1 5 2+2a 1+3 b90+2a 2+2 1040+25 1 5"]
  extended := .decode
    ["b7 4d1 b71 f5e dd6"]
  shared := .empty

/-- Glagolitic. -/
def glagoliticScript : Script where
  names := ["glag", "glagolitic"]
  members := .decode
    ["2c00+5f 1b3a0+6 1+10 2+6 1+1 1+4"]
  extended := .decode
    ["b7 24b 1 17e 2 101 b71 f5e de8 782b"]
  shared := .empty

/-- Gunjala Gondi. -/
def gunjalaGondiScript : Script where
  names := ["gong", "gunjalagondi"]
  members := .decode
    ["11d60+5 1+1 1+24 1+1 1+5 7+9"]
  extended := .decode
    ["b7 8ac+1"]
  shared := .empty

/-- Masaram Gondi. -/
def masaramGondiScript : Script where
  names := ["gonm", "masaramgondi"]
  members := .decode
    ["11d00+6 1+1 1+2b 3 1+1 1+8 8+9"]
  extended := .decode
    ["964+1"]
  shared := .empty

/-- Gothic. -/
def gothicScript : Script where
  names := ["goth", "gothic"]
  members := .decode
    ["10330+1a"]
  extended := .decode
    ["b7 24c+1 2 28"]
  shared := .empty

/-- Grantha. -/
def granthaScript : Script where
  names := ["gran", "grantha"]
  members := .decode
    ["11300+3 1+7 2+1 2+15 1+6 1+1 1+4 2+8 2+1 2+2 2 6 5+6 2+6 3+4"]
  extended := .decode
    ["951+1 11+1 280+d 10dc 1+1 1e+2 3+1 3f6 f24a c94+1 1"]
  shared := .empty

/-- Greek. -/
def greekScript : Script where
  names := ["grek", "greek"]
  members := .decode
    ["370+3 1+2 2+3 1 4 1 1+2 1 1+13 1+3e e+f 1926+4 32+4 4+4 54 140+15 2+5 2+25 2+5 2+7 1 1 1",
     "1+1e 2+34 1+e 1+d 2+5 1+12 2+2 1+8 127 8a3e 55da+4e 11 d05f+45"]
  extended := .decode
    ["b7 248+1 2 1 1 a 2e 2 2e 1a4b+1 29b"]
  shared := .empty

/-- Gujarati. -/
def gujaratiScript : Script where
  names := ["gujr", "gujarati"]
  members := .decode
    ["a81+2 1+8 1+2 1+15 1+6 1+1 1+4 2+9 1+2 1+2 2 f+3 2+b 7+6"]
  extended := .decode
    ["951+1 11+1 9eca+9"]
  shared := .empty

/-- Gurmukhi. -/
def gurmukhiScript : Script where
  names := ["guru", "gurmukhi"]
  members := .decode
    ["a01+2 1+5 4+1 2+15 1+6 1+1 1+1 1+1 2 1+4 4+1 2+2 3 7+3 1 7+10"]
  extended := .decode
    ["951+1 11+1 9eca+9"]
  shared := .empty

/-- Hangul. -/
def hangulScript : Script where
  names := ["hang", "hangul"]
  members := .decode
    ["1100+ff 1e2e+1 101+5d 71+1e 41+1e 76e1+1c 283+2ba3 c+16 4+30 27a4+1e 3+5 2+5 2+5 2+2"]
  extended := .decode
    ["3001+2 4+9 1+c 10 6 c3 cd49+1 11a+4"]
  shared := .empty

/-- Han. -/
def hanScript : Script where
  names := ["hani", "han"]
  members := .decode
    ["2e80+19 1+58 c+d5 2f 1 19+8 e+3 3c4+19bf 40+51ff 5900+16d 2+69 7508+1 c+1 900e+a6df",
     "20+1039 6+dd 2+1681 e+1d30 f+26d 9a2+21d 5e2+134a 5+105f"]
  extended := .decode
    ["b7 2f38+f 1+2 2 1+9 1+c a+3 2 6 4+3 bb 94+f 20+25 9 30+27 38+30 f+b 33 58+18 a+4 60+1e",
     "7301+7 573d+1 11a+4 d3fa+11 1ede+1"]
  shared := .empty

/-- Hanunoo. -/
def hanunooScript : Script where
  names := ["hano", "hanunoo"]
  members := .decode
    ["1720+14"]
  extended := .decode
    ["1735+1"]
  shared := .empty

/-- Hatran. -/
def hatranScript : Script where
  names := ["hatr", "hatran"]
  members := .decode
    ["108e0+12 1+1 5+4"]
  extended := .empty
  shared := .empty

/-- Hebrew. -/
def hebrewScript : Script where
  names := ["hebr", "hebrew"]
  members := .decode
    ["591+36 8+1a 4+5 f528+19 1+4 1 1+1 1+1 1+9"]
  extended := .decode
    ["307+1"]
  shared := .empty

/-- Hiragana. -/
def hiraganaScript : Script where
  names := ["hira", "hiragana"]
  members := .decode
    ["3041+55 6+2 17f61+11e 12 1d+2 40ad"]
  extended := .decode
    ["3001+2 4+9 1+c 10+5 1 4+1 5b+3 3 5a+1 cd48+1 11a+4 a 2d+1"]
  shared := .empty

/-- Anatolian Hieroglyphs. -/
def anatolianHieroglyphsScript : Script where
  names := ["hluw", "anatolianhieroglyphs"]
  members := .decode
    ["14400+246"]
  extended := .empty
  shared := .empty

/-- Pahawh Hmong. -/
def pahawhHmongScript : Script where
  names := ["hmng", "pahawhhmong"]
  members := .decode
    ["16b00+45 a+9 1+6 1+14 5+12"]
  extended := .empty
  shared := .empty

/-- Nyiakeng Puachue Hmong. -/
def nyiakengPuachueHmongScript : Script where
  names := ["hmnp", "nyiakengpuachuehmong"]
  members := .decode
    ["1e100+2c 3+d 2+9 4+1"]
  extended := .empty
  shared := .empty

/-- Old Hungarian. -/
def oldHungarianScript : Script where
  names := ["hung", "oldhungarian"]
  members := .decode
    ["10c80+32 d+32 7+5"]
  extended := .decode
    ["205a 2 dd3 f"]
  shared := .empty

/-- Old Italic. -/
def oldItalicScript : Script where
  names := ["ital", "olditalic"]
  members := .decode
    ["10300+23 9+2"]
  extended := .empty
  shared := .empty

/-- Javanese. -/
def javaneseScript : Script where
  names := ["java", "javanese"]
  members := .decode
    ["a980+4d 2+9 4+1"]
  extended := .decode
    ["a9cf"]
  shared := .empty

/-- Kayah Li. -/
def kayahLiScript : Script where
  names := ["kali", "kayahli"]
  members := .decode
    ["a900+2d 1"]
  extended := .decode
    ["a92e"]
  shared := .empty

/-- Katakana. -/
def katakanaScript : Script where
  names := ["kana", "katakana"]
  members := .decode
    ["30a1+59 2+2 f0+f d0+2e 1+57 cc0e+9 1+2c b052+3 1+6 1+1 1 11f+2 32 e+3"]
  extended := .decode
    ["305 1d 2cdd+2 4+9 1+c 10+5 1 4+1 5b+3 3 5a+1 cd48+1 11a+4 a 2d+1"]
  shared := .empty

/-- Kawi. -/
def kawiScript : Script where
  names := ["kawi"]
  members := .decode
    ["11f00+10 1+28 3+1c"]
  extended := .empty
  shared := .empty

/-- Kharoshthi. -/
def kharoshthiScript : Script where
  names := ["khar", "kharoshthi"]
  members := .decode
    ["10a00+3 1+1 5+7 1+2 1+1c 2+2 4+9 7+8"]
  extended := .empty
  shared := .empty

/-- Khmer. -/
def khmerScript : Script where
  names := ["khmr", "khmer"]
  members := .decode
    ["1780+5d 2+9 6+9 1e6+1f"]
  extended := .empty
  shared := .empty

/-- Khojki. -/
def khojkiScript : Script where
  names := ["khoj", "khojki"]
  members := .decode
    ["11200+11 1+2e"]
  extended := .decode
    ["ae6+9 9d40+9"]
  shared := .empty

/-- Khitan Small Script. -/
def khitanSmallScriptScript : Script where
  names := ["kits", "khitansmallscript"]
  members := .decode
    ["16fe4 1b1b+1d5"]
  extended := .empty
  shared := .empty

/-- Kannada. -/
def kannadaScript : Script where
  names := ["knda", "kannada"]
  members := .decode
    ["c80+c 1+2 1+16 1+9 1+4 2+8 1+2 1+3 7+1 6+1 1+3 2+9 1+2"]
  extended := .decode
    ["951+1 11+1 136a 1+1 6 17 1 8b3b+5"]
  shared := .empty

/-- Kaithi. -/
def kaithiScript : Script where
  names := ["kthi", "kaithi"]
  members := .decode
    ["11080+42 a"]
  extended := .decode
    ["966+9 24c1 79fe+9"]
  shared := .empty

/-- Tai Tham. -/
def taiThamScript : Script where
  names := ["lana", "taitham"]
  members := .decode
    ["1a20+3e 1+1c 2+a 6+9 6+d"]
  extended := .empty
  shared := .empty

/-- Lao. -/
def laoScript : Script where
  names := ["laoo", "lao"]
  members := .decode
    ["e81+1 1 1+4 1+17 1 1+16 2+4 1 1+6 1+9 2+3"]
  extended := .empty
  shared := .empty

/-- Latin. -/
def latinScript : Script where
  names := ["latn", "latin"]
  members := .decode
    ["41+19 6+19 2f f 5+16 1+1e 1+1c0 27+4 1a1b+25 6+30 5+3 5+c 1+45 41+ff 171 d 10+c 8d+1 6 1b",
     "11+28 ad7+1f 7aa2+65 3+42 2+1 1 1+7 15+d 330+2a 1+8 1+3 4f96+6 41a+19 6+19 825+5 1+29 1+8",
     "d745+1e 6+5"]
  extended := .decode
    ["b7 204 a 1+2 1 9 1 26+e 1+1 1 f+2 7+1 1+1 26 5 4+c 115+1 4ca+1 7a8 cfc 236 c0 d26 78e8+7",
     "226"]
  shared := .empty

/-- Lepcha. -/
def lepchaScript : Script where
  names := ["lepc", "lepcha"]
  members := .decode
    ["1c00+37 3+e 3+2"]
  extended := .empty
  shared := .empty

/-- Limbu. -/
def limbuScript : Script where
  names := ["limb", "limbu"]
  members := .decode
    ["1900+1e 1+b 4+b 4 3+b"]
  extended := .decode
    ["965"]
  shared := .empty

/-- Linear A. -/
def linearAScript : Script where
  names := ["lina", "lineara"]
  members := .decode
    ["10600+136 9+15 a+7"]
  extended := .decode
    ["10107+2c"]
  shared := .empty

/-- Linear B. -/
def linearBScript : Script where
  names := ["linb", "linearb"]
  members := .decode
    ["10000+b 1+19 1+12 1+1 1+e 2+d 22+7a"]
  extended := .decode
    ["10100+2 4+2c 3+8"]
  shared := .empty

/-- Lisu. -/
def lisuScript : Script where
  names := ["lisu"]
  members := .decode
    ["a4d0+2f 7ab0"]
  extended := .decode
    ["2bc 10 2d3c+1"]
  shared := .empty

/-- Lycian. -/
def lycianScript : Script where
  names := ["lyci", "lycian"]
  members := .decode
    ["10280+1c"]
  extended := .decode
    ["205a"]
  shared := .empty

/-- Lydian. -/
def lydianScript : Script where
  names := ["lydi", "lydian"]
  members := .decode
    ["10920+19 5"]
  extended := .decode
    ["b7 2d79"]
  shared := .empty

/-- Mahajani. -/
def mahajaniScript : Script where
  names := ["mahj", "mahajani"]
  members := .decode
    ["11150+26"]
  extended := .decode
    ["b7 8ac+b 9ec0+9"]
  shared := .empty

/-- Makasar. -/
def makasarScript : Script where
  names := ["maka", "makasar"]
  members := .decode
    ["11ee0+18"]
  extended := .empty
  shared := .empty

/-- Mandaic. -/
def mandaicScript : Script where
  names := ["mand", "mandaic"]
  members := .decode
    ["840+1b 2"]
  extended := .decode
    ["640"]
  shared := .empty

/-- Manichaean. -/
def manichaeanScript : Script where
  names := ["mani", "manichaean"]
  members := .decode
    ["10ac0+26 4+b"]
  extended := .decode
    ["640"]
  shared := .empty

/-- Marchen. -/
def marchenScript : Script where
  names := ["marc", "marchen"]
  members := .decode
    ["11c70+1f 2+15 1+d"]
  extended := .empty
  shared := .empty

/-- Medefaidrin. -/
def medefaidrinScript : Script where
  names := ["medf", "medefaidrin"]
  members := .decode
    ["16e40+5a"]
  extended := .empty
  shared := .empty

/-- Mende Kikakui. -/
def mendeKikakuiScript : Script where
  names := ["mend", "mendekikakui"]
  members := .decode
    ["1e800+c4 2+f"]
  extended := .empty
  shared := .empty

/-- Meroitic Cursive. -/
def meroiticCursiveScript : Script where
  names := ["merc", "meroiticcursive"]
  members := .decode
    ["109a0+17 4+13 2+2d"]
  extended := .empty
  shared := .empty

/-- Meroitic Hieroglyphs. -/
def meroiticHieroglyphsScript : Script where
  names := ["mero", "meroitichieroglyphs"]
  members := .decode
    ["10980+1f"]
  extended := .decode
    ["205d"]
  shared := .empty

/-- Malayalam. -/
def malayalamScript : Script where
  names := ["mlym", "malayalam"]
  members := .decode
    ["d00+c 1+2 1+32 1+2 1+5 4+f 2+19"]
  extended := .decode
    ["951+1 11+1 1374 17 8b3d+2"]
  shared := .empty

/-- Modi. -/
def modiScript : Script where
  names := ["modi"]
  members := .decode
    ["11600+44 b+9"]
  extended := .decode
    ["a830+9"]
  shared := .empty

/-- Mongolian. -/
def mongolianScript : Script where
  names := ["mong", "mongolian"]
  members := .decode
    ["1800+1 2 1+13 6+58 7+2a fdb5+c"]
  extended := .decode
    ["1802+1 1 829 fd1+1 5+3"]
  shared := .empty

/-- Mro. -/
def mroScript : Script where
  names := ["mroo", "mro"]
  members := .decode
    ["16a40+1e 1+9 4+1"]
  extended := .empty
  shared := .empty

/-- Meetei Mayek. -/
def meeteiMayekScript : Script where
  names := ["mtei", "meeteimayek"]
  members := .decode
    ["aae0+16 c9+2d 2+9"]
  extended := .empty
  shared := .empty

/-- Multani. -/
def multaniScript : Script where
  names := ["mult", "multani"]
  members := .decode
    ["11280+6 1 1+3 1+e 1+a"]
  extended := .decode
    ["a66+9"]
  shared := .empty

/-- Myanmar. -/
def myanmarScript : Script where
  names := ["mymr", "myanmar"]
  members := .decode
    ["1000+9f 9940+1e 61+1f 6c50+13"]
  extended := .decode
    ["a92e"]
  shared := .empty

/-- Nag Mundari. -/
def nagMundariScript : Script where
  names := ["nagm", "nagmundari"]
  members := .decode
    ["1e4d0+29"]
  extended := .empty
  shared := .empty

/-- Nandinagari. -/
def nandinagariScript : Script where
  names := ["nand", "nandinagari"]
  members := .decode
    ["119a0+7 2+2d 2+a"]
  extended := .decode
    ["951 12+1 380+9 ff9 8 7 8b35+5"]
  shared := .empty

/-- Old North Arabian. -/
def oldNorthArabianScript : Script where
  names := ["narb", "oldnortharabian"]
  members := .decode
    ["10a80+1f"]
  extended := .empty
  shared := .empty

/-- Nabataean. -/
def nabataeanScript : Script where
  names := ["nbat", "nabataean"]
  members := .decode
    ["10880+1e 8+8"]
  extended := .empty
  shared := .empty

/-- Newa. -/
def newaScript : Script where
  names := ["newa"]
  members := .decode
    ["11400+5b 1+4"]
  extended := .decode
    ["951+1 1382 1+1 9 6 1 1"]
  shared := .empty

/-- Nko. -/
def nkoScript : Script where
  names := ["nkoo", "nko"]
  members := .decode
    ["7c0+3a 2+2"]
  extended := .decode
    ["60c e 3 f71e+1"]
  shared := .empty

/-- Nushu. -/
def nushuScript : Script where
  names := ["nshu", "nushu"]
  members := .decode
    ["16fe1 418e+18b"]
  extended := .empty
  shared := .empty

/-- Ogham. -/
def oghamScript : Script where
  names := ["ogam", "ogham"]
  members := .decode
    ["1680+1c"]
  extended := .empty
  shared := .empty

/-- Ol Chiki. -/
def olChikiScript : Script where
  names := ["olck", "olchiki"]
  members := .decode
    ["1c50+2f"]
  extended := .empty
  shared := .empty

/-- Old Turkic. -/
def oldTurkicScript : Script where
  names := ["orkh", "oldturkic"]
  members := .decode
    ["10c00+48"]
  extended := .decode
    ["205a dd5"]
  shared := .empty

/-- Oriya. -/
def oriyaScript : Script where
  names := ["orya", "oriya"]
  members := .decode
    ["b01+2 1+7 2+1 2+15 1+6 1+1 1+4 2+8 2+1 2+2 7+2 4+1 1+4 2+11"]
  extended := .decode
    ["951+1 11+1 1374 17"]
  shared := .empty

/-- Osage. -/
def osageScript : Script where
  names := ["osge", "osage"]
  members := .decode
    ["104b0+23 4+23"]
  extended := .decode
    ["301 2 6 4c"]
  shared := .empty

/-- Osmanya. -/
def osmanyaScript : Script where
  names := ["osma", "osmanya"]
  members := .decode
    ["10480+1d 2+9"]
  extended := .empty
  shared := .empty

/-- Old Uyghur. -/
def oldUyghurScript : Script where
  names := ["ougr", "olduyghur"]
  members := .decode
    ["10f70+19"]
  extended := .decode
    ["640 104b1"]
  shared := .empty

/-- Palmyrene. -/
def palmyreneScript : Script where
  names := ["palm", "palmyrene"]
  members := .decode
    ["10860+1f"]
  extended := .empty
  shared := .empty

/-- Pau Cin Hau. -/
def pauCinHauScript : Script where
  names := ["pauc", "paucinhau"]
  members := .decode
    ["11ac0+38"]
  extended := .empty
  shared := .empty

/-- Old Permic. -/
def oldPermicScript : Script where
  names := ["perm", "oldpermic"]
  members := .decode
    ["10350+2a"]
  extended := .decode
    ["b7 248 5+2 a 16f"]
  shared := .empty

/-- Phags Pa. -/
def phagsPaScript : Script where
  names := ["phag", "phagspa"]
  members := .decode
    ["a840+37"]
  extended := .decode
    ["1802+1 1 829 fd2"]
  shared := .empty

/-- Inscriptional Pahlavi. -/
def inscriptionalPahlaviScript : Script where
  names := ["phli", "inscriptionalpahlavi"]
  members := .decode
    ["10b60+12 5+7"]
  extended := .empty
  shared := .empty

/-- Psalter Pahlavi. -/
def psalterPahlaviScript : Script where
  names := ["phlp", "psalterpahlavi"]
  members := .decode
    ["10b80+11 7+3 c+6"]
  extended := .decode
    ["640"]
  shared := .empty

/-- Phoenician. -/
def phoenicianScript : Script where
  names := ["phnx", "phoenician"]
  members := .decode
    ["10900+1b 3"]
  extended := .empty
  shared := .empty

/-- Miao. -/
def miaoScript : Script where
  names := ["plrd", "miao"]
  members := .decode
    ["16f00+4a 4+38 7+10"]
  extended := .empty
  shared := .empty

/-- Inscriptional Parthian. -/
def inscriptionalParthianScript : Script where
  names := ["prti", "inscriptionalparthian"]
  members := .decode
    ["10b40+15 2+7"]
  extended := .empty
  shared := .empty

/-- Rejang. -/
def rejangScript : Script where
  names := ["rjng", "rejang"]
  members := .decode
    ["a930+23 b"]
  extended := .empty
  shared := .empty

/-- Hanifi Rohingya. -/
def hanifiRohingyaScript : Script where
  names := ["rohg", "hanifirohingya"]
  members := .decode
    ["10d00+27 8+9"]
  extended := .decode
    ["60c e 3 20 93"]
  shared := .empty

/-- Runic. -/
def runicScript : Script where
  names := ["runr", "runic"]
  members := .decode
    ["16a0+4a 3+a"]
  extended := .decode
    ["16eb+2"]
  shared := .empty

/-- Samaritan. -/
def samaritanScript : Script where
  names := ["samr", "samaritan"]
  members := .decode
    ["800+2d 2+e"]
  extended := .decode
    ["2e31"]
  shared := .empty

/-- Old South Arabian. -/
def oldSouthArabianScript : Script where
  names := ["sarb", "oldsoutharabian"]
  members := .decode
    ["10a60+1f"]
  extended := .empty
  shared := .empty

/-- Saurashtra. -/
def saurashtraScript : Script where
  names := ["saur", "saurashtra"]
  members := .decode
    ["a880+45 8+b"]
  extended := .empty
  shared := .empty

/-- SignWriting. -/
def signwritingScript : Script where
  names := ["sgnw", "signwriting"]
  members := .decode
    ["1d800+28b f+4 1+e"]
  extended := .empty
  shared := .empty

/-- Shavian. -/
def shavianScript : Script where
  names := ["shaw", "shavian"]
  members := .decode
    ["10450+2f"]
  extended := .decode
    ["b7"]
  shared := .empty

/-- Sharada. -/
def sharadaScript : Script where
  names := ["shrd", "sharada"]
  members := .decode
    ["11180+5f"]
  extended := .decode
    ["951 1385 1 2+1 2 9 2 8b42+5 2"]
  shared := .empty

/-- Siddham. -/
def siddhamScript : Script where
  names := ["sidd", "siddham"]
  members := .decode
    ["11580+35 2+25"]
  extended := .empty
  shared := .empty

/-- Khudawadi. -/
def khudawadiScript : Script where
  names := ["sind", "khudawadi"]
  members := .decode
    ["112b0+3a 5+9"]
  extended := .decode
    ["964+1 9eca+9"]
  shared := .empty

/-- Sinhala. -/
def sinhalaScript : Script where
  names := ["sinh", "sinhala"]
  members := .decode
    ["d81+2 1+11 3+17 1+8 1 2+6 3 4+5 1 1+7 6+9 2+2 103ec+13"]
  extended := .decode
    ["964+1 138c"]
  shared := .empty

/-- Sogdian. -/
def sogdianScript : Script where
  names := ["sogd", "sogdian"]
  members := .decode
    ["10f30+29"]
  extended := .decode
    ["640"]
  shared := .empty

/-- Old Sogdian. -/
def oldSogdianScript : Script where
  names := ["sogo", "oldsogdian"]
  members := .decode
    ["10f00+27"]
  extended := .empty
  shared := .empty

/-- Sora Sompeng. -/
def soraSompengScript : Script where
  names := ["sora", "sorasompeng"]
  members := .decode
    ["110d0+18 7+9"]
  extended := .empty
  shared := .empty

/-- Soyombo. -/
def soyomboScript : Script where
  names := ["soyo", "soyombo"]
  members := .decode
    ["11a50+52"]
  extended := .empty
  shared := .empty

/-- Sundanese. -/
def sundaneseScript : Script where
  names := ["sund", "sundanese"]
  members := .decode
    ["1b80+3f 100+7"]
  extended := .empty
  shared := .empty

/-- Syloti Nagri. -/
def sylotiNagriScript : Script where
  names := ["sylo", "sylotinagri"]
  members := .decode
    ["a800+2c"]
  extended := .decode
    ["964+1 80+9"]
  shared := .empty

/-- Syriac. -/
def syriacScript : Script where
  names := ["syrc", "syriac"]
  members := .decode
    ["700+d 1+3b 2+2 110+a"]
  extended := .decode
    ["303+1 2+1 1 18+2 7+1 1+1 2da e+1 2 20 a+a 1a 1787 1"]
  shared := .empty

/-- Tagbanwa. -/
def tagbanwaScript : Script where
  names := ["tagb", "tagbanwa"]
  members := .decode
    ["1760+c 1+2 1+1"]
  extended := .decode
    ["1735+1"]
  shared := .empty

/-- Takri. -/
def takriScript : Script where
  names := ["takr", "takri"]
  members := .decode
    ["11680+39 6+9"]
  extended := .decode
    ["964+1 9eca+9"]
  shared := .empty

/-- Tai Le. -/
def taiLeScript : Script where
  names := ["tale", "taile"]
  members := .decode
    ["1950+1d 2+4"]
  extended := .decode
    ["300+1 5+1 3 d33+9"]
  shared := .empty

/-- New Tai Lue. -/
def newTaiLueScript : Script where
  names := ["talu", "newtailue"]
  members := .decode
    ["1980+2b 4+19 6+a 3+1"]
  extended := .empty
  shared := .empty

/-- Tamil. -/
def tamilScript : Script where
  names := ["taml", "tamil"]
  members := .decode
    ["b82+1 1+5 3+2 1+3 3+1 1 1+1 3+1 3+2 3+b 4+4 3+2 1+3 2 6 e+14 113c5+31 d"]
  extended := .decode
    ["951+1 11+1 1374 8c18 6a0d 1 37+1"]
  shared := .empty

/-- Tangut. -/
def tangutScript : Script where
  names := ["tang", "tangut"]
  members := .decode
    ["16fe0 1f+17f7 8+2ff 200+8"]
  extended := .decode
    ["2ff0+f 1ef"]
  shared := .empty

/-- Tai Viet. -/
def taiVietScript : Script where
  names := ["tavt", "taiviet"]
  members := .decode
    ["aa80+42 18+4"]
  extended := .empty
  shared := .empty

/-- Telugu. -/
def teluguScript : Script where
  names := ["telu", "telugu"]
  members := .decode
    ["c00+c 1+2 1+16 1+f 2+8 1+2 1+3 7+1 1+2 2 2+3 2+9 7+8"]
  extended := .decode
    ["951+1 11+1 136f+1 1 1 17"]
  shared := .empty

/-- Tifinagh. -/
def tifinaghScript : Script where
  names := ["tfng", "tifinagh"]
  members := .decode
    ["2d30+37 7+1 e"]
  extended := .decode
    ["302 1 1+3 19"]
  shared := .empty

/-- Tagalog. -/
def tagalogScript : Script where
  names := ["tglg", "tagalog"]
  members := .decode
    ["1700+15 9"]
  extended := .decode
    ["1735+1"]
  shared := .empty

/-- Thaana. -/
def thaanaScript : Script where
  names := ["thaa", "thaana"]
  members := .decode
    ["780+31"]
  extended := .decode
    ["60c e+1 2 40+9 f788 a"]
  shared := .empty

/-- Thai. -/
def thaiScript : Script where
  names := ["thai"]
  members := .decode
    ["e01+39 5+1b"]
  extended := .decode
    ["2bc 1a 2b 2d"]
  shared := .empty

/-- Tibetan. -/
def tibetanScript : Script where
  names := ["tibt", "tibetan"]
  members := .decode
    ["f00+47 1+23 4+26 1+23 1+e 1+6 4+1"]
  extended := .decode
    ["3008+3"]
  shared := .empty

/-- Tirhuta. -/
def tirhutaScript : Script where
  names := ["tirh", "tirhuta"]
  members := .decode
    ["11480+47 8+9"]
  extended := .decode
    ["951+1 11+1 136f c f 8b3d+9"]
  shared := .empty

/-- Tangsa. -/
def tangsaScript : Script where
  names := ["tnsa", "tangsa"]
  members := .decode
    ["16a70+4e 1+9"]
  extended := .empty
  shared := .empty

/-- Toto. -/
def totoScript : Script where
  names := ["toto"]
  members := .decode
    ["1e290+1e"]
  extended := .decode
    ["2bc"]
  shared := .empty

/-- Ugaritic. -/
def ugariticScript : Script where
  names := ["ugar", "ugaritic"]
  members := .decode
    ["10380+1d 1"]
  extended := .empty
  shared := .empty

/-- Vai. -/
def vaiScript : Script where
  names := ["vaii", "vai"]
  members := .decode
    ["a500+12b"]
  extended := .empty
  shared := .empty

/-- Vithkuqi. -/
def vithkuqiScript : Script where
  names := ["vith", "vithkuqi"]
  members := .decode
    ["10570+a 1+e 1+6 1+1 1+a 1+e 1+6 1+1"]
  extended := .empty
  shared := .empty

/-- Warang Citi. -/
def warangCitiScript : Script where
  names := ["wara", "warangciti"]
  members := .decode
    ["118a0+52 c"]
  extended := .empty
  shared := .empty

/-- Wancho. -/
def wanchoScript : Script where
  names := ["wcho", "wancho"]
  members := .decode
    ["1e2c0+39 5"]
  extended := .empty
  shared := .empty

/-- Old Persian. -/
def oldPersianScript : Script where
  names := ["xpeo", "oldpersian"]
  members := .decode
    ["103a0+23 4+d"]
  extended := .empty
  shared := .empty

/-- Cuneiform. -/
def cuneiformScript : Script where
  names := ["xsux", "cuneiform"]
  members := .decode
    ["12000+399 66+6e 1+4 b+c3"]
  extended := .empty
  shared := .empty

/-- Yezidi. -/
def yezidiScript : Script where
  names := ["yezi", "yezidi"]
  members := .decode
    ["10e80+29 1+2 2+1"]
  extended := .decode
    ["60c e 3 40+9"]
  shared := .empty

/-- Yi. -/
def yiScript : Script where
  names := ["yiii", "yi"]
  members := .decode
    ["a000+48c 3+36"]
  extended := .decode
    ["3001+1 5+9 2+7 df ce65+4"]
  shared := .empty

/-- Zanabazar Square. -/
def zanabazarSquareScript : Script where
  names := ["zanb", "zanabazarsquare"]
  members := .decode
    ["11a00+47"]
  extended := .empty
  shared := .empty

/-- Inherited. -/
def inheritedScript : Script where
  names := ["zinh", "inherited", "qaai"]
  members := .decode
    ["300+6f 115+1 1c4+a 1a 2e0+3 115b+1e 201+2 1+c 1+6 4 6 3+1 c6+3f 20c+1 c2+20 f39+3 6b+1",
     "cd65+f 10+d 3cf e2 105a bbc4+2d 2+16 220+2 11+7 2+6 1e+3 c2f52+ef"]
  extended := .empty
  shared := .decode
    ["300+e 1+1 1 f+2 7+1 1+1 10 2 12 5 4+c 115+1 1c4+a 1a 2e0+1 137d+2 1+c 1+6 4 6 3+1 c6+1 36",
     "1 2f5 f39+3 6b+1 d245 105a"]

/-- Common. -/
def commonScript : Script where
  names := ["zyyy", "common"]
  members := .decode
    ["0+40 1a+5 1a+2e 1+e 1+4 17 1f 1c1+26 5+4 2+13 74 9 6 1 27d 6 e 3 20 9c 204 81+1 4d9 195+3",
     "122 5ef+2 47+1 cb+1 1 4cd d 7+3 1+5 1+2 2 305+b 2+56 1+a 3+a 1+e 11+20 3f+25 1+2 2+5 1+1a",
     "1+10 29+2 4+299 16+a 15+39f 100+273 2+1f 1+68 200+5d 192+14 1 1+18 f+7 4+3 5b+1 3 5a+1",
     "93+f 20+25 9 30+3f 1f+50 2f 58+a7 19c0+3f 5900+21 66+2 a5+9 f4 a0 18b e+1 51d2+1 d0+9",
     "16+22 1+12 1+3 93 1+1f 1a+5 1a+a a 2d+1 40+6 1+6 a+4 102+2 4+2c 3+8 50+c 33+2c e4+1a",
     "b9a4+3 f5c+f9 6+1b3 9c+73 3c+f5 a+26 2+3d 3+10 8+1 7+1d 4+3c d5+13 c+13 c+56 9+18 87+54",
     "1+46 1+1 2 2+1 2+3 1+b 1 1+6 1+40 1+3 2+7 1+6 1+1b 1+3 1+4 1 3+6 1+153 2+123 2+31 1471+43",
     "4c+3c 2c2+2b 4+63 c+e 2+e 1+e 1+24 a+ad 38+19 1+1 d+2b 4+8 7+1 e+5 9a+3d7 4+10 3+c 3+76",
     "4+5e 6+b 4 f+b 4+37 8+9 6+27 8+1d 2+b 4+1 3e+153 c+d 2+c 3+9 5+37 7+e 2+a 6+8 7+92 1+65",
     "c0407 1e+5f"]
  extended := .empty
  shared := .decode
    ["b7 204 a 1+2 1 9 1 9a 297 e 3 20 323+1 795 5ef+2 47+1 cb+1 1 4cd d 7+3 1+5 1+2 2 334 1f a",
     "2 db9 18+1 a 4 1 1ac+f 1+2 2 1+9 1+c 10+5 1 4+3 5b+1 3 5a+1 93+f 20+25 9 30+27 38+30 f+b",
     "33 58+18 a+4 60+1e 7301+7 128+9 f4 a0 536e+1 105+1 11a+4 a 2d+1 160+2 4+2c 3+8 1a1+1a",
     "b9a4+3 16bc+11 1ede+1"]

/-- Unknown. -/
def unknownScript : Script where
  names := ["zzzz", "unknown"]
  members := .decode
    ["378+1 6+3 7 1 14 18d 26+1 32+1 3 37+7 1b+3 6+a 10e 3c+1 65+d 3b+1 31+1 f 1c+1 1 b+4 22+4",
     "ed 8+1 2+1 16 7 1+2 4+1 9+1 2+1 4+7 1+3 2 5+1 19+1 3 6+3 2+1 16 7 2 2 2+1 1 5+3 2+1 3+2",
     "1+6 4 1+6 11+9 3 9 3 16 7 2 5+1 a 3 3+1 1+e 4+1 c+6 7 3 8+1 2+1 16 7 2 5+1 9+1 2+1 3+6 3+3",
     "2 5+1 12+9 2 6+2 3 4+2 2 1 2+2 2+2 3+2 c+3 5+2 3 4+1 1+5 1+d 15+4 d 3 17 10+1 9 3 4+6 2 3",
     "2+1 4+1 a+6 16 3 17 a 5+1 9 3 4+6 2+4 3 4+1 a 3+b d 3 33 3 6+3 10+1 1a 3 12+2 18 9 1+1 7+2",
     "1+3 6 1 8+5 a+1 3+b 3a+3 1d+24 2 1 5 18 1 17+1 5 1 7 a+1 4+1f 48 24+3 27 24 f d+24 c6 1+4",
     "1+1 179 4+1 7 1 4+1 29 4+1 21 4+1 7 1 4+1 f 39 4+1 43+1 20+2 1a+5 56+1 6+1 29d+2 59+6 16+8",
     "18+8 14+b d 3 2+b 5e+1 a+5 a+5 1a+5 59+6 2b+4 46+9 1f c+3 c+3 1+2 2a+1 5+a 2c+3 1a+5 b+2",
     "3e+1 41 1d+1 b+5 a+5 e+1 2e+1 c+13 4d a6+7 3c+2 f+2 3e+4 2b+1 b+7 2b+4 216+1 6+1 26+1 6+1",
     "8 1 1 1 1f+1 35 f e+1 6 13+1 3 9 65 c+1 1b d+2 22+d 21+e 8c+3 29a+15 b+14 714+1 17e+4 2d",
     "1+4 1+1 38+6 2+d 18+8 7 7 7 7 7 7 7 7 7e+21 1a 59+b d6+19 50 56+1 67+4 2b 5e 56+8 30",
     "726d+2 37+8 15c+13 b8+7 dd+13 3c+2 a+5 38+7 46+7 c+5 74+a 1e+2 4e b+3 21 37+8 e+1 a+1",
     "67+17 1c+9 6+1 6+1 6+8 7 7 3c+3 7e+1 a+5 2ba4+b 17+3 31+3 800+18ff 16e+1 6a+25 7+b 5+4 1a",
     "5 1 2 2 28a+1f 2a+5 33 13 4+3 5 87+1 1 be+2 6+1 6+1 6+1 3+2 7 7+9 5+1 c 1a 13 2 f+1 e+21",
     "7b+4 3+3 2d+2 58 d+2 1+2e 2e+81 1d+2 31+e 1c+3 24+8 1e+4 2b+4 1e 25+3 e+29 9e+1 a+5 24+3",
     "24+3 28+7 34+a c f 7 2 b f 7 2+2 34+b 137+8 16+9 8+17 6 2a 9+44 6+1 1 2c 2+2 1+1 17 48+7",
     "9+2f 13 2+4 21+2 1b+4 1b+25 38+3 14+1 32 2+4 8 3 1d+1 3+3 a+6 9+6 40+1f 27+3 c+8 36+2 1d+1",
     "1b+4 1a+6 4+b 7+4f 49+36 33+c 33+6 2e+7 a+5 26+2 1d+7 2+cf 1f 2a 3+1 2+f 6+7 9+20 2e+7",
     "2a+15 1a+25 1c+13 17+8 4e+3 24+8 44+9 1+1 19+6 a+5 35 12+7 27+8 60 14+a 12 2f+3d 7 1 4 f",
     "b+5 3b+4 a+5 4 8+1 2+1 16 7 2 5 a+1 2+1 3+1 1+5 1+4 7+1 7+2 5+a a 1+1 1 26 a 1+1 1 4 a 2+7",
     "2+1c 5c 5+1d 48+7 a+a5 36+1 26+21 45+a a+5 d+12 3a+5 a+5 14+1b 1b+1 f+3 17+b8 3c+63 53+b",
     "8+1 1+1 8 2 1e 2+1 c+8 a+45 8+1 2e+1 b+1a 48+7 53+c 49+6 a+55 8+57 22+d a+5 9 2d e+9 1d+2",
     "20+1 16 e+48 7 2 2c+2 1 2 9+7 a+5 6 2 25 2 6+6 a+5 2c+3 a+f5 19+6 11 29+2 1d+54 1+e 32+c",
     "39b+65 6f 5+a c4+a4b 63+c 456+9 f9b+4 247+1ab8 3a+6c5 239+6 1f a+3 51 a+5 1e+1 6+9 46+9 a",
     "7 15+4 13+1af 3a+c5 5b+4 19+1 19+2b 4b+3 39+6 11+3f 5+a 7+8 1cd6+28 20+60 73+21fc 4 7 2",
     "123+e 1+1c 3+1 1+d 4+7 18c+903 6b+4 d+2 9+6 a+1 8+f5b fd+2 1b4+5 17+e 11+e 2e+1 17+8 74+3b",
     "f6+9 27+1 c2+14 46+79 14+b 14+b 57+8 19+86 55 47 2+1 1+1 2+1 4 c 1 7 41 4+1 8 7 1c 4 5 1+2",
     "7 154+1 124+1 2be+e 5 f+44f 1f+5 6+d4 7 11+1 7 2 5+4 3e+20 1+6f 2d+2 e+1 a+3 2+13f 1f+10",
     "3a+4 1+1cf 2a+d5 2b+3 1+bf 1f 16+7 2+df 7 4 2 f c5+1 10+28 4c+3 a+3 2+310 44+4b 3d+c1 4 1b",
     "2 1+1 1 a 4 1 1+5 1+3 1 1 1 3 2 1+1 1 1 1 1 1 2 1+1 4 7 4 4 1 a 11+4 3 5 11+33 2+10d 2c+3",
     "64+b f+1 f f 25+9 ae+37 1d+c 2c+3 9+6 2+d 6+99 3d9+2 11+2 d+2 da+5 c+3 1+e c+3 38+7 a+5",
     "28+7 1e+1 c+3 2+d 9+26 158+7 e+1 d+2 b+2 39 1+3 10+1 c+3 a+6 93 67+404 a6e0+1f 111e+1",
     "168e+1 1d31+e 26e+9a1 21e+5e1 134b+4 212a+acb86 1+1d 60+7f f0+2fe0f"]
  extended := .empty
  shared := .empty

/-- Todhri. -/
def todhriScript : Script where
  names := ["todr", "todhri"]
  members := .decode
    ["105c0+33"]
  extended := .decode
    ["301 2 2 9 1 4a"]
  shared := .empty

/-- Garay. -/
def garayScript : Script where
  names := ["gara", "garay"]
  members := .decode
    ["10d40+25 3+1c 8+1"]
  extended := .decode
    ["60c e 3"]
  shared := .empty

/-- Tulu Tigalari. -/
def tuluTigalariScript : Script where
  names := ["tutg", "tulutigalari"]
  members := .decode
    ["11380+9 1 2 1+25 1+9 1 2 1+3 1+9 1+1 8+1"]
  extended := .decode
    ["ce6+9 1002 1 8b3b+5 bb"]
  shared := .empty

/-- Sunuwar. -/
def sunuwarScript : Script where
  names := ["sunu", "sunuwar"]
  members := .decode
    ["11bc0+21 e+9"]
  extended := .decode
    ["300+1 1 9 2 1c 3"]
  shared := .empty

/-- Gurung Khema. -/
def gurungKhemaScript : Script where
  names := ["gukh", "gurungkhema"]
  members := .decode
    ["16100+39"]
  extended := .decode
    ["965"]
  shared := .empty

/-- Kirat Rai. -/
def kiratRaiScript : Script where
  names := ["krai", "kiratrai"]
  members := .decode
    ["16d40+39"]
  extended := .empty
  shared := .empty

/-- Ol Onal. -/
def olOnalScript : Script where
  names := ["onao", "olonal"]
  members := .decode
    ["1e5d0+2a 4"]
  extended := .decode
    ["964+1"]
  shared := .empty

/-- All scripts. -/
def all : List Script :=
  [ adlamScript, caucasianAlbanianScript, ahomScript, arabicScript, imperialAramaicScript,
   armenianScript, avestanScript, balineseScript, bamumScript, bassaVahScript, batakScript,
   bengaliScript, bhaiksukiScript, bopomofoScript, brahmiScript, brailleScript, bugineseScript,
   buhidScript, chakmaScript, canadianAboriginalScript, carianScript, chamScript, cherokeeScript,
   chorasmianScript, copticScript, cyproMinoanScript, cypriotScript, cyrillicScript,
   devanagariScript, divesAkuruScript, dograScript, deseretScript, duployanScript,
   egyptianHieroglyphsScript, elbasanScript, elymaicScript, ethiopicScript, georgianScript,
   glagoliticScript, gunjalaGondiScript, masaramGondiScript, gothicScript, granthaScript,
   greekScript, gujaratiScript, gurmukhiScript, hangulScript, hanScript, hanunooScript,
   hatranScript, hebrewScript, hiraganaScript, anatolianHieroglyphsScript, pahawhHmongScript,
   nyiakengPuachueHmongScript, oldHungarianScript, oldItalicScript, javaneseScript,
   kayahLiScript, katakanaScript, kawiScript, kharoshthiScript, khmerScript, khojkiScript,
   khitanSmallScriptScript, kannadaScript, kaithiScript, taiThamScript, laoScript, latinScript,
   lepchaScript, limbuScript, linearAScript, linearBScript, lisuScript, lycianScript,
   lydianScript, mahajaniScript, makasarScript, mandaicScript, manichaeanScript, marchenScript,
   medefaidrinScript, mendeKikakuiScript, meroiticCursiveScript, meroiticHieroglyphsScript,
   malayalamScript, modiScript, mongolianScript, mroScript, meeteiMayekScript, multaniScript,
   myanmarScript, nagMundariScript, nandinagariScript, oldNorthArabianScript, nabataeanScript,
   newaScript, nkoScript, nushuScript, oghamScript, olChikiScript, oldTurkicScript, oriyaScript,
   osageScript, osmanyaScript, oldUyghurScript, palmyreneScript, pauCinHauScript,
   oldPermicScript, phagsPaScript, inscriptionalPahlaviScript, psalterPahlaviScript,
   phoenicianScript, miaoScript, inscriptionalParthianScript, rejangScript, hanifiRohingyaScript,
   runicScript, samaritanScript, oldSouthArabianScript, saurashtraScript, signwritingScript,
   shavianScript, sharadaScript, siddhamScript, khudawadiScript, sinhalaScript, sogdianScript,
   oldSogdianScript, soraSompengScript, soyomboScript, sundaneseScript, sylotiNagriScript,
   syriacScript, tagbanwaScript, takriScript, taiLeScript, newTaiLueScript, tamilScript,
   tangutScript, taiVietScript, teluguScript, tifinaghScript, tagalogScript, thaanaScript,
   thaiScript, tibetanScript, tirhutaScript, tangsaScript, totoScript, ugariticScript, vaiScript,
   vithkuqiScript, warangCitiScript, wanchoScript, oldPersianScript, cuneiformScript,
   yezidiScript, yiScript, zanabazarSquareScript, inheritedScript, commonScript, unknownScript,
   todhriScript, garayScript, tuluTigalariScript, sunuwarScript, gurungKhemaScript,
   kiratRaiScript, olOnalScript]

end Script

end Marginalia.Unicode
