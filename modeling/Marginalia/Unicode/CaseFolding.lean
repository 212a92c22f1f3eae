import Marginalia.Unicode.CodePointSet

/-!
# Case folding

Two characters are equal up to case when they fold to the same thing.  *Simple* folding sends a
character to one character and is what case-insensitive matching uses.  *Full* folding sends a few
characters to several (a sharp s to two letters s) and is what names are compared by.
-/

namespace Marginalia.Unicode

/-- A run of code points `start`, `start + stride`, … that fold to the run that starts at `target`
with the same stride. -/
structure FoldRun where
  start : Nat
  count : Nat
  stride : Nat
  target : Nat
  deriving Repr

namespace FoldRun

/-- Where the run sends a code point, if it is one of the run. -/
def image? (run : FoldRun) (n : Nat) : Option Nat :=
  if run.start ≤ n ∧ n < run.start + run.count * run.stride ∧ (n - run.start) % run.stride = 0 then
    some (run.target + (n - run.start))
  else none

/-- The code point that the run sends to `n`, if there is one. -/
def preimage? (run : FoldRun) (n : Nat) : Option Nat :=
  if run.target ≤ n ∧ n < run.target + run.count * run.stride ∧
      (n - run.target) % run.stride = 0 then
    some (run.start + (n - run.target))
  else none

/-- One run from its written form `start:target`, then `+` and the number of further points unless
there is none, then `/` and the stride unless it is one. -/
def decode (written : List Char) : FoldRun :=
  let (start, rest) := Hex.number written
  let (target, rest) := Hex.number (rest.drop 1)
  let (more, rest) := if rest.head? = some '+' then Hex.number (rest.drop 1) else (0, rest)
  let stride := if rest.head? = some '/' then (Hex.number (rest.drop 1)).1 else 1
  { start := start, count := more + 1, stride := stride, target := target }

end FoldRun

namespace CaseFolding

/-- The runs of simple case folding. -/
def runs : List FoldRun :=
  (Hex.words
    ["41:61+19 b5:3bc c0:e0+16 d8:f8+6 100:101+17/2 132:133+2/2 139:13a+7/2 14a:14b+16/2 178:ff",
     "179:17a+2/2 17f:73 181:253 182:183+1/2 186:254 187:188 189:256+1 18b:18c 18e:1dd 18f:259",
     "190:25b 191:192 193:260 194:263 196:269 197:268 198:199 19c:26f 19d:272 19f:275",
     "1a0:1a1+2/2 1a6:280 1a7:1a8 1a9:283 1ac:1ad 1ae:288 1af:1b0 1b1:28a+1 1b3:1b4+1/2 1b7:292",
     "1b8:1b9 1bc:1bd 1c4:1c6 1c5:1c6 1c7:1c9 1c8:1c9 1ca:1cc 1cb:1cc+8/2 1de:1df+8/2 1f1:1f3",
     "1f2:1f3+1/2 1f6:195 1f7:1bf 1f8:1f9+13/2 220:19e 222:223+8/2 23a:2c65 23b:23c 23d:19a",
     "23e:2c66 241:242 243:180 244:289 245:28c 246:247+4/2 345:3b9 370:371+1/2 376:377 37f:3f3",
     "386:3ac 388:3ad+2 38c:3cc 38e:3cd+1 391:3b1+10 3a3:3c3+8 3c2:3c3 3cf:3d7 3d0:3b2 3d1:3b8",
     "3d5:3c6 3d6:3c0 3d8:3d9+b/2 3f0:3ba 3f1:3c1 3f4:3b8 3f5:3b5 3f7:3f8 3f9:3f2 3fa:3fb",
     "3fd:37b+2 400:450+f 410:430+1f 460:461+10/2 48a:48b+1a/2 4c0:4cf 4c1:4c2+6/2 4d0:4d1+2f/2",
     "531:561+25 10a0:2d00+25 10c7:2d27 10cd:2d2d 13f8:13f0+5 1c80:432 1c81:434 1c82:43e",
     "1c83:441+1 1c85:442 1c86:44a 1c87:463 1c88:a64b 1c89:1c8a 1c90:10d0+2a 1cbd:10fd+2",
     "1e00:1e01+4a/2 1e9b:1e61 1e9e:df 1ea0:1ea1+2f/2 1f08:1f00+7 1f18:1f10+5 1f28:1f20+7",
     "1f38:1f30+7 1f48:1f40+5 1f59:1f51+3/2 1f68:1f60+7 1f88:1f80+7 1f98:1f90+7 1fa8:1fa0+7",
     "1fb8:1fb0+1 1fba:1f70+1 1fbc:1fb3 1fbe:3b9 1fc8:1f72+3 1fcc:1fc3 1fd3:390 1fd8:1fd0+1",
     "1fda:1f76+1 1fe3:3b0 1fe8:1fe0+1 1fea:1f7a+1 1fec:1fe5 1ff8:1f78+1 1ffa:1f7c+1 1ffc:1ff3",
     "2126:3c9 212a:6b 212b:e5 2132:214e 2160:2170+f 2183:2184 24b6:24d0+19 2c00:2c30+2f",
     "2c60:2c61 2c62:26b 2c63:1d7d 2c64:27d 2c67:2c68+2/2 2c6d:251 2c6e:271 2c6f:250 2c70:252",
     "2c72:2c73 2c75:2c76 2c7e:23f+1 2c80:2c81+31/2 2ceb:2cec+1/2 2cf2:2cf3 a640:a641+16/2",
     "a680:a681+d/2 a722:a723+6/2 a732:a733+1e/2 a779:a77a+1/2 a77d:1d79 a77e:a77f+4/2 a78b:a78c",
     "a78d:265 a790:a791+1/2 a796:a797+9/2 a7aa:266 a7ab:25c a7ac:261 a7ad:26c a7ae:26a a7b0:29e",
     "a7b1:287 a7b2:29d a7b3:ab53 a7b4:a7b5+7/2 a7c4:a794 a7c5:282 a7c6:1d8e a7c7:a7c8+1/2",
     "a7cb:264 a7cc:a7cd a7d0:a7d1 a7d6:a7d7+2/2 a7dc:19b a7f5:a7f6 ab70:13a0+4f fb05:fb06",
     "ff21:ff41+19 10400:10428+27 104b0:104d8+23 10570:10597+a 1057c:105a3+e 1058c:105b3+6",
     "10594:105bb+1 10c80:10cc0+32 10d50:10d70+15 118a0:118c0+1f 16e40:16e60+1f 1e900:1e922+21"]).map
    FoldRun.decode

/-- The characters that full case folding sends to several characters. -/
def expansions : List (Nat × List Char) :=
  (Hex.words
    ["df:73,73 130:69,307 149:2bc,6e 1f0:6a,30c 390:3b9,308,301 3b0:3c5,308,301 587:565,582",
     "1e96:68,331 1e97:74,308 1e98:77,30a 1e99:79,30a 1e9a:61,2be 1e9e:73,73 1f50:3c5,313",
     "1f52:3c5,313,300 1f54:3c5,313,301 1f56:3c5,313,342 1f80:1f00,3b9 1f81:1f01,3b9",
     "1f82:1f02,3b9 1f83:1f03,3b9 1f84:1f04,3b9 1f85:1f05,3b9 1f86:1f06,3b9 1f87:1f07,3b9",
     "1f88:1f00,3b9 1f89:1f01,3b9 1f8a:1f02,3b9 1f8b:1f03,3b9 1f8c:1f04,3b9 1f8d:1f05,3b9",
     "1f8e:1f06,3b9 1f8f:1f07,3b9 1f90:1f20,3b9 1f91:1f21,3b9 1f92:1f22,3b9 1f93:1f23,3b9",
     "1f94:1f24,3b9 1f95:1f25,3b9 1f96:1f26,3b9 1f97:1f27,3b9 1f98:1f20,3b9 1f99:1f21,3b9",
     "1f9a:1f22,3b9 1f9b:1f23,3b9 1f9c:1f24,3b9 1f9d:1f25,3b9 1f9e:1f26,3b9 1f9f:1f27,3b9",
     "1fa0:1f60,3b9 1fa1:1f61,3b9 1fa2:1f62,3b9 1fa3:1f63,3b9 1fa4:1f64,3b9 1fa5:1f65,3b9",
     "1fa6:1f66,3b9 1fa7:1f67,3b9 1fa8:1f60,3b9 1fa9:1f61,3b9 1faa:1f62,3b9 1fab:1f63,3b9",
     "1fac:1f64,3b9 1fad:1f65,3b9 1fae:1f66,3b9 1faf:1f67,3b9 1fb2:1f70,3b9 1fb3:3b1,3b9",
     "1fb4:3ac,3b9 1fb6:3b1,342 1fb7:3b1,342,3b9 1fbc:3b1,3b9 1fc2:1f74,3b9 1fc3:3b7,3b9",
     "1fc4:3ae,3b9 1fc6:3b7,342 1fc7:3b7,342,3b9 1fcc:3b7,3b9 1fd2:3b9,308,300 1fd3:3b9,308,301",
     "1fd6:3b9,342 1fd7:3b9,308,342 1fe2:3c5,308,300 1fe3:3c5,308,301 1fe4:3c1,313 1fe6:3c5,342",
     "1fe7:3c5,308,342 1ff2:1f7c,3b9 1ff3:3c9,3b9 1ff4:3ce,3b9 1ff6:3c9,342 1ff7:3c9,342,3b9",
     "1ffc:3c9,3b9 fb00:66,66 fb01:66,69 fb02:66,6c fb03:66,66,69 fb04:66,66,6c fb05:73,74",
     "fb06:73,74 fb13:574,576 fb14:574,565 fb15:574,56b fb16:57e,576 fb17:574,56d"]).map
    fun written =>
      let (start, rest) := Hex.number written
      (start, Hex.numbers (rest.drop 1) |>.map Char.ofNat)

/-- The simple case folding of a character. -/
def simple (c : Char) : Char :=
  ((runs.findSome? fun run => run.image? c.toNat).map Char.ofNat).getD c

/-- The characters equal to `c` up to simple case folding, `c` among them. -/
def orbit (c : Char) : List Char :=
  let folded := simple c
  folded :: (runs.filterMap fun run => run.preimage? folded.toNat).map Char.ofNat

/-- The full case folding of a character. -/
def full (c : Char) : List Char :=
  if c.toNat < 0x80 then [c.toLower]
  else
    match expansions.lookup c.toNat with
    | some several => several
    | none => [simple c]

end CaseFolding

end Marginalia.Unicode
