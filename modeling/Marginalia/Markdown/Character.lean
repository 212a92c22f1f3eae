import Marginalia.Markdown.Entity
import Marginalia.Pattern.CharClass

/-!
# Characters in Markdown

Most of the notation is decided by ASCII characters: which are blank, which are punctuation, which
can be escaped.  Only the two sides of an emphasis mark are judged by Unicode.  The module also reads
character references and removes backslashes, the two ways in which a character is written other than
as itself.
-/

namespace Marginalia.Markdown

/-- The backtick. -/
def backtick : Char := Char.ofNat 0x60

/-- The apostrophe. -/
def apostrophe : Char := Char.ofNat 0x27

/-- The double quotation mark. -/
def quotation : Char := Char.ofNat 0x22

/-- ASCII blanks, line endings included. -/
def isSpace (c : Char) : Bool :=
  c == ' ' || (0x09 ≤ c.toNat && c.toNat ≤ 0x0D)

/-- The blanks within a line. -/
def isSpaceOrTab (c : Char) : Bool :=
  c == ' ' || c == '\t'

/-- The characters that end a line. -/
def isLineEnd (c : Char) : Bool :=
  c == '\n' || c == '\r'

/-- ASCII control characters. -/
def isControl (c : Char) : Bool :=
  c.toNat < 0x20 || c.toNat == 0x7F

/-- ASCII punctuation, every graphic character that is neither letter nor digit. -/
def isPunct (c : Char) : Bool :=
  0x21 ≤ c.toNat && c.toNat ≤ 0x7E && !c.isAlphanum

/-- Punctuation and symbols of every script. -/
def isUnicodePunct (c : Char) : Bool :=
  if c.toNat < 0x80 then isPunct c else CharClass.punctuation c || CharClass.symbol c

/-- Without leading blanks. -/
def trimLeft (text : Text) : Text :=
  text.dropWhile isSpace

/-- Without trailing blanks. -/
def trimRight (text : Text) : Text :=
  text.trimEndWhile isSpace

/-- Without blanks on either side. -/
def trimBoth (text : Text) : Text :=
  trimRight (trimLeft text)

/-! ## Character references -/

/-- The character with the given number.  Zero, surrogates and numbers out of range give the
replacement character. -/
def numbered (n : Nat) : Char :=
  if n = 0 ∨ ¬ n.isValidChar then Char.ofNat 0xFFFD else Char.ofNat n

/-- The longest text of a named reference that is looked at. -/
def longestName : Nat := 32

/-- A reference by number, after its number sign: at most seven decimal or six hexadecimal digits and
a semicolon. -/
def numberedReference? (text : Text) : Option (Text × Text) :=
  let (digits, rest, base, most) : Text × Text × Nat × Nat :=
    match text with
    | 'x' :: rest | 'X' :: rest =>
      let digits := rest.takeWhile fun c => (Unicode.Hex.digit? c.toLower).isSome
      (digits, rest.drop digits.length, 16, 6)
    | _ =>
      let digits := text.takeWhile Char.isDigit
      (digits, text.drop digits.length, 10, 7)
  match rest with
  | ';' :: rest =>
    if digits.isEmpty ∨ most < digits.length then none
    else
      let value := digits.foldl
        (fun acc c => base * acc + (Unicode.Hex.digit? c.toLower).getD 0) 0
      some ([numbered value], rest)
  | _ => none

/-- A reference by name, up to its semicolon. -/
def namedReference? (text : Text) : Option (Text × Text) :=
  let name := (text.take longestName).takeWhile fun c => c != ';' && c != ' '
  match text.drop name.length with
  | ';' :: rest =>
    if name.length < 2 ∨ longestName ≤ name.length then none
    else (Entity.named.lookup name).map fun chars => (chars, rest)
  | _ => none

/-- The character reference that a text starts with, after its ampersand: what it stands for and
what follows it. -/
def reference? (text : Text) : Option (Text × Text) :=
  match text with
  | '#' :: rest => numberedReference? rest <|> namedReference? text
  | _ => namedReference? text

/-- The text with its character references replaced. -/
def decodeReferences (text : Text) : Text :=
  go (text.length + 1) text
where
  /-- Every step takes at least one character. -/
  go : Nat → Text → Text
    | 0, _ => []
    | _ + 1, [] => []
    | fuel + 1, '&' :: rest =>
      match reference? rest with
      | some (chars, rest) => chars ++ go fuel rest
      | none => '&' :: go fuel rest
    | fuel + 1, c :: rest => c :: go fuel rest

/-- The text without the backslashes that escape punctuation. -/
def removeEscapes : Text → Text
  | '\\' :: c :: rest => if isPunct c then c :: removeEscapes rest else '\\' :: removeEscapes (c :: rest)
  | c :: rest => c :: removeEscapes rest
  | [] => []

end Marginalia.Markdown
