/-!
# Text

Text is a list of Unicode scalar values.  Everything the program decides about a text (where its
lines end, which characters are blank) is decided character by character, so the list is both the
representation that runs and the one that statements quantify over.

The module holds the three notions every other module shares: blank characters, trimming, and the
lines of a text.  It says nothing about bytes; `Marginalia.Text.Utf8` does.
-/

namespace Marginalia

/-- A text is the list of its Unicode scalar values. -/
abbrev Text := List Char

namespace Text

/-- The characters with the Unicode property `White_Space`. -/
def isBlank (c : Char) : Bool :=
  let n := c.toNat
  (0x09 ≤ n && n ≤ 0x0D) || n == 0x20 || n == 0x85 || n == 0xA0 || n == 0x1680 ||
    (0x2000 ≤ n && n ≤ 0x200A) || n == 0x2028 || n == 0x2029 || n == 0x202F || n == 0x205F ||
    n == 0x3000

/-- The text without its leading blank characters. -/
def trimStart (text : Text) : Text :=
  text.dropWhile isBlank

/-- The text without its trailing characters that satisfy `drop`. -/
def trimEndWhile (drop : Char → Bool) (text : Text) : Text :=
  (text.reverse.dropWhile drop).reverse

/-- The text without its leading and trailing blank characters. -/
def trim (text : Text) : Text :=
  trimEndWhile isBlank (trimStart text)

/-- What follows `lead` when the text starts with it. -/
def dropLead? : (text lead : Text) → Option Text
  | text, [] => some text
  | [], _ :: _ => none
  | a :: text, b :: lead => if a = b then dropLead? text lead else none

/-- Whether the text starts with `lead`. -/
def startsWith (text lead : Text) : Bool :=
  (dropLead? text lead).isSome

/-- The ASCII letters in lower case, every other character as it is. -/
def toLowerAscii (text : Text) : Text :=
  text.map Char.toLower

/--
The lines of a text.  A line ends at a line feed, and one carriage return directly before that line
feed belongs to the ending.  A final ending adds no further line, and a last line that is not ended
keeps a carriage return it may have.
-/
def lines : Text → List Text
  | [] => []
  | '\n' :: rest => [] :: lines rest
  | '\r' :: '\n' :: rest => [] :: lines rest
  | c :: rest =>
    match lines rest with
    | [] => [[c]]
    | line :: others => (c :: line) :: others

/-- The given lines with a line feed between neighbours. -/
def joinLines (parts : List Text) : Text :=
  ['\n'].intercalate parts

end Text

end Marginalia
