import Marginalia.Text.Basic
import Marginalia.Unicode.CaseFolding
import Marginalia.Unicode.Category
import Marginalia.Unicode.Property
import Marginalia.Unicode.Script

/-!
# Character classes

A class is the set of characters that one position of a pattern accepts, kept as its membership
test.  The module has the set operations a pattern can write, closure under case folding, the classes
with a name of their own (digits, word characters, blanks and their ASCII variants), and the look-up
of a Unicode property by name.
-/

namespace Marginalia

/-- A set of characters. -/
abbrev CharClass := Char → Bool

namespace CharClass

/-- Every character. -/
def any : CharClass := fun _ => true

/-- One character. -/
def only (c : Char) : CharClass := fun d => d == c

/-- The characters from `low` to `high`, both included. -/
def range (low high : Char) : CharClass := fun c => low ≤ c && c ≤ high

/-- The members of a table. -/
def table (set : Unicode.CodePointSet) : CharClass := set.contains

/-- The characters in one class or the other. -/
def union (a b : CharClass) : CharClass := fun c => a c || b c

/-- The characters in both classes. -/
def inter (a b : CharClass) : CharClass := fun c => a c && b c

/-- The characters in the first class and not in the second. -/
def minus (a b : CharClass) : CharClass := fun c => a c && !b c

/-- The characters in exactly one of the two classes. -/
def symmDiff (a b : CharClass) : CharClass := fun c => a c != b c

/-- The characters not in the class. -/
def complement (a : CharClass) : CharClass := fun c => !a c

/-- The characters in one of the classes. -/
def unionAll (classes : List CharClass) : CharClass := fun c => classes.any fun a => a c

/-- Closure under simple case folding: a character belongs as soon as one equal to it up to case
does. -/
def foldCase (a : CharClass) : CharClass := fun c => (Unicode.CaseFolding.orbit c).any a

/-- Closure under the case of ASCII letters. -/
def foldAsciiCase (a : CharClass) : CharClass := fun c => a c || a c.toLower || a c.toUpper

/-- No member is a byte value above 127.  A class of single bytes is usable on text exactly then. -/
def isAscii (a : CharClass) : Bool :=
  (List.range 0x80).all fun n => !a (Char.ofNat (0x80 + n))

/-! ## Classes with a name -/

/-- ASCII digits. -/
def asciiDigit : CharClass := range '0' '9'

/-- ASCII letters. -/
def asciiLetter : CharClass := union (range 'a' 'z') (range 'A' 'Z')

/-- ASCII letters, digits and the underscore. -/
def asciiWord : CharClass := unionAll [asciiLetter, asciiDigit, only '_']

/-- The ASCII blanks: tab to carriage return, and the space. -/
def asciiSpace : CharClass := union (range '\t' '\r') (only ' ')

open Unicode in
/-- Letters of every kind. -/
def letter : CharClass :=
  unionAll ([Category.lowercaseLetter, Category.uppercaseLetter, Category.titlecaseLetter,
    Category.modifierLetter, Category.otherLetter].map table)

open Unicode in
/-- Marks of every kind. -/
def mark : CharClass :=
  unionAll ([Category.nonspacingMark, Category.spacingMark, Category.enclosingMark].map table)

open Unicode in
/-- Numerals of every kind. -/
def number : CharClass :=
  unionAll ([Category.decimalNumber, Category.letterNumber, Category.otherNumber].map table)

open Unicode in
/-- Punctuation of every kind. -/
def punctuation : CharClass :=
  unionAll ([Category.connectorPunctuation, Category.dashPunctuation, Category.openPunctuation,
    Category.closePunctuation, Category.initialPunctuation, Category.finalPunctuation,
    Category.otherPunctuation].map table)

open Unicode in
/-- Symbols of every kind. -/
def symbol : CharClass :=
  unionAll ([Category.mathSymbol, Category.currencySymbol, Category.modifierSymbol,
    Category.otherSymbol].map table)

open Unicode in
/-- Separators of every kind. -/
def separator : CharClass :=
  unionAll ([Category.spaceSeparator, Category.lineSeparator, Category.paragraphSeparator].map table)

open Unicode in
/-- Characters assigned to a category, control characters and private use included. -/
def assigned : CharClass :=
  unionAll [letter, mark, number, punctuation, symbol, separator, table Category.control,
    table Category.format, table Category.privateUse]

open Unicode in
/-- Alphabetic characters. -/
def alphabetic : CharClass :=
  unionAll [letter, table Category.letterNumber, table Property.otherAlphabetic]

open Unicode in
/-- Decimal digits of every script. -/
def digit : CharClass := table Category.decimalNumber

open Unicode in
/-- Characters of words: alphabetic characters, marks, digits, connectors and joiners. -/
def word : CharClass :=
  unionAll [alphabetic, mark, digit, table Category.connectorPunctuation, table Property.joinControl]

/-- Blank characters. -/
def space : CharClass := Text.isBlank

open Unicode in
/-- Characters in upper case. -/
def upper : CharClass := union (table Category.uppercaseLetter) (table Property.otherUppercase)

open Unicode in
/-- Characters in lower case. -/
def lower : CharClass := union (table Category.lowercaseLetter) (table Property.otherLowercase)

open Unicode in
/-- Characters that may start an identifier. -/
def identifierStart : CharClass :=
  minus (unionAll [letter, table Category.letterNumber, table Property.otherIdStart])
    (table Property.notIdStart)

open Unicode in
/-- Characters that may continue an identifier. -/
def identifierContinue : CharClass :=
  unionAll [identifierStart,
    minus (unionAll [table Category.nonspacingMark, table Category.spacingMark, digit,
      table Category.connectorPunctuation]) (table Property.notIdStart),
    table Property.otherIdContinue]

open Unicode in
/-- Characters that extend a grapheme. -/
def graphemeExtend : CharClass :=
  unionAll [table Category.nonspacingMark, table Category.enclosingMark,
    table Property.otherGraphemeExtend]

/-! ## Classes by name -/

/-- A name as it is compared: ASCII letters in lower case, without spaces, underscores and hyphens,
and without a leading `is`.  What remains of `isc` keeps its full spelling. -/
def normalizeName (name : Text) : Text :=
  let lowered := name.toLowerAscii
  let keep (text : Text) : Text :=
    text.filter fun c => c != ' ' && c != '_' && c != '-' && c.toNat < 0x80
  match lowered with
  | 'i' :: 's' :: rest =>
    let kept := keep rest
    if kept = ['c'] then "isc".toList else kept
  | _ => keep lowered

open Unicode in
/-- General categories and their groups, by normalised name. -/
def category? (name : Text) : Option CharClass :=
  let named : List (List String × CharClass) := [
    (["l", "letter"], letter),
    (["lc", "casedletter"], unionAll ([Category.lowercaseLetter, Category.uppercaseLetter,
      Category.titlecaseLetter].map table)),
    (["lu", "uppercaseletter"], table Category.uppercaseLetter),
    (["ll", "lowercaseletter"], table Category.lowercaseLetter),
    (["lt", "titlecaseletter"], table Category.titlecaseLetter),
    (["lm", "modifierletter"], table Category.modifierLetter),
    (["lo", "otherletter"], table Category.otherLetter),
    (["m", "mark", "combiningmark"], mark),
    (["mn", "nonspacingmark"], table Category.nonspacingMark),
    (["mc", "spacingmark"], table Category.spacingMark),
    (["me", "enclosingmark"], table Category.enclosingMark),
    (["n", "number"], number),
    (["nd", "decimalnumber", "digit"], table Category.decimalNumber),
    (["nl", "letternumber"], table Category.letterNumber),
    (["no", "othernumber"], table Category.otherNumber),
    (["p", "punctuation", "punct"], punctuation),
    (["pc", "connectorpunctuation"], table Category.connectorPunctuation),
    (["pd", "dashpunctuation"], table Category.dashPunctuation),
    (["ps", "openpunctuation"], table Category.openPunctuation),
    (["pe", "closepunctuation"], table Category.closePunctuation),
    (["pi", "initialpunctuation"], table Category.initialPunctuation),
    (["pf", "finalpunctuation"], table Category.finalPunctuation),
    (["po", "otherpunctuation"], table Category.otherPunctuation),
    (["s", "symbol"], symbol),
    (["sm", "mathsymbol"], table Category.mathSymbol),
    (["sc", "currencysymbol"], table Category.currencySymbol),
    (["sk", "modifiersymbol"], table Category.modifierSymbol),
    (["so", "othersymbol"], table Category.otherSymbol),
    (["z", "separator"], separator),
    (["zs", "spaceseparator"], table Category.spaceSeparator),
    (["zl", "lineseparator"], table Category.lineSeparator),
    (["zp", "paragraphseparator"], table Category.paragraphSeparator),
    (["c", "other"], union (complement assigned) (unionAll ([Category.control, Category.format,
      Category.privateUse].map table))),
    (["cc", "control", "cntrl"], table Category.control),
    (["cf", "format"], table Category.format),
    (["co", "privateuse"], table Category.privateUse),
    (["cn", "unassigned"], complement assigned),
    (["any"], any),
    (["assigned"], assigned),
    (["ascii"], range (Char.ofNat 0) (Char.ofNat 0x7F))]
  (named.find? fun entry => (entry.1.map String.toList).contains name).map Prod.snd

open Unicode in
/-- Properties that are not categories, by normalised name. -/
def property? (name : Text) : Option CharClass :=
  let named : List (List String × CharClass) := [
    (["alphabetic", "alpha"], alphabetic),
    (["uppercase", "upper"], upper),
    (["lowercase", "lower"], lower),
    (["cased"], unionAll [upper, lower, table Category.titlecaseLetter]),
    (["caseignorable", "ci"], unionAll ([Category.nonspacingMark, Category.enclosingMark,
      Category.format, Category.modifierLetter, Category.modifierSymbol,
      Property.otherIgnorable].map table)),
    (["math"], union (table Category.mathSymbol) (table Property.otherMath)),
    (["dash"], union (table Category.dashPunctuation) (table Property.otherDash)),
    (["idstart", "ids"], identifierStart),
    (["idcontinue", "idc"], identifierContinue),
    (["xidstart", "xids"], minus identifierStart (table Property.notXidStart)),
    (["xidcontinue", "xidc"], minus identifierContinue (table Property.notXidContinue)),
    (["graphemeextend", "grext"], graphemeExtend),
    (["graphemebase", "grbase"], minus (unionAll [letter, mark, number, punctuation, symbol,
      table Category.spaceSeparator]) graphemeExtend),
    (["whitespace", "wspace", "space"], space),
    (["asciihexdigit", "ahex"], table Property.asciiHexDigit),
    (["bidicontrol", "bidic"], table Property.bidiControl),
    (["bidimirrored", "bidim"], table Property.bidiMirrored),
    (["defaultignorablecodepoint", "di"], table Property.defaultIgnorable),
    (["deprecated", "dep"], table Property.deprecated),
    (["diacritic", "dia"], table Property.diacritic),
    (["emoji"], table Property.emoji),
    (["emojicomponent", "ecomp"], table Property.emojiComponent),
    (["emojimodifier", "emod"], table Property.emojiModifier),
    (["emojimodifierbase", "ebase"], table Property.emojiModifierBase),
    (["emojipresentation", "epres"], table Property.emojiPresentation),
    (["extendedpictographic", "extpict"], table Property.extendedPictographic),
    (["extender", "ext"], table Property.extender),
    (["hexdigit", "hex"], table Property.hexDigit),
    (["idsbinaryoperator", "idsb"], table Property.idsBinary),
    (["idstrinaryoperator", "idst"], table Property.idsTrinary),
    (["ideographic", "ideo"], table Property.ideographic),
    (["joincontrol", "joinc"], table Property.joinControl),
    (["logicalorderexception", "loe"], table Property.logicalOrderException),
    (["noncharactercodepoint", "nchar"], table Property.noncharacter),
    (["patternsyntax", "patsyn"], table Property.patternSyntax),
    (["patternwhitespace", "patws"], table Property.patternWhiteSpace),
    (["quotationmark", "qmark"], table Property.quotationMark),
    (["radical"], table Property.radical),
    (["regionalindicator", "ri"], table Property.regionalIndicator),
    (["sentenceterminal", "sterm"], table Property.sentenceTerminal),
    (["softdotted", "sd"], table Property.softDotted),
    (["terminalpunctuation", "term"], table Property.terminalPunctuation),
    (["unifiedideograph", "uideo"], table Property.unifiedIdeograph),
    (["variationselector", "vs"], table Property.variationSelector)]
  (named.find? fun entry => (entry.1.map String.toList).contains name).map Prod.snd

/-- The script with the given normalised name. -/
def findScript? (name : Text) : Option Unicode.Script :=
  Unicode.Script.all.find? fun script => (script.names.map String.toList).contains name

/-- The characters of a script, by normalised name. -/
def script? (name : Text) : Option CharClass :=
  (findScript? name).map fun script => table script.members

/-- The characters used with a script, by normalised name. -/
def scriptExtension? (name : Text) : Option CharClass :=
  (findScript? name).map fun script =>
    minus (union (table script.members) (table script.extended)) (table script.shared)

/-- The class a single name stands for.  Properties come before categories, and those before
scripts. -/
def named? (name : Text) : Option CharClass :=
  let normal := normalizeName name
  property? normal <|> category? normal <|> script? normal

/-- The class of the characters for which the property `name` has the given value. -/
def valued? (name value : Text) : Option CharClass :=
  let normal := normalizeName name
  if normal = "generalcategory".toList ∨ normal = "gc".toList then
    category? (normalizeName value)
  else if normal = "script".toList ∨ normal = "sc".toList then
    script? (normalizeName value)
  else if normal = "scriptextensions".toList ∨ normal = "scx".toList then
    scriptExtension? (normalizeName value)
  else Option.none

/-- The classes of ASCII characters that a bracket expression can name. -/
def posix? (name : Text) : Option CharClass :=
  let named : List (String × CharClass) := [
    ("alnum", union asciiLetter asciiDigit),
    ("alpha", asciiLetter),
    ("ascii", range (Char.ofNat 0) (Char.ofNat 0x7F)),
    ("blank", union (only '\t') (only ' ')),
    ("cntrl", union (range (Char.ofNat 0) (Char.ofNat 0x1F)) (only (Char.ofNat 0x7F))),
    ("digit", asciiDigit),
    ("graph", range '!' '~'),
    ("lower", range 'a' 'z'),
    ("print", range ' ' '~'),
    ("punct", unionAll [range '!' '/', range ':' '@', range '[' (Char.ofNat 0x60),
      range (Char.ofNat 0x7B) '~']),
    ("space", asciiSpace),
    ("upper", range 'A' 'Z'),
    ("word", asciiWord),
    ("xdigit", unionAll [asciiDigit, range 'A' 'F', range 'a' 'f'])]
  (named.find? fun entry => entry.1.toList = name).map Prod.snd

end CharClass

end Marginalia
