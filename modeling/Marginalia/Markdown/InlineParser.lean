import Marginalia.Markdown.Autolink
import Marginalia.Markdown.Emphasis
import Marginalia.Markdown.Link
import Marginalia.Markdown.RawHtml

/-!
# Reading inline content

The reader goes through a text once.  It keeps the pieces read so far and the brackets that are still
open; a bracket that closes and has a target turns what stands after it into a link or an image, and
one that has none is text.  Emphasis is paired at those moments and at the end.

Each step takes at least one character, and the reader is given as many steps as the text is long.
-/

namespace Marginalia.Markdown

/-- A bracket that is open: what follows it in the text, whether another one was opened after it, and
the pieces before it, latest first. -/
structure Bracket where
  image : Bool
  inside : Text
  followed : Bool := false
  before : List Piece

namespace Bracket

/-- The bracket as text. -/
def mark (bracket : Bracket) : Piece :=
  .inline (.text (if bracket.image then "![".toList else "[".toList))

end Bracket

/-- Where the reader stands: what it has passed (latest first), what is left, the pieces since the
innermost open bracket (latest first), and the open brackets (innermost first).  Once a link has been
closed, brackets opened before it cannot become links; `linksBlocked` says so until the next bracket.
While `inBrackets`, bare addresses are not links. -/
structure Reader where
  passed : Text := []
  rest : Text
  pieces : List Piece := []
  brackets : List Bracket := []
  linksBlocked : Bool := false
  inBrackets : Bool := false

namespace Reader

/-- Move past a number of characters. -/
def advance (reader : Reader) (count : Nat) : Reader :=
  { reader with
    passed := List.reverseAux (reader.rest.take count) reader.passed
    rest := reader.rest.drop count }

/-- Move on to a later rest of the same text. -/
def moveTo (reader : Reader) (rest : Text) : Reader :=
  reader.advance (reader.rest.length - rest.length)

/-- Add a piece. -/
def push (reader : Reader) (content : Inline) : Reader :=
  { reader with pieces := .inline content :: reader.pieces }

/-- Take a number of characters as a text of their own. -/
def pushText (reader : Reader) (count : Nat) : Reader :=
  (reader.advance count).push (.text (reader.rest.take count))

/-! ## Single marks -/

/-- The end of a line: a break if two spaces come before it.  Blanks at the start of the next line
do not count. -/
def newline (reader : Reader) : Reader :=
  let isBreak :=
    match reader.passed with
    | ' ' :: ' ' :: _ => true
    | _ => false
  let after := reader.moveTo ((reader.rest.drop 1).dropWhile isSpaceOrTab)
  after.push (if isBreak then .lineBreak else .softBreak)

/-- The longest run of backticks that delimits code. -/
def longestFence : Nat := 80

/-- The text up to the next run of exactly `count` backticks, and what follows that run.  `run` is the
number of backticks just passed and `taken` everything passed, latest first. -/
def codeEnd? (count run : Nat) (taken : Text) : Text → Option (Text × Text)
  | [] => if run = count then some ((taken.drop count).reverse, []) else none
  | c :: rest =>
    if c = backtick then codeEnd? count (run + 1) (c :: taken) rest
    else if run = count then some ((taken.drop count).reverse, c :: rest)
    else codeEnd? count 0 (c :: taken) rest

/-- Code with line ends as spaces, and without one space on each side if both are there and something
else is. -/
def normalizeCode (content : Text) : Text :=
  let spaced := content.map fun c => if c = '\n' then ' ' else c
  if spaced.head? = some ' ' ∧ spaced.getLast? = some ' ' ∧ spaced.any (· != ' ') then
    spaced.tail.dropLast
  else spaced

/-- A run of backticks: code up to an equal run, or text. -/
def backticks (reader : Reader) : Reader :=
  let count := (reader.rest.takeWhile (· == backtick)).length
  let ending := if count ≤ longestFence then codeEnd? count 0 [] (reader.rest.drop count) else none
  match ending with
  | some (content, rest) => (reader.moveTo rest).push (.code (normalizeCode content))
  | none => reader.pushText count

/-- A backslash: an escaped mark, a line break, or itself. -/
def backslash (reader : Reader) : Reader :=
  match reader.rest with
  | _ :: c :: _ =>
    if isPunct c then (reader.advance 2).push (.text [c])
    else if c = '\n' then (reader.advance 2).push .lineBreak
    else reader.pushText 1
  | _ => reader.pushText 1

/-- An ampersand: a character reference or itself. -/
def ampersand (reader : Reader) : Reader :=
  match reference? (reader.rest.drop 1) with
  | some (chars, rest) => (reader.moveTo rest).push (.text chars)
  | none => reader.pushText 1

/-- An opening angle bracket: an address, raw HTML, or itself. -/
def angle (reader : Reader) : Reader :=
  let inside := reader.rest.drop 1
  match RawHtml.address? inside with
  | some (address, rest) =>
    let shown := decodeReferences address
    (reader.moveTo rest).push (.link shown [] [.text shown])
  | none =>
    match RawHtml.mailAddress? inside with
    | some (address, rest) =>
      let shown := decodeReferences address
      (reader.moveTo rest).push (.link ("mailto:".toList ++ shown) [] [.text shown])
    | none =>
      match RawHtml.any? inside with
      | some rest =>
        let after := reader.moveTo rest
        after.push (.html (reader.rest.take (reader.rest.length - rest.length)))
      | none => reader.pushText 1

/-- Take back characters that have been read as text. -/
def takeBack : Nat → List Piece → List Piece
  | 0, pieces => pieces
  | count, .inline (.text content) :: rest =>
    if count < content.length then .inline (.text (content.take (content.length - count))) :: rest
    else takeBack (count - content.length) rest
  | _, pieces => pieces
termination_by _ pieces => pieces.length

/-- A colon: the colon of a web address or itself. -/
def colon (reader : Reader) : Reader :=
  match if reader.inBrackets then none else Autolink.web? reader.passed reader.rest with
  | some (count, link, rest) =>
    ({ reader with pieces := takeBack count reader.pieces }.moveTo rest).push link
  | none => reader.pushText 1

/-- A letter w: the start of an address or itself. -/
def letterW (reader : Reader) : Reader :=
  match if reader.inBrackets then none else Autolink.www? reader.passed reader.rest with
  | some (link, rest) => (reader.moveTo rest).push link
  | none => reader.pushText 1

/-- A run of emphasis marks.  Whether it can open or close depends on the characters around it,
tildes left aside: it opens before something that is not blank, closes after something that is not
blank, and next to punctuation only if the other side is blank or punctuation.  Underscores inside a
word do neither. -/
def marks (reader : Reader) (mark : Char) : Reader :=
  let count := (reader.rest.takeWhile (· == mark)).length
  let after := reader.advance count
  let previous := ((reader.passed.dropWhile (· == '~')).head?).getD '\n'
  let next := ((after.rest.dropWhile (· == '~')).head?).getD '\n'
  let left := !Text.isBlank next &&
    !(isUnicodePunct next && !Text.isBlank previous && !isUnicodePunct previous)
  let right := !Text.isBlank previous &&
    !(isUnicodePunct previous && !Text.isBlank next && !isUnicodePunct next)
  let (opens, closes) :=
    if mark = '_' then
      (left && (!right || isUnicodePunct previous), right && (!left || isUnicodePunct next))
    else (left, right)
  if opens || closes then
    { after with
      pieces := .run { mark := mark, length := count, left := count, opens := opens,
                       closes := closes } :: after.pieces }
  else after.push (.text (List.replicate count mark))

/-! ## Brackets -/

/-- Open a bracket after its mark. -/
def openBracket (reader : Reader) (image : Bool) : Reader :=
  let after := reader.advance (if image then 2 else 1)
  let outer :=
    match after.brackets with
    | [] => []
    | top :: below => { top with followed := true } :: below
  { after with
    pieces := []
    brackets := { image := image, inside := after.rest, before := after.pieces } :: outer
    linksBlocked := if image then after.linksBlocked else false
    inBrackets := true }

/-- Give up the innermost bracket: it was text. -/
def dropBracket (reader : Reader) : Reader :=
  match reader.brackets with
  | [] => reader
  | bracket :: outer =>
    { reader with
      pieces := reader.pieces ++ bracket.mark :: bracket.before
      brackets := outer }

/-- Turn the innermost bracket into a link or an image. -/
def closeWith (reader : Reader) (bracket : Bracket) (outer : List Bracket) (target : Target)
    (rest : Text) : Reader :=
  let children := Emphasis.resolve reader.pieces.reverse
  let made : Inline :=
    if bracket.image then .image target.destination target.title children
    else .link target.destination target.title children
  { reader.moveTo rest with
    pieces := .inline made :: bracket.before
    brackets := outer
    linksBlocked := reader.linksBlocked || !bracket.image }

/-- A target in parentheses, and what follows them. -/
def inlineTarget? : Text → Option (Target × Text)
  | '(' :: rest => do
    let (destination, rest) ← Link.destination? (rest.dropWhile isSpace)
    let beforeTitle := rest.dropWhile isSpace
    let (title, rest) :=
      if beforeTitle.length = rest.length then ([], beforeTitle)
      else (Link.title? beforeTitle).getD ([], beforeTitle)
    match rest.dropWhile isSpace with
    | ')' :: rest => some (⟨Link.cleanDestination destination, Link.cleanTitle title⟩, rest)
    | _ => none
  | _ => none

/-- A target by label, and what follows the label: either a label in brackets of its own, or, if
there is none and no bracket was opened inside, the text of the bracket itself. -/
def labelledTarget? (references : References) (bracket : Bracket) (closing : Text) :
    Option (Target × Text) :=
  let after := closing.drop 1
  let own := (bracket.inside.take (bracket.inside.length - closing.length))
  let (label, rest) : Option Text × Text :=
    match Link.label? after with
    | some (label, rest) =>
      if label.isEmpty then (if bracket.followed then some [] else some own, rest)
      else (some label, rest)
    | none => (if bracket.followed then none else some own, after)
  label.bind fun label =>
    (references.lookup (Link.normalizeLabel label)).map fun target => (target, rest)

/-- A closing bracket. -/
def closeBracket (references : References) (reader : Reader) : Reader :=
  let reader := { reader with inBrackets := false }
  match reader.brackets with
  | [] => reader.pushText 1
  | bracket :: outer =>
    if !bracket.image && reader.linksBlocked then reader.dropBracket.pushText 1
    else
      match inlineTarget? (reader.rest.drop 1) with
      | some (target, rest) => reader.closeWith bracket outer target rest
      | none =>
        match labelledTarget? references bracket reader.rest with
        | some (target, rest) => reader.closeWith bracket outer target rest
        | none => reader.dropBracket.pushText 1

/-! ## The reader -/

/-- The characters that interrupt plain text. -/
def isSpecial (c : Char) : Bool :=
  c == backtick || c == quotation || c == apostrophe || "\n_*\\&<[]!:w~".toList.contains c

/-- Plain text up to the next special character, without blanks before the end of a line or after a
line break. -/
def plain (reader : Reader) : Reader :=
  let content := reader.rest.takeWhile fun c => !isSpecial c
  let after := reader.advance content.length
  let content := if after.rest.head? = some '\n' then trimRight content else content
  let content :=
    match reader.pieces with
    | .inline .lineBreak :: _ => trimLeft content
    | _ => content
  after.push (.text content)

/-- Take one step at the given character. -/
def step (references : References) (reader : Reader) (c : Char) : Reader :=
  if c = backtick then reader.backticks
  else
    match c with
    | '\n' => reader.newline
    | '\\' => reader.backslash
    | '&' => reader.ampersand
    | '<' => reader.angle
    | ':' => reader.colon
    | 'w' => reader.letterW
    | '*' => reader.marks '*'
    | '_' => reader.marks '_'
    | '~' => reader.marks '~'
    | '[' => reader.openBracket false
    | ']' => reader.closeBracket references
    | '!' =>
      match reader.rest.drop 1 with
      | '[' :: '^' :: _ => reader.pushText 1
      | '[' :: _ => reader.openBracket true
      | _ => reader.pushText 1
    | _ => if isSpecial c then reader.pushText 1 else reader.plain

/-- Read to the end. -/
def run (references : References) : Nat → Reader → Reader
  | 0, reader => reader
  | fuel + 1, reader =>
    match reader.rest with
    | [] => reader
    | c :: _ => run references fuel (reader.step references c)

/-- All pieces in order; brackets that are still open are text. -/
def allPieces (reader : Reader) : List Piece :=
  (reader.brackets.foldl (fun pieces bracket => pieces ++ bracket.mark :: bracket.before)
    reader.pieces).reverse

end Reader

/-- The inline content of a text. -/
def parseInlines (references : References) (text : Text) : List Inline :=
  let text := trimRight text
  let reader := Reader.run references (text.length + 1) { rest := text }
  Autolink.linkAll (Emphasis.resolve reader.allPieces)

end Marginalia.Markdown
