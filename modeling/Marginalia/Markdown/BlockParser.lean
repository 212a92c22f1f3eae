import Marginalia.Markdown.Cursor
import Marginalia.Markdown.OpenBlock

/-!
# Reading blocks

A document is read line by line.  A line first continues blocks of the open chain from the outside in,
then opens new ones below the last that it continues, and what is left of it is text.  Blocks that the
line does not continue are closed, unless the line is merely the next line of an unfinished paragraph.

Each way to open a block is a recogniser of its own, tried in a fixed order; only the start of a table
needs more than the line itself, since the line above is its first row.
-/

namespace Marginalia.Markdown

/-! ## Continuing blocks -/

/-- The length of the fence that a text is nothing but. -/
def closingFence (fence : Char) (text : Text) : Nat :=
  let length := (text.takeWhile (· == fence)).length
  if 3 ≤ length && startsBlank (text.drop length) then length else 0

/-- How a line relates to an open block. -/
inductive Continuation where
  | stops
  | goesOn (cursor : Cursor)
  /-- The line is the closing fence of code. -/
  | ends

/-- Whether a line continues an open block, and where its content starts; `inner` are the blocks that
are open inside it. -/
def OpenBlock.continues (frame : OpenBlock) (inner : List OpenBlock) (cursor : Cursor) :
    Continuation :=
  match frame.content with
  | .document _ | .list _ _ _ _ | .rule => .goesOn cursor
  | .quote _ =>
    if !cursor.isIndented && cursor.tail.head? == some '>' then
      .goesOn (cursor.advancePastBlanks 1).skipBlank
    else .stops
  | .item indent _ children =>
    if indent ≤ cursor.indent then .goesOn (cursor.advanceColumns indent)
    else if cursor.isBlank && !(children.isEmpty && inner.isEmpty) then
      .goesOn (cursor.advancePastBlanks 0)
    else .stops
  | .fencedCode fence length offset _ =>
    if !cursor.isIndented && length ≤ closingFence fence cursor.tail then .ends
    else .goesOn (cursor.skipBlanks offset)
  | .indentedCode _ =>
    if cursor.isIndented then .goesOn (cursor.advanceColumns tabStop)
    else if cursor.isBlank then .goesOn (cursor.advancePastBlanks 0)
    else .stops
  | .html kind _ =>
    match kind with
    | .element | .loneTag => if cursor.isBlank then .stops else .goesOn cursor
    | _ => .goesOn cursor
  | .paragraph _ _ => if cursor.isBlank then .stops else .goesOn cursor
  | .table _ _ _ => if (Table.row? cursor.tail).isSome then .goesOn cursor else .stops
  | .heading _ _ _ | .row _ => .stops

/-- Continue blocks below the container of a chain, whose pending blocks are `frames`. -/
def matchLine (chain : Chain) (cursor : Cursor) : List OpenBlock → Chain × Option Cursor
  | [] => ({ chain with pending := [] }, some cursor)
  | frame :: inner =>
    match frame.continues inner cursor with
    | .stops => ({ chain with pending := frame :: inner }, some cursor)
    | .goesOn cursor =>
      matchLine { chain with container := frame, outer := chain.container :: chain.outer } cursor inner
    | .ends => ({ chain with pending := frame :: inner }.closePending, none)

/-! ## Opening blocks -/

/-- The level of a heading marked by number signs, and the length of the mark. -/
def numberSigns? (text : Text) : Option (Nat × Nat) :=
  let level := (text.takeWhile (· == '#')).length
  let after := text.drop level
  if 1 ≤ level && level ≤ 6 then
    match after with
    | '\n' :: _ => some (level, level + 1)
    | _ =>
      let blanks := (after.takeWhile isSpaceOrTab).length
      if 1 ≤ blanks then some (level, level + blanks) else none
  else none

/-- The fence that a text starts with: its character and length. -/
def openingFence? (text : Text) : Option (Char × Nat) :=
  match text with
  | [] => none
  | c :: _ =>
    let length := (text.takeWhile (· == c)).length
    if 3 ≤ length && (c == '~' || (c == backtick && !(text.drop length).contains backtick)) then
      some (c, length)
    else none

/-- The level of a heading whose underline a text is. -/
def underline? (text : Text) : Option Nat :=
  match text with
  | '=' :: _ => if startsBlank (text.dropWhile (· == '=')) then some 1 else none
  | '-' :: _ => if startsBlank (text.dropWhile (· == '-')) then some 2 else none
  | _ => none

/-- Whether a text is a rule: at least three equal marks, with blanks between. -/
def isRule (text : Text) : Bool :=
  match text with
  | [] => false
  | c :: _ =>
    let marks := text.filter fun d => !isSpaceOrTab d && d != '\n'
    (c == '*' || c == '_' || c == '-') && 3 ≤ marks.length && marks.all (· == c)

/-- The mark of a list item: its kind, the number it gives, and its length.  Inside a paragraph an item
must not be empty, and a number must be one. -/
def listMark? (inParagraph : Bool) (text : Text) : Option (ListMark × Nat × Nat) :=
  let follows (rest : Text) : Bool :=
    rest.head?.any isSpace && !(inParagraph && startsBlank rest)
  match text with
  | [] => none
  | c :: rest =>
    if c = '*' ∨ c = '-' ∨ c = '+' then
      if follows rest then some (.bullet c, 0, 1) else none
    else
      let digits := (text.take 9).takeWhile Char.isDigit
      let number := digits.foldl (fun acc d => 10 * acc + (d.toNat - '0'.toNat)) 0
      match text.drop digits.length with
      | d :: rest =>
        if !digits.isEmpty && (d == '.' || d == ')') && !(inParagraph && number != 1) &&
            follows rest then
          some (.numbered d, number, digits.length + 1)
        else none
      | [] => none

/-- The deepest level at which a line opens list items. -/
def deepestItem : Nat := 100

/-- A step that opens a block: the chain with the block, what is left of the line, and whether the line
can open no further block. -/
structure Opening where
  chain : Chain
  cursor : Cursor
  done : Bool

/-- Open a quotation. -/
def openQuote? (chain : Chain) (cursor : Cursor) : Option Opening :=
  if cursor.tail.head? == some '>' then
    some ⟨chain.add (.quote []), (cursor.advancePastBlanks 1).skipBlank, false⟩
  else none

/-- Open a heading that number signs mark. -/
def openHeading? (chain : Chain) (cursor : Cursor) : Option Opening :=
  (numberSigns? cursor.tail).map fun (level, length) =>
    ⟨chain.add (.heading level false []), cursor.advancePastBlanks length, true⟩

/-- Open a block of code behind a fence. -/
def openFence? (chain : Chain) (cursor : Cursor) : Option Opening :=
  (openingFence? cursor.tail).map fun (fence, length) =>
    ⟨chain.add (.fencedCode fence length (cursor.rest.length - cursor.tail.length) []),
      cursor.advancePastBlanks length, true⟩

/-- Open a block of raw HTML.  A lone tag does not end a paragraph. -/
def openHtml? (chain : Chain) (cursor : Cursor) : Option Opening :=
  let lone := if chain.container.isParagraph then none else RawHtml.loneTagStart? cursor.tail
  (RawHtml.blockStart? cursor.tail <|> lone).map fun kind =>
    ⟨chain.add (.html kind []), cursor, true⟩

/-- Turn a paragraph into a heading when the line underlines it.  A paragraph that is nothing but
definitions has nothing to underline, and the line becomes its text. -/
def underlineParagraph? (chain : Chain) (cursor : Cursor) : Option Opening :=
  match chain.container.content, underline? cursor.tail with
  | .paragraph noTable lines, some level =>
    let (references, prose) := Link.resolveDefinitions chain.references (gather lines)
    let place (content : Content) : Chain :=
      { chain with
        container := { chain.container with content := content }, references := references }
    if startsBlank prose then some ⟨place (.paragraph noTable [prose]), cursor, true⟩
    else some ⟨place (.heading level true [prose]), cursor.toEnd, true⟩
  | _, _ => none

/-- Open a rule.  A line that could go on with a paragraph further in opens none below a paragraph. -/
def openRule? (allMatched : Bool) (chain : Chain) (cursor : Cursor) : Option Opening :=
  if (allMatched || !chain.container.isParagraph) && isRule cursor.tail then
    some ⟨chain.add .rule, cursor.toEnd, false⟩
  else none

/-- Open an item, and a list for it unless the container is one with the same mark.  The text of an
item starts after the blanks behind its mark, or one column behind the mark if those are more than four
or end the line. -/
def openItem (chain : Chain) (cursor : Cursor) (mark : ListMark) (start length : Nat) : Opening :=
  let afterMark := cursor.advancePastBlanks length
  let blanks := afterMark.indent
  let (padding, after) :=
    if 1 ≤ blanks && blanks ≤ 4 && !afterMark.isBlank then
      (length + blanks, afterMark.advanceColumns blanks)
    else (length + 1, if 0 < blanks then afterMark.advanceColumn else afterMark)
  let sameList :=
    match chain.container.content with
    | .list current _ _ _ => current == mark
    | _ => false
  let chain := if sameList then chain else chain.add (.list mark start [] none)
  ⟨chain.push { content := .item (cursor.indent + padding) true [] }, after, false⟩

/-- Open an item of a list, where `depth` counts the blocks that the line has opened. -/
def openItem? (depth : Nat) (chain : Chain) (cursor : Cursor) : Option Opening :=
  if depth < deepestItem then
    (listMark? chain.container.isParagraph cursor.tail).map fun (mark, start, length) =>
      openItem chain cursor mark start length
  else none

/-- Turn a paragraph into a table when the line is a row of dashes below its last line.  A row of
dashes that does not fit keeps the paragraph from ever becoming one. -/
def openTable? (chain : Chain) (cursor : Cursor) : Option Opening :=
  match chain.container.content, chain.outer with
  | .paragraph false lines, parent :: outer =>
    if Table.isDelimiter cursor.tail then
      match Table.start? (gather lines) cursor.tail with
      | none =>
        let container := { chain.container with content := .paragraph true lines }
        some ⟨{ chain with container := container }, cursor, true⟩
      | some start =>
        let parent := match start.lead with
          | none => parent
          | some lead => parent.absorb (.block ⟨.paragraph lead, false⟩)
        let table : OpenBlock := { content := .table start.alignments start.header [] }
        some ⟨{ chain with container := table, outer := parent :: outer }, cursor.toEnd, false⟩
    else none
  | _, _ => none

/-- Open a row of the table that is the container. -/
def openRow? (chain : Chain) (cursor : Cursor) : Option Opening :=
  match chain.container.content with
  | .table alignments _ _ =>
    if cursor.isBlank then none
    else
      (Table.row? cursor.tail).map fun row =>
        ⟨chain.push { content := .row (Table.fit alignments.length row.cells) }, cursor.toEnd, false⟩
  | _ => none

/-- Open indented code, unless the line could go on with a paragraph. -/
def openIndented? (lazy : Bool) (chain : Chain) (cursor : Cursor) : Option Opening :=
  if !lazy && !cursor.isBlank then
    some ⟨chain.add (.indentedCode []), cursor.advanceColumns tabStop, true⟩
  else none

/-- Try to open one block; `lazy` says that the line could go on with a paragraph, and `allMatched`
that it continues all open blocks. -/
def openOne? (lazy allMatched : Bool) (depth : Nat) (chain : Chain) (cursor : Cursor) :
    Option Opening :=
  if cursor.isIndented then openIndented? lazy chain cursor
  else
    openQuote? chain cursor <|> openHeading? chain cursor <|> openFence? chain cursor <|>
      openHtml? chain cursor <|> underlineParagraph? chain cursor <|>
      openRule? allMatched chain cursor <|> openItem? depth chain cursor <|>
      openTable? chain cursor <|> openRow? chain cursor

/-- Open blocks until the container takes lines or nothing more opens.  Each block but the last takes
at least one character. -/
def openBlocks (allMatched : Bool) : Nat → (lazy : Bool) → (depth : Nat) → Chain → Cursor →
    Chain × Cursor
  | 0, _, _, chain, cursor => (chain, cursor)
  | fuel + 1, lazy, depth, chain, cursor =>
    if chain.container.isVerbatim then (chain, cursor)
    else
      match openOne? lazy allMatched depth chain cursor with
      | none => (chain, cursor)
      | some opening =>
        if opening.done then (opening.chain, opening.cursor)
        else openBlocks allMatched fuel false (depth + 1) opening.chain opening.cursor

/-! ## Text -/

/-- A heading without the number signs that close it. -/
def trimHeading (text : Text) : Text :=
  let line := trimRight text
  let content := line.trimEndWhile (· == '#')
  if content.length < line.length && (content.getLast?.all isSpaceOrTab) then trimRight content
  else line

/-- Put what is left of a line into the container, or into a paragraph that the line merely goes on
with. -/
def addText (chain : Chain) (cursor : Cursor) : Chain :=
  let blank := cursor.isBlank
  let chain := chain.noteBlank blank
  if !chain.pending.isEmpty && !blank && chain.innermost.isParagraph then
    chain.modifyInnermost (·.addLine cursor.remainder)
  else
    let chain := chain.closePending
    match chain.container.content with
    | .fencedCode _ _ _ _ | .indentedCode _ =>
      { chain with container := chain.container.addLine cursor.remainder }
    | .html kind _ =>
      let chain := { chain with container := chain.container.addLine cursor.remainder }
      if RawHtml.endsBlock kind cursor.tail then chain.closeContainer else chain
    | .paragraph _ _ | .heading _ true _ =>
      if blank then chain else { chain with container := chain.container.addLine cursor.tail }
    | .heading _ false _ =>
      if blank then chain
      else { chain with container := chain.container.addLine (trimHeading cursor.tail) }
    | _ =>
      if blank then chain
      else
        let chain := chain.add (.paragraph false [])
        { chain with container := chain.container.addLine cursor.tail }

/-! ## The reader -/

/-- An item is fresh only on the line that opens it. -/
def OpenBlock.age (frame : OpenBlock) : OpenBlock :=
  match frame.content with
  | .item indent _ children => { frame with content := .item indent false children }
  | _ => frame

/-- Read a line, which ends with a line feed. -/
def readLine (chain : Chain) (line : Text) : Chain :=
  match chain.frames.map OpenBlock.age with
  | [] => chain
  | document :: inner =>
    let start : Chain := { container := document, outer := [], references := chain.references }
    match matchLine start { rest := line } inner with
    | (chain, none) => chain
    | (chain, some cursor) =>
      let lazy := chain.innermost.isParagraph
      let (after, cursor) :=
        openBlocks chain.pending.isEmpty (line.length + 2) lazy 1 chain cursor
      addText after cursor

/-- The lines of a document, each with a line feed at its end.  A line ends at a line feed, a carriage
return, or both.  A null character cannot be shown and is replaced. -/
def sourceLines : Text → List Text
  | [] => []
  | '\r' :: '\n' :: rest => ['\n'] :: sourceLines rest
  | c :: rest =>
    if isLineEnd c then ['\n'] :: sourceLines rest
    else
      let c := if c.toNat = 0 then Char.ofNat 0xFFFD else c
      match sourceLines rest, rest with
      | line :: others, _ :: _ => (c :: line) :: others
      | lines, _ => [c, '\n'] :: lines

/-- The blocks of a document, with the link targets that it defines.  A byte order mark at its start
does not count. -/
def readBlocks (text : Text) : References × List (Block Text) :=
  let text := match text with
    | c :: rest => if c.toNat = 0xFEFF then rest else text
    | [] => []
  let start : Chain := { container := { content := .document [] }, outer := [] }
  let chain := (sourceLines text).foldl readLine start
  match chain.frames with
  | [] => (chain.references, [])
  | document :: inner =>
    let (references, document) := closeInto chain.references document inner
    match document.content with
    | .document children => (references, children.reverse.map (·.value))
    | _ => (references, [])

end Marginalia.Markdown
