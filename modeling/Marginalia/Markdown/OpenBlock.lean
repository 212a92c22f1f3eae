import Marginalia.Markdown.Block
import Marginalia.Markdown.Link
import Marginalia.Markdown.RawHtml

/-!
# Open blocks

While a document is read, the blocks that can still grow form a chain from the document down to the
innermost one.  Closing a block turns it into a finished one, which remembers whether its last line was
blank: a list whose items are set apart by blank lines is loose, and that can be known only at its end.
A paragraph gives up the link definitions at its start when it is closed.

The module says how blocks are gathered and closed; which lines open and continue them is the concern
of `Marginalia.Markdown.BlockParser`.
-/

namespace Marginalia.Markdown

/-- The mark of a list: a bullet, or the character after the number. -/
inductive ListMark where
  | bullet (mark : Char)
  | numbered (delimiter : Char)
  deriving DecidableEq, Repr

/-- What closing a block leaves, and whether that ends with a blank line. -/
structure Finished (α : Type) where
  value : α
  endsBlank : Bool

/-- An item of a list: `spread` says that a blank line follows one of its blocks before the last. -/
structure FinishedItem where
  children : List (Block Text)
  endsBlank : Bool
  spread : Bool

/-- The kinds of open blocks, with what has been gathered in them, latest first. -/
inductive Content where
  | document (children : List (Finished (Block Text)))
  | quote (children : List (Finished (Block Text)))
  /-- `tight` is set once it has been decided. -/
  | list (mark : ListMark) (start : Nat) (items : List FinishedItem) (tight : Option Bool)
  /-- The lines of an item are indented by `indent`; `fresh` holds on the line that opens it. -/
  | item (indent : Nat) (fresh : Bool) (children : List (Finished (Block Text)))
  /-- `noTable` once a line of dashes did not fit. -/
  | paragraph (noTable : Bool) (lines : List Text)
  /-- `underlined` tells the two ways to mark a heading apart. -/
  | heading (level : Nat) (underlined : Bool) (lines : List Text)
  | fencedCode (fence : Char) (length offset : Nat) (lines : List Text)
  | indentedCode (lines : List Text)
  | html (kind : RawHtml.BlockKind) (lines : List Text)
  | rule
  | table (alignments : List Table.Alignment) (header : List Text) (rows : List (List Text))
  | row (cells : List Text)

/-- An open block, and whether the last line that reached it was blank. -/
structure OpenBlock where
  content : Content
  lastBlank : Bool := false

namespace OpenBlock

/-- Whether the block can hold blocks of all kinds. -/
def holdsBlocks (frame : OpenBlock) : Bool :=
  match frame.content with
  | .document _ | .quote _ | .item _ _ _ => true
  | _ => false

/-- Whether the block is a paragraph. -/
def isParagraph (frame : OpenBlock) : Bool :=
  match frame.content with
  | .paragraph _ _ => true
  | _ => false

/-- Whether lines are taken into the block as they are. -/
def isVerbatim (frame : OpenBlock) : Bool :=
  match frame.content with
  | .fencedCode _ _ _ _ | .indentedCode _ | .html _ _ => true
  | _ => false

/-- Add a line. -/
def addLine (frame : OpenBlock) (line : Text) : OpenBlock :=
  match frame.content with
  | .paragraph noTable lines => { frame with content := .paragraph noTable (line :: lines) }
  | .heading level underlined lines =>
    { frame with content := .heading level underlined (line :: lines) }
  | .fencedCode fence length offset lines =>
    { frame with content := .fencedCode fence length offset (line :: lines) }
  | .indentedCode lines => { frame with content := .indentedCode (line :: lines) }
  | .html kind lines => { frame with content := .html kind (line :: lines) }
  | _ => frame

/-- Whether a blank line leaves the block ending with a blank line. -/
def notesBlank (frame : OpenBlock) : Bool :=
  match frame.content with
  | .quote _ | .heading _ _ _ | .rule | .fencedCode _ _ _ _ => false
  | .item _ fresh children => !children.isEmpty || !fresh
  | _ => true

/-- Note that a blank line follows the last block inside, which has been closed already. -/
def noteBlankInside (frame : OpenBlock) : OpenBlock :=
  let note : List (Finished (Block Text)) → List (Finished (Block Text))
    | [] => []
    | last :: earlier => { last with endsBlank := true } :: earlier
  match frame.content with
  | .document children => { frame with content := .document (note children) }
  | .quote children => { frame with content := .quote (note children) }
  | .item indent fresh children => { frame with content := .item indent fresh (note children) }
  | .list mark start items tight =>
    let items := match items with
      | [] => []
      | last :: earlier => { last with endsBlank := true } :: earlier
    { frame with content := .list mark start items tight }
  | _ => frame

end OpenBlock

/-! ## Blank lines in lists -/

/-- What a list needs to know about one of its items. -/
structure Spacing where
  endsBlank : Bool
  spread : Bool

/-- The spacing of a chain of open blocks, outermost first, as it is before they are closed. -/
def spacing : List OpenBlock → Spacing
  | [] => ⟨false, false⟩
  | frame :: inner =>
    let below := spacing inner
    match frame.content with
    | .item _ _ children =>
      let marks := children.map (·.endsBlank)
      let (last, earlier) :=
        if inner.isEmpty then (marks.headD false, marks.tail) else (below.endsBlank, marks)
      ⟨frame.lastBlank || last, earlier.any id⟩
    | .list _ _ items _ =>
      let last := if inner.isEmpty then (items.map (·.endsBlank)).headD false else below.endsBlank
      ⟨frame.lastBlank || last, false⟩
    | _ => ⟨frame.lastBlank, false⟩

/-- Whether a list is tight, given its items, latest first: no blank line inside an item between two
blocks, and none after an item but the last. -/
def isTight : List Spacing → Bool
  | [] => true
  | last :: earlier =>
    !last.spread && earlier.all fun item => !item.spread && !item.endsBlank

/-- The spacing of a finished item. -/
def FinishedItem.toSpacing (item : FinishedItem) : Spacing :=
  ⟨item.endsBlank, item.spread⟩

/-- Decide the tightness of a list while blocks inside it are still open. -/
def OpenBlock.decideTight (frame : OpenBlock) (inner : List OpenBlock) : OpenBlock :=
  match frame.content with
  | .list mark start items _ =>
    let finished := items.map FinishedItem.toSpacing
    let all := if inner.isEmpty then finished else spacing inner :: finished
    { frame with content := .list mark start items (some (isTight all)) }
  | _ => frame

/-! ## Closing blocks -/

/-- Whether the first line of a text is blank. -/
def startsBlank (text : Text) : Bool :=
  match text.dropWhile isSpaceOrTab with
  | [] => true
  | c :: _ => isLineEnd c

/-- The text of code without blank lines at its end. -/
def trimCode (text : Text) : Text :=
  let isFiller (c : Char) : Bool := isSpaceOrTab c || isLineEnd c
  let kept := text.trimEndWhile isFiller
  if kept.isEmpty then ['\n']
  else kept ++ (text.drop kept.length).takeWhile (fun c => !isLineEnd c) ++ ['\n']

/-- Lines that were gathered latest first, as one text. -/
def gather (lines : List Text) : Text :=
  lines.reverse.flatten

/-- What closing a block leaves. -/
inductive Closed where
  | nothing
  | block (value : Finished (Block Text))
  | item (value : FinishedItem)
  | row (cells : List Text)

/-- Close a block in which nothing is open.  A paragraph gives up the definitions at its start, and is
nothing if they are all there is. -/
def OpenBlock.close (references : References) (frame : OpenBlock) : References × Closed :=
  let block (value : Block Text) (endsBlank : Bool) : Closed := .block ⟨value, endsBlank⟩
  match frame.content with
  | .document children | .quote children =>
    (references, block (.quote (children.reverse.map (·.value))) frame.lastBlank)
  | .list mark start items tight =>
    let tight := tight.getD (isTight (items.map FinishedItem.toSpacing))
    let first := match mark with
      | .bullet _ => none
      | .numbered _ => some start
    (references, block (.list first tight (items.reverse.map (·.children)))
      (spacing [frame]).endsBlank)
  | .item _ _ children =>
    let found := spacing [frame]
    (references, .item ⟨children.reverse.map (·.value), found.endsBlank, found.spread⟩)
  | .paragraph _ lines =>
    let (references, prose) := Link.resolveDefinitions references (gather lines)
    (references, if startsBlank prose then .nothing else block (.paragraph prose) frame.lastBlank)
  | .heading level _ lines => (references, block (.heading level (gather lines)) frame.lastBlank)
  | .fencedCode _ _ _ lines =>
    let text := gather lines
    let info := text.takeWhile fun c => !isLineEnd c
    let literal := text.drop (info.length + 1)
    (references,
      block (.code (removeEscapes (trimBoth (decodeReferences info))) literal) frame.lastBlank)
  | .indentedCode lines => (references, block (.code [] (trimCode (gather lines))) frame.lastBlank)
  | .html _ lines => (references, block (.html (gather lines)) frame.lastBlank)
  | .rule => (references, block .rule frame.lastBlank)
  | .table alignments header rows =>
    (references, block (.table alignments header rows.reverse) frame.lastBlank)
  | .row cells => (references, .row cells)

/-- Take what a closed block leaves into the block around it. -/
def OpenBlock.absorb (frame : OpenBlock) (closed : Closed) : OpenBlock :=
  match frame.content, closed with
  | .document children, .block value => { frame with content := .document (value :: children) }
  | .quote children, .block value => { frame with content := .quote (value :: children) }
  | .item indent fresh children, .block value =>
    { frame with content := .item indent fresh (value :: children) }
  | .list mark start items tight, .item value =>
    { frame with content := .list mark start (value :: items) tight }
  | .table alignments header rows, .row cells =>
    { frame with content := .table alignments header (cells :: rows) }
  | _, _ => frame

/-- Close a chain of open blocks, outermost first, and take it into the block around it. -/
def closeInto (references : References) (frame : OpenBlock) : List OpenBlock → References × OpenBlock
  | [] => (references, frame)
  | outer :: inner =>
    let (references, outer) := closeInto references outer inner
    let (references, closed) := outer.close references
    (references, frame.absorb closed)

/-! ## The chain of open blocks -/

/-- Where the reader stands within a line: the open blocks that the line reaches, innermost first, with
`container` at their head; those below that it does not continue, outermost first; and the link targets
defined so far. -/
structure Chain where
  container : OpenBlock
  outer : List OpenBlock
  pending : List OpenBlock := []
  references : References := []

namespace Chain

/-- All open blocks, outermost first. -/
def frames (chain : Chain) : List OpenBlock :=
  (chain.container :: chain.outer).reverse ++ chain.pending

/-- Close the blocks that the line does not continue. -/
def closePending (chain : Chain) : Chain :=
  let (references, container) := closeInto chain.references chain.container chain.pending
  { chain with container := container, pending := [], references := references }

/-- Close the container, with all that is open inside it. -/
def closeContainer (chain : Chain) : Chain :=
  match chain.outer with
  | [] => chain.closePending
  | parent :: outer =>
    let (references, parent) :=
      closeInto chain.references parent (chain.container :: chain.pending)
    { container := parent, outer := outer, references := references }

/-- Open a block inside the container. -/
def push (chain : Chain) (frame : OpenBlock) : Chain :=
  let chain := chain.closePending
  { chain with container := frame, outer := chain.container :: chain.outer }

/-- Open a block below the container.  A container that holds no blocks is closed; the tightness of a
list is decided then, as things stand. -/
def add (chain : Chain) (content : Content) : Chain :=
  let chain :=
    if chain.container.holdsBlocks then chain
    else
      { chain with container := chain.container.decideTight chain.pending }.closeContainer
  chain.push { content := content }

/-- The innermost open block. -/
def innermost (chain : Chain) : OpenBlock :=
  chain.pending.getLast?.getD chain.container

/-- Change the innermost open block. -/
def modifyInnermost (chain : Chain) (f : OpenBlock → OpenBlock) : Chain :=
  match chain.pending.reverse with
  | [] => { chain with container := f chain.container }
  | last :: earlier => { chain with pending := (f last :: earlier).reverse }

/-- Note whether the line was blank.  A blank line sets off the last block inside the container, and no
block around the container ends with it. -/
def noteBlank (chain : Chain) (blank : Bool) : Chain :=
  let chain :=
    if blank then
      match chain.pending with
      | [] => { chain with container := chain.container.noteBlankInside }
      | first :: inner => { chain with pending := { first with lastBlank := true } :: inner }
    else chain
  { chain with
    container := { chain.container with lastBlank := blank && chain.container.notesBlank }
    outer := chain.outer.map fun frame => { frame with lastBlank := false } }

end Chain

end Marginalia.Markdown
