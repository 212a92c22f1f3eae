import Marginalia.Markdown.Inline

/-!
# Link destinations, titles and labels

The parts of links and of link definitions.  Readers return what they read and what follows it.  A
link definition at the start of a paragraph defines the target of its label; what is left of the
paragraph is prose.
-/

namespace Marginalia.Markdown.Link

/-- The longest label, in bytes. -/
def longestLabel : Nat := 1000

/-- The deepest nesting of parentheses in a destination. -/
def deepestParens : Nat := 32

/-- A label up to its closing bracket, after `used` bytes.  Brackets inside must be escaped. -/
def labelFrom? : (used : Nat) → Text → Option (Text × Text)
  | used, text =>
    match text with
    | [] => none
    | ']' :: rest => if used ≤ longestLabel then some ([], rest) else none
    | '[' :: _ => none
    | '\\' :: c :: rest =>
      if longestLabel < used then none
      else if isPunct c then
        (labelFrom? (used + 2) rest).map fun found => ('\\' :: c :: found.1, found.2)
      else (labelFrom? (used + 1) (c :: rest)).map fun found => ('\\' :: found.1, found.2)
    | c :: rest =>
      if longestLabel < used then none
      else (labelFrom? (used + c.utf8Size) rest).map fun found => (c :: found.1, found.2)
termination_by _ text => text.length

/-- A label in brackets, without the blanks around it. -/
def label? : Text → Option (Text × Text)
  | '[' :: rest => (labelFrom? 0 rest).map fun found => (trimBoth found.1, found.2)
  | _ => none

/-- Runs of blanks as one space each. -/
def collapseBlanks (afterBlank : Bool) : Text → Text
  | [] => []
  | c :: rest =>
    if Text.isBlank c then
      if afterBlank then collapseBlanks true rest else ' ' :: collapseBlanks true rest
    else c :: collapseBlanks false rest

/-- A label as it is compared: without blanks around it, with single spaces inside, and without
regard to case. -/
def normalizeLabel (label : Text) : Text :=
  (collapseBlanks false (trimBoth label)).flatMap Unicode.CaseFolding.full

/-- A destination in angle brackets: everything up to the closing one on the same line. -/
def pointyDestination? : Text → Option (Text × Text)
  | [] => none
  | '>' :: rest => some ([], rest)
  | '\\' :: c :: rest => (pointyDestination? rest).map fun found => ('\\' :: c :: found.1, found.2)
  | c :: rest =>
    if c = '\n' ∨ c = '<' then none
    else (pointyDestination? rest).map fun found => (c :: found.1, found.2)

/-- A destination without brackets: no blanks, and parentheses in pairs.  It must be followed by
something. -/
def bareDestination? (depth : Nat) : Text → Option (Text × Text)
  | [] => none
  | '\\' :: c :: rest =>
    if isPunct c then
      (bareDestination? depth rest).map fun found => ('\\' :: c :: found.1, found.2)
    else (bareDestination? depth (c :: rest)).map fun found => ('\\' :: found.1, found.2)
  | c :: rest =>
    if c = '(' then
      if deepestParens ≤ depth then none
      else (bareDestination? (depth + 1) rest).map fun found => (c :: found.1, found.2)
    else if c = ')' then
      match depth with
      | 0 => some ([], c :: rest)
      | depth + 1 => (bareDestination? depth rest).map fun found => (c :: found.1, found.2)
    else if isSpace c || isControl c then
      if depth = 0 then some ([], c :: rest) else none
    else (bareDestination? depth rest).map fun found => (c :: found.1, found.2)

/-- The destination that a text starts with, and what follows it. -/
def destination? : Text → Option (Text × Text)
  | '<' :: rest => do
    let (destination, rest) ← pointyDestination? rest
    if rest.isEmpty then none else some (destination, rest)
  | [] => none
  | c :: rest => if isSpace c || isControl c then none else bareDestination? 0 (c :: rest)

/-- Where a title can be while it is read: inside, and possibly just behind a backslash. -/
structure TitleState where
  inside : Bool
  escaped : Bool

/-- The longest title that ends at `closer`, after the opening mark.  A backslash may stand for itself
or escape the next mark, whichever reaches further; `taken` is what has been read, latest first, and
`best` the longest title so far. -/
def titleFrom (opener closer : Char) (state : TitleState) (taken : Text)
    (best : Option (Text × Text)) : Text → Option (Text × Text)
  | [] => best
  | c :: rest =>
    let closes := state.inside && c == closer
    let best := if closes then some ((c :: taken).reverse, rest) else best
    let plain := state.inside && c != closer && c != opener
    let next : TitleState :=
      { inside := plain || (state.escaped && isPunct c), escaped := state.inside && c == '\\' }
    if next.inside || next.escaped then titleFrom opener closer next (c :: taken) best rest else best

/-- The title that a text starts with, its marks included, and what follows it. -/
def title? : Text → Option (Text × Text)
  | [] => none
  | c :: rest =>
    if c = quotation ∨ c = apostrophe then titleFrom c c ⟨true, false⟩ [c] none rest
    else if c = '(' then titleFrom '(' ')' ⟨true, false⟩ [c] none rest
    else none

/-- A destination with references and escapes replaced. -/
def cleanDestination (written : Text) : Text :=
  removeEscapes (decodeReferences (trimBoth written))

/-- A title without its marks, with references and escapes replaced. -/
def cleanTitle (written : Text) : Text :=
  removeEscapes (decodeReferences written.tail.dropLast)

/-- Blanks within a line, then possibly one line ending and more blanks. -/
def skipBlanksAndLine (text : Text) : Text :=
  match text.dropWhile isSpaceOrTab with
  | '\n' :: rest => rest.dropWhile isSpaceOrTab
  | rest => rest

/-- What follows the rest of a line, if that is blank. -/
def blankLineRest? (text : Text) : Option Text :=
  match text.dropWhile isSpaceOrTab with
  | '\n' :: rest => some rest
  | [] => some []
  | _ => none

/-- The link definition that a text starts with, and what follows it. -/
def definition? (text : Text) : Option ((Text × Target) × Text) := do
  let (label, rest) ← label? text
  if label.isEmpty then none
  else
    match rest with
    | ':' :: rest =>
      let (destination, afterDestination) ← destination? (skipBlanksAndLine rest)
      let beforeTitle := skipBlanksAndLine afterDestination
      let titled :=
        if beforeTitle.length = afterDestination.length then none else title? beforeTitle
      let (title, after) ←
        match titled with
        | some (title, afterTitle) =>
          match blankLineRest? afterTitle with
          | some after => some (title, after)
          | none => (blankLineRest? afterDestination).map fun after => (title, after)
        | none => (blankLineRest? afterDestination).map fun after => ([], after)
      some ((normalizeLabel label, ⟨cleanDestination destination, cleanTitle title⟩), after)
    | _ => none

/-- Take the definitions off the start of a paragraph. -/
def takeDefinitions (references : References) : Nat → Text → References × Text
  | 0, text => (references, text)
  | fuel + 1, text =>
    match text with
    | '[' :: _ =>
      match definition? text with
      | some ((label, target), rest) =>
        let known := label.isEmpty || (references.lookup label).isSome
        takeDefinitions (if known then references else references ++ [(label, target)]) fuel rest
      | none => (references, text)
    | _ => (references, text)

/-- The definitions at the start of a paragraph join the references; the rest is its prose. -/
def resolveDefinitions (references : References) (text : Text) : References × Text :=
  takeDefinitions references (text.length + 1) text

/-! ## Rendering destinations -/

/-- The characters of a destination that are written as they are. -/
def isSafe (c : Char) : Bool :=
  c.isAlphanum || "-_.+!*(),%#@?=;:/$~".toList.contains c

/-- Destinations that could run code or read local files, except images given as data. -/
def isDangerous (destination : Text) : Bool :=
  let lowered := Text.toLowerAscii (destination.take 16)
  let starts (lead : String) : Bool := Text.startsWith lowered lead.toList
  if ["png", "gif", "jpeg", "webp"].any fun kind =>
      Text.startsWith lowered ("data:image/".toList ++ kind.toList) then false
  else starts "javascript:" || starts "vbscript:" || starts "file:" || starts "data:"

end Marginalia.Markdown.Link
