import Marginalia.Markdown.Character

/-!
# Raw HTML and angle brackets

What may follow an opening angle bracket: an address in angle brackets, a tag, a comment, a
processing instruction, a declaration or a character data section.  Each reader returns what follows
the construct when the text starts with one.
-/

namespace Marginalia.Markdown.RawHtml

/-- What follows the name of a tag. -/
def tagName? : Text → Option Text
  | c :: rest =>
    if c.isAlpha then some (rest.dropWhile fun c => c.isAlphanum || c == '-') else none
  | [] => none

/-- Characters of attribute names after the first. -/
def isAttributeChar (c : Char) : Bool :=
  c.isAlphanum || c == ':' || c == '.' || c == '_' || c == '-'

/-- Characters of attribute values without quotation marks. -/
def isBareValueChar (c : Char) : Bool :=
  !(isSpace c || c == quotation || c == apostrophe || c == '=' || c == '<' || c == '>' ||
    c == backtick)

/-- What follows an attribute value. -/
def attributeValue? : Text → Option Text
  | [] => none
  | c :: rest =>
    if c = quotation ∨ c = apostrophe then
      match rest.dropWhile (· != c) with
      | _ :: rest => some rest
      | [] => none
    else if isBareValueChar c then some (rest.dropWhile isBareValueChar)
    else none

/-- What follows the attributes and the end of an opening tag, given what follows its name. -/
def attributes? : Nat → Text → Option Text
  | 0, _ => none
  | fuel + 1, text =>
    match text.dropWhile isSpace with
    | '>' :: rest => some rest
    | '/' :: '>' :: rest => some rest
    | c :: rest =>
      if (text.head?.any isSpace) && (c.isAlpha || c == '_' || c == ':') then
        let afterName := rest.dropWhile isAttributeChar
        match afterName.dropWhile isSpace with
        | '=' :: value => do
          let rest ← attributeValue? (value.dropWhile isSpace)
          attributes? fuel rest
        | _ => attributes? fuel afterName
      else none
    | [] => none

/-- What follows an opening tag, given what follows its angle bracket. -/
def openTag? (text : Text) : Option Text := do
  let rest ← tagName? text
  attributes? (rest.length + 1) rest

/-- What follows a closing tag, given what follows its angle bracket. -/
def closeTag? : Text → Option Text
  | '/' :: rest => do
    let rest ← tagName? rest
    match rest.dropWhile isSpace with
    | '>' :: rest => some rest
    | _ => none
  | _ => none

/-- What follows a tag, given what follows its angle bracket. -/
def tag? (text : Text) : Option Text :=
  openTag? text <|> closeTag? text

/-- What follows the next occurrence of `closer` after which `stop` comes, where `closer` is one
character written twice; pairs of it that are followed by something else are skipped as a whole. -/
def pastPair (twice stop : Char) : Nat → Text → Option Text
  | 0, _ => none
  | _ + 1, [] => none
  | fuel + 1, c :: rest =>
    if c = twice then
      match rest with
      | d :: e :: more =>
        if d = twice then
          if e = stop then some more else pastPair twice stop fuel more
        else pastPair twice stop fuel (e :: more)
      | _ => none
    else pastPair twice stop fuel rest

/-- What follows a comment, given what follows `<!`. -/
def comment? : Text → Option Text
  | '-' :: '-' :: '>' :: rest => some rest
  | '-' :: '-' :: '-' :: '>' :: rest => some rest
  | '-' :: '-' :: rest => pastPair '-' '>' (rest.length + 1) rest
  | _ => none

/-- What follows a character data section, given what follows `<!`. -/
def characterData? (text : Text) : Option Text :=
  match text.dropLead? "[CDATA[".toList with
  | some rest => pastPair ']' '>' (rest.length + 1) rest
  | none => none

/-- What follows a declaration, given what follows `<!`. -/
def declaration? : Text → Option Text
  | c :: rest =>
    if c.isAlpha then
      match rest.dropWhile (· != '>') with
      | _ :: rest => some rest
      | [] => none
    else none
  | [] => none

/-- What follows a processing instruction, given what follows `<?`. -/
def instruction? : Text → Option Text
  | '?' :: '>' :: rest => some rest
  | _ :: rest => instruction? rest
  | [] => none

/-- What follows any construct of raw HTML, given what follows its angle bracket. -/
def any? : Text → Option Text
  | '!' :: rest => comment? rest <|> characterData? rest <|> declaration? rest
  | '?' :: rest => instruction? rest
  | text => tag? text

/-! ## Addresses in angle brackets -/

/-- A scheme, a colon and no blank up to the closing bracket: the address and what follows. -/
def address? (text : Text) : Option (Text × Text) :=
  match text with
  | [] => none
  | c :: rest =>
    let scheme := rest.takeWhile fun c => c.isAlphanum || c == '.' || c == '+' || c == '-'
    if c.isAlpha && 1 ≤ scheme.length && scheme.length ≤ 31 then
      match rest.drop scheme.length with
      | ':' :: more =>
        let path := more.takeWhile fun c => 0x20 < c.toNat && c != '<' && c != '>'
        match more.drop path.length with
        | '>' :: after => some (c :: scheme ++ ':' :: path, after)
        | _ => none
      | _ => none
    else none

/-- Characters before the at sign of a mail address. -/
def isMailboxChar (c : Char) : Bool :=
  c.isAlphanum || c == backtick || c == apostrophe || c == Char.ofNat 0x7B || c == Char.ofNat 0x7D ||
    ".!#$%&*+/=?^_|~-".toList.contains c

/-- The labels of a mail domain up to a closing bracket: the domain and what follows. -/
def mailDomain? : Nat → Text → Option (Text × Text)
  | 0, _ => none
  | fuel + 1, text =>
    let label := text.takeWhile fun c => c.isAlphanum || c == '-'
    if label.isEmpty || 63 < label.length || label.head? == some '-' ||
        label.getLast? == some '-' then none
    else
      match text.drop label.length with
      | '>' :: rest => some (label, rest)
      | '.' :: rest => do
        let (domain, rest) ← mailDomain? fuel rest
        some (label ++ '.' :: domain, rest)
      | _ => none

/-- A mail address up to a closing bracket. -/
def mailAddress? (text : Text) : Option (Text × Text) :=
  let mailbox := text.takeWhile isMailboxChar
  if mailbox.isEmpty then none
  else
    match text.drop mailbox.length with
    | '@' :: rest => do
      let (domain, rest) ← mailDomain? (rest.length + 1) rest
      some (mailbox ++ '@' :: domain, rest)
    | _ => none

/-! ## Blocks of raw HTML -/

/-- The ways in which a block of raw HTML begins; each has its own end. -/
inductive BlockKind where
  | verbatim
  | comment
  | instruction
  | declaration
  | characterData
  | element
  | loneTag
  deriving DecidableEq, Repr

/-- Elements whose content is taken as it is. -/
def verbatimNames : List Text :=
  ["script", "pre", "textarea", "style"].map String.toList

/-- Elements that begin a block. -/
def blockNames : List Text :=
  ["address", "article", "aside", "base", "basefont", "blockquote", "body", "caption", "center",
   "col", "colgroup", "dd", "details", "dialog", "dir", "div", "dl", "dt", "fieldset", "figcaption",
   "figure", "footer", "form", "frame", "frameset", "h1", "h2", "h3", "h4", "h5", "h6", "head",
   "header", "hr", "html", "iframe", "legend", "li", "link", "main", "menu", "menuitem", "nav",
   "noframes", "ol", "optgroup", "option", "p", "param", "search", "section", "summary", "table",
   "tbody", "td", "tfoot", "th", "thead", "title", "tr", "track", "ul"].map String.toList

/-- The name a text starts with, in lower case, and what follows it. -/
def nameOf (text : Text) : Text × Text :=
  let name := text.takeWhile Char.isAlphanum
  (Text.toLowerAscii name, text.drop name.length)

/-- Whether a name is followed by the end of a tag or by a blank. -/
def endsName (allowSlash : Bool) : Text → Bool
  | '>' :: _ => true
  | '/' :: '>' :: _ => allowSlash
  | c :: _ => isSpace c
  | [] => false

/-- The kind of block that a line begins even within a paragraph. -/
def blockStart? : Text → Option BlockKind
  | '<' :: rest =>
    let (name, after) := nameOf rest
    if verbatimNames.contains name && endsName false after then some .verbatim
    else if Text.startsWith rest "!--".toList then some .comment
    else if rest.head? = some '?' then some .instruction
    else
      match rest with
      | '!' :: c :: _ =>
        if c.isAlpha then some .declaration
        else if Text.startsWith rest "![CDATA[".toList then some .characterData
        else none
      | _ =>
        let (name, after) :=
          match rest with
          | '/' :: rest => nameOf rest
          | _ => nameOf rest
        if blockNames.contains name && endsName true after then some .element else none
  | _ => none

/-- A line that is nothing but one tag begins a block outside a paragraph. -/
def loneTagStart? : Text → Option BlockKind
  | '<' :: rest => do
    let after ← tag? rest
    if after.all isSpace then some .loneTag else none
  | _ => none

/-- Whether `part` occurs in a text. -/
def occursIn (part : Text) : Text → Bool
  | [] => part.isEmpty
  | c :: rest => Text.startsWith (c :: rest) part || occursIn part rest

/-- Whether a block of the given kind ends on a line; the last two kinds end at a blank line. -/
def endsBlock (kind : BlockKind) (line : Text) : Bool :=
  match kind with
  | .verbatim =>
    verbatimNames.any fun name => occursIn ("</".toList ++ name ++ ">".toList) line.toLowerAscii
  | .comment => occursIn "-->".toList line
  | .instruction => occursIn "?>".toList line
  | .declaration => line.contains '>'
  | .characterData => occursIn "]]>".toList line
  | .element => false
  | .loneTag => false

end Marginalia.Markdown.RawHtml
