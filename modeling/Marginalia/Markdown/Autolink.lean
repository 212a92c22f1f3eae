import Marginalia.Markdown.Inline

/-!
# Bare addresses

Addresses that are links without any mark: a web address with its scheme, one that starts with
`www.`, and a mail address.  An address reaches to the next blank or angle bracket, less the
punctuation at its end that more likely belongs to the sentence around it.
-/

namespace Marginalia.Markdown.Autolink

/-- Characters at the end of an address that are left to the sentence. -/
def isTrailing (c : Char) : Bool :=
  c == quotation || c == apostrophe || "?!.,:*_~".toList.contains c

/-- Shorten an address, given latest first: trailing punctuation, character references and closing
parentheses without partner are left out. -/
def shorten : Nat → Text → Text
  | 0, reversed => reversed
  | _ + 1, [] => []
  | fuel + 1, c :: rest =>
    if isTrailing c then shorten fuel rest
    else if c = ';' then
      let name := rest.takeWhile Char.isAlpha
      match name, rest.drop name.length with
      | _ :: _, '&' :: before => shorten fuel before
      | _, _ => shorten fuel rest
    else if c = ')' then
      if (c :: rest).count ')' ≤ (c :: rest).count '(' then c :: rest else shorten fuel rest
    else c :: rest

/-- The part of a text that an address takes, cut at the first angle bracket and shortened. -/
def trimAddress (address : Text) : Text :=
  let kept := address.takeWhile (· != '<')
  (shorten (kept.length + 1) kept.reverse).reverse

/-- Characters of host names other than the hyphen, dot and underscore. -/
def isHostChar (c : Char) : Bool :=
  !(Text.isBlank c || isUnicodePunct c)

/-- What has been seen of a host name: the number of dots, and whether the last two parts have
underscores. -/
structure HostState where
  dots : Nat := 0
  earlier : Bool := false
  latest : Bool := false

/-- Whether a text starts with a host name.  Its last two parts have no underscore, and it has a dot
unless short names are allowed. -/
def startsHost (allowShort : Bool) (state : HostState) : Text → Bool
  | [] =>
    if (state.earlier || state.latest) && state.dots ≤ 10 then false
    else allowShort || 0 < state.dots
  | c :: rest =>
    if c = '\\' ∧ rest ≠ [] then startsHost allowShort state rest
    else if c = '_' then startsHost allowShort { state with latest := true } rest
    else if c = '.' then
      startsHost allowShort
        { dots := state.dots + 1, earlier := state.latest, latest := false } rest
    else if isHostChar c || c = '-' then startsHost allowShort state rest
    else !state.earlier && !state.latest && (allowShort || 0 < state.dots)

/-- A link to an address that is shown as it is written. -/
def plainLink (destination shown : Text) : Inline :=
  .link destination [] [.text shown]

/-- Schemes of web addresses. -/
def schemes : List Text :=
  ["http", "https", "ftp"].map String.toList

/-- A web address at its colon, between what has been passed (latest first) and the rest: how many
characters of its scheme have been passed, the link, and what follows. -/
def web? (passed rest : Text) : Option (Nat × Inline × Text) :=
  match rest with
  | ':' :: '/' :: '/' :: c :: more =>
    let scheme := (passed.takeWhile Char.isAlpha).reverse
    if schemes.contains scheme && startsHost true {} (c :: more) then
      let taken := trimAddress (rest.takeWhile fun c => !isSpace c)
      let address := scheme ++ taken
      some (scheme.length, plainLink address address, rest.drop taken.length)
    else none
  | _ => none

/-- An address that starts with `www.`, at a place where a word may start. -/
def www? (passed rest : Text) : Option (Inline × Text) :=
  let startsWord :=
    match passed with
    | [] => true
    | c :: _ => isSpace c || "*_~([".toList.contains c
  if startsWord && Text.startsWith rest "www.".toList && startsHost false {} rest then
    let taken := trimAddress (rest.takeWhile fun c => !isSpace c)
    some (plainLink ("http://".toList ++ taken) taken, rest.drop taken.length)
  else none

/-! ## Mail addresses -/

/-- Characters before the at sign. -/
def isMailboxChar (c : Char) : Bool :=
  c.isAlphanum || c == '.' || c == '+' || c == '-' || c == '_'

/-- What stands before an at sign, in reading order: the mailbox and a scheme that names it as an
address.  The flags say whether there is a scheme and whether it allows a path. -/
def mailbox (acc : Text) (schemed allowsPath : Bool) : Text → Text × Bool × Bool
  | [] => (acc, schemed, allowsPath)
  | c :: passed =>
    if isMailboxChar c then mailbox (c :: acc) schemed allowsPath passed
    else if c = ':' then
      let scheme := (passed.takeWhile Char.isAlpha).reverse
      if scheme = "mailto".toList then mailbox (c :: acc) true allowsPath passed
      else if scheme = "xmpp".toList then mailbox (c :: acc) true true passed
      else (acc, schemed, allowsPath)
    else (acc, schemed, allowsPath)

/-- The host after an at sign, with its number of dots; none if there is another at sign. -/
def mailHost? (allowsPath : Bool) (dots : Nat) (acc : Text) : Text → Option (Text × Nat)
  | [] => some (acc.reverse, dots)
  | c :: rest =>
    if c.isAlphanum then mailHost? allowsPath dots (c :: acc) rest
    else if c = '@' then none
    else if c = '.' && rest.head?.any Char.isAlphanum then
      mailHost? allowsPath (dots + 1) (c :: acc) rest
    else if (c = '/' && allowsPath) || c = '-' || c = '_' then
      mailHost? allowsPath dots (c :: acc) rest
    else some (acc.reverse, dots)

/-- A mail address around an at sign: what comes before it, the link, and what follows. -/
def mail? (passed rest : Text) : Option (Text × Inline × Text) := do
  let (box, schemed, allowsPath) := mailbox [] false false passed
  if box.isEmpty then none
  else
    let (host, dots) ← mailHost? allowsPath 0 [] rest
    if dots = 0 ∨ ¬ (host.getLast?.any fun c => c.isAlpha || c == '.') then none
    else
      let taken := trimAddress ('@' :: host)
      let shown := box ++ taken
      let destination := if schemed then shown else "mailto:".toList ++ shown
      some ((passed.drop box.length).reverse, plainLink destination shown,
        rest.drop (taken.length - 1))

/-- The first mail address in a text.  Text between brackets, counted from the start, has none. -/
def firstMail? (depth : Int) (passed : Text) : Text → Option (Text × Inline × Text)
  | [] => none
  | c :: rest =>
    let depth := if c = '[' then depth + 1 else if c = ']' then depth - 1 else depth
    if depth ≤ 0 ∧ c = '@' then
      match mail? passed rest with
      | some found => some found
      | none => firstMail? depth (c :: passed) rest
    else firstMail? depth (c :: passed) rest

/-- A text with its mail addresses as links. -/
def linkMails : Nat → Text → List Inline
  | 0, text => [.text text]
  | fuel + 1, text =>
    match firstMail? 0 [] text with
    | none => [.text text]
    | some (before, link, after) =>
      .text before :: link :: if after.isEmpty then [] else linkMails fuel after

/-- Neighbouring texts as one. -/
def joinTexts (content : List Inline) : List Inline :=
  content.foldr (fun piece joined =>
    match piece, joined with
    | .text a, .text b :: rest => .text (a ++ b) :: rest
    | _, _ => piece :: joined) []

/-- Joined texts with their mail addresses as links. -/
def expandTexts (content : List Inline) : List Inline :=
  (joinTexts content).flatMap fun
    | .text text => linkMails (text.length + 1) text
    | piece => [piece]

mutual

/-- The mail addresses inside a piece of content as links, except inside links and images. -/
def linkInside : Inline → Inline
  | .emphasis children => .emphasis (expandTexts (linkInsideEach children))
  | .strong children => .strong (expandTexts (linkInsideEach children))
  | .strikethrough children => .strikethrough (expandTexts (linkInsideEach children))
  | piece => piece

/-- The mail addresses inside each of several pieces as links. -/
def linkInsideEach : List Inline → List Inline
  | [] => []
  | piece :: rest => linkInside piece :: linkInsideEach rest

end

/-- The mail addresses of inline content as links. -/
def linkAll (content : List Inline) : List Inline :=
  expandTexts (linkInsideEach content)

end Marginalia.Markdown.Autolink
