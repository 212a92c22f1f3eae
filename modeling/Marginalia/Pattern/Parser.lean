import Marginalia.Pattern.Program

/-!
# Reading patterns

The written form of patterns: literals, escapes, bracket expressions with set operations, groups with
inline flags, alternatives and repetition.  There is no look-around and there are no references to
groups, so every accepted text is a pattern in the sense of `Pattern`.

The reader keeps the groups that are open on a stack and takes at least one character per step; it is
given as many steps as the text has characters.  Flags set inside a group last to the end of that
group, across its alternatives.
-/

namespace Marginalia

/-- Why a text is not accepted as a pattern. -/
inductive PatternError where
  | malformed
  | tooLarge
  deriving DecidableEq, Repr

namespace Pattern

/-- The switches that inline flags turn on and off. -/
structure Flags where
  ignoreCase : Bool := false
  multiLine : Bool := false
  dotMatchesLine : Bool := false
  swapGreed : Bool := false
  unicode : Bool := true
  anyLineBreak : Bool := false
  extended : Bool := false
  deriving DecidableEq, Repr

namespace Flags

/-- Set the switch with the given letter. -/
def set? (flags : Flags) (on : Bool) : Char → Option Flags
  | 'i' => some { flags with ignoreCase := on }
  | 'm' => some { flags with multiLine := on }
  | 's' => some { flags with dotMatchesLine := on }
  | 'U' => some { flags with swapGreed := on }
  | 'u' => some { flags with unicode := on }
  | 'R' => some { flags with anyLineBreak := on }
  | 'x' => some { flags with extended := on }
  | _ => none

end Flags

namespace Parser

/-- What is left to read. -/
abbrev Input := Text

/-- Skip blanks, and comments from a number sign to the end of its line. -/
def skipComments (inComment : Bool) : Input → Input
  | [] => []
  | c :: rest =>
    if inComment then skipComments (c != '\n') rest
    else if Text.isBlank c then skipComments false rest
    else if c = '#' then skipComments true rest
    else c :: rest

/-- Skip what the extended notation ignores; in the ordinary notation nothing is ignored. -/
def skip (flags : Flags) (input : Input) : Input :=
  if flags.extended then skipComments false input else input

/-- The characters that mean something other than themselves, here or in brackets. -/
def isMeta (c : Char) : Bool :=
  "\\.+*?()|[]^$#&-~".toList.contains c || c == Char.ofNat 0x7B || c == Char.ofNat 0x7D

/-- The characters that stand for themselves after a backslash. -/
def isEscapable (c : Char) : Bool :=
  isMeta c || (c.toNat < 0x80 && !c.isAlphanum && c != '<' && c != '>')

/-- The set of one literal character under the flags.  Without Unicode only ASCII is literal. -/
def literal? (flags : Flags) (c : Char) : Option CharClass :=
  if flags.unicode then
    some (if flags.ignoreCase then .foldCase (.only c) else .only c)
  else if c.toNat < 0x80 then
    some (if flags.ignoreCase then .foldAsciiCase (.only c) else .only c)
  else none

/-- Close a class under case if the flags say so, then complement it if `negated`.  Without Unicode a
class must stay within ASCII, since anything else could split a character. -/
def finishClass? (flags : Flags) (negated : Bool) (chars : CharClass) : Option CharClass :=
  let folded :=
    if flags.ignoreCase then
      if flags.unicode then chars.foldCase else chars.foldAsciiCase
    else chars
  let result := if negated then folded.complement else folded
  if flags.unicode || result.isAscii then some result else none

/-- What a backslash introduces. -/
inductive Escape where
  | char (c : Char)
  | chars (set : CharClass)
  | look (condition : Look)

/-- The value of a hexadecimal digit. -/
def hexValue? (c : Char) : Option Nat :=
  Unicode.Hex.digit? c.toLower

/-- The character with the given number, unless it is out of range or a surrogate. -/
def scalar? (n : Nat) : Option Char :=
  if n.isValidChar then some (Char.ofNat n) else none

/-- Exactly `count` hexadecimal digits after the value `acc`. -/
def hexDigits? (flags : Flags) (acc : Nat) : Nat → Input → Option (Nat × Input)
  | 0, input => some (acc, input)
  | count + 1, input =>
    match input with
    | [] => none
    | c :: rest => do
      let value ← hexValue? c
      hexDigits? flags (16 * acc + value) count (skip flags rest)

/-- Everything up to the next closing brace, without what the notation ignores. -/
def braced? (flags : Flags) : Nat → Input → Option (Text × Input)
  | 0, _ => none
  | fuel + 1, input =>
    match input with
    | [] => none
    | c :: rest =>
      if c = Char.ofNat 0x7D then some ([], rest)
      else do
        let (inner, rest) ← braced? flags fuel (skip flags rest)
        some (c :: inner, rest)

/-- The number that a text of hexadecimal digits writes. -/
def hexNumber? (text : Text) : Option Nat :=
  if text.isEmpty then none
  else text.foldlM (fun acc c => (hexValue? c).map (16 * acc + ·)) 0

/-- A character by its number: `count` digits, or any number of digits in braces. -/
def hexEscape? (flags : Flags) (count : Nat) (input : Input) : Option (Escape × Input) :=
  match skip flags input with
  | [] => none
  | c :: rest =>
    if c = Char.ofNat 0x7B then do
      let (digits, rest) ← braced? flags (rest.length + 1) (skip flags rest)
      let value ← hexNumber? digits
      let char ← scalar? value
      some (.char char, skip flags rest)
    else do
      let (value, rest) ← hexDigits? flags 0 count (c :: rest)
      let char ← scalar? value
      some (.char char, rest)

/-- The parts of a text before and after the first occurrence of `mark`. -/
def splitOnce? (mark : Text) : Text → Option (Text × Text)
  | [] => none
  | c :: rest =>
    match Text.dropLead? (c :: rest) mark with
    | some after => some ([], after)
    | none => (splitOnce? mark rest).map fun parts => (c :: parts.1, parts.2)

/-- The class of a property: a single name, or a name and a value joined by `=`, `:` or `!=`. -/
def property? (query : Text) : Option (Bool × CharClass) :=
  match splitOnce? "!=".toList query with
  | some (name, value) => (CharClass.valued? name value).map (true, ·)
  | none =>
    match splitOnce? ":".toList query with
    | some (name, value) => (CharClass.valued? name value).map (false, ·)
    | none =>
      match splitOnce? "=".toList query with
      | some (name, value) => (CharClass.valued? name value).map (false, ·)
      | none => (CharClass.named? query).map (false, ·)

/-- A class given by a Unicode property, in one letter or in braces. -/
def propertyEscape? (flags : Flags) (negated : Bool) (input : Input) : Option (Escape × Input) := do
  let (query, rest) ←
    match skip flags input with
    | [] => none
    | c :: rest =>
      if c = Char.ofNat 0x7B then braced? flags (rest.length + 1) (skip flags rest)
      else if c = '\\' then none
      else some ([c], skip flags rest)
  if flags.unicode then
    let (inverted, chars) ← property? query
    let chars ← finishClass? flags (negated != inverted) chars
    some (.chars chars, rest)
  else none

/-- A class with a letter of its own, complemented when the letter is a capital. -/
def classEscape? (flags : Flags) (letter : Char) : Option CharClass :=
  let chars : CharClass :=
    match letter.toLower with
    | 'd' => if flags.unicode then .digit else .asciiDigit
    | 's' => if flags.unicode then .space else .asciiSpace
    | _ => if flags.unicode then .word else .asciiWord
  finishClass? { flags with ignoreCase := false } letter.isUpper chars

/-- The characters of words under the flags. -/
def wordClass (flags : Flags) : CharClass :=
  if flags.unicode then .word else .asciiWord

/-- The name of a special word boundary: letters and hyphens, then a closing brace. -/
def boundaryName? (flags : Flags) : Nat → Input → Option (Text × Input)
  | 0, _ => none
  | fuel + 1, input =>
    match input with
    | [] => none
    | c :: rest =>
      if c = Char.ofNat 0x7D then some ([], rest)
      else if c.isAlpha || c = '-' then do
        let (inner, rest) ← boundaryName? flags fuel (skip flags rest)
        some (c :: inner, rest)
      else none

/-- What follows the escape for a word boundary: a name in braces makes it one-sided, and a brace
that starts no name belongs to a repetition. -/
def wordBoundary? (flags : Flags) (input : Input) : Option (Escape × Input) :=
  let plain : Option (Escape × Input) := some (.look (.wordBoundary (wordClass flags)), input)
  match input with
  | [] => plain
  | c :: rest =>
    if c = Char.ofNat 0x7B then
      match skip flags rest with
      | [] => none
      | first :: more =>
        if first.isAlpha || first = '-' then do
          let (name, rest) ← boundaryName? flags (more.length + 2) (first :: more)
          let word := wordClass flags
          if name = "start".toList then some (.look (.wordStart word), rest)
          else if name = "end".toList then some (.look (.wordEnd word), rest)
          else if name = "start-half".toList then some (.look (.noWordBefore word), rest)
          else if name = "end-half".toList then some (.look (.noWordAfter word), rest)
          else none
        else plain
    else plain

/-- What a backslash introduces, given what follows it. -/
def escape? (flags : Flags) : Input → Option (Escape × Input)
  | [] => none
  | c :: rest =>
    if c.isDigit then none
    else if isEscapable c then some (.char c, rest)
    else
      match c with
      | 'x' => hexEscape? flags 2 rest
      | 'u' => hexEscape? flags 4 rest
      | 'U' => hexEscape? flags 8 rest
      | 'p' => propertyEscape? flags false rest
      | 'P' => propertyEscape? flags true rest
      | 'd' | 's' | 'w' | 'D' | 'S' | 'W' =>
        (classEscape? flags c).map fun chars => (.chars chars, rest)
      | 'a' => some (.char (Char.ofNat 0x07), rest)
      | 'f' => some (.char (Char.ofNat 0x0C), rest)
      | 't' => some (.char '\t', rest)
      | 'n' => some (.char '\n', rest)
      | 'r' => some (.char '\r', rest)
      | 'v' => some (.char (Char.ofNat 0x0B), rest)
      | 'A' => some (.look .textStart, rest)
      | 'z' => some (.look .textEnd, rest)
      | 'b' => wordBoundary? flags rest
      | 'B' => if flags.unicode then some (.look (.noWordBoundary .word), rest) else none
      | '<' => some (.look (.wordStart (wordClass flags)), rest)
      | '>' => some (.look (.wordEnd (wordClass flags)), rest)
      | _ => none

/-! ## Bracket expressions -/

/-- The operations between the parts of a bracket expression. -/
inductive SetOp where
  | inter
  | minus
  | symmDiff

namespace SetOp

/-- The operation on classes. -/
def apply : SetOp → CharClass → CharClass → CharClass
  | inter => .inter
  | minus => .minus
  | symmDiff => .symmDiff

end SetOp

/-- A class together with how deeply its written form is nested. -/
structure Nested where
  chars : CharClass
  depth : Nat

/-- A bracket expression read in part: the items since the last operation, and the operation that
waits for them. -/
structure Bracket where
  negated : Bool
  items : List Nested := []
  waiting : Option (SetOp × Nested) := none

namespace Bracket

/-- The union of the items since the last operation. -/
def united (bracket : Bracket) : Nested where
  chars := .unionAll (bracket.items.map Nested.chars)
  depth :=
    let deepest := (bracket.items.map Nested.depth).foldl max 0
    if bracket.items.length ≤ 1 then deepest else deepest + 1

/-- Everything read so far as one class.  Operands are closed under case before they are combined. -/
def combined (flags : Flags) (bracket : Bracket) : Nested :=
  let right := bracket.united
  match bracket.waiting with
  | none => right
  | some (op, left) =>
    let fold (chars : CharClass) : CharClass :=
      if flags.ignoreCase then
        if flags.unicode then chars.foldCase else chars.foldAsciiCase
      else chars
    { chars := op.apply (fold left.chars) (fold right.chars)
      depth := max left.depth right.depth + 1 }

/-- The bracket with one more item. -/
def add (bracket : Bracket) (chars : CharClass) (depth : Nat) : Bracket :=
  { bracket with items := bracket.items ++ [⟨chars, depth⟩] }

end Bracket

/-- A member of a bracket expression before it is known whether a range starts with it. -/
inductive Member where
  | char (c : Char)
  | chars (set : CharClass)

/-- Read one member.  A condition on the place is not a member. -/
def member? (flags : Flags) : Input → Option (Member × Input)
  | [] => none
  | c :: rest =>
    if c = '\\' then
      match escape? flags rest with
      | some (.char c, rest) => some (.char c, rest)
      | some (.chars members, rest) => some (.chars members, rest)
      | _ => none
    else some (.char c, rest)

/-- Without Unicode only ASCII characters can be members. -/
def memberAllowed (flags : Flags) (c : Char) : Bool :=
  flags.unicode || c.toNat < 0x80

/-- The class of a single member. -/
def Member.single? (flags : Flags) : Member → Option CharClass
  | char c => if memberAllowed flags c then some (.only c) else none
  | chars members => some members

/-- The class of a range, which is between two characters in order. -/
def Member.range? (flags : Flags) : Member → Member → Option CharClass
  | char low, char high =>
    if low ≤ high && memberAllowed flags low && memberAllowed flags high then some (.range low high)
    else none
  | _, _ => none

/-- A single member or a range of characters.  A hyphen before the closing bracket or before another
hyphen does not make a range. -/
def memberOrRange? (flags : Flags) (input : Input) : Option (CharClass × Input) := do
  let (first, rest) ← member? flags input
  let rest := skip flags rest
  let single := (first.single? flags).map fun chars => (chars, rest)
  match rest with
  | [] => none
  | '-' :: more =>
    match (skip flags more).head? with
    | some ']' => single
    | some '-' => single
    | _ =>
      let (second, rest) ← member? flags (skip flags more)
      (first.range? flags second).map fun chars => (chars, rest)
  | _ => single

/-- The name of a named ASCII class up to the colon and bracket that end it. -/
def posixName? (negated : Bool) (input : Input) : Option ((Bool × CharClass) × Input) :=
  match input.dropWhile (· != ':') with
  | ':' :: ']' :: after =>
    (CharClass.posix? (input.takeWhile (· != ':'))).map fun chars => ((negated, chars), after)
  | _ => none

/-- A named ASCII class such as `[:alpha:]`, given what follows the first bracket. -/
def posix? : Input → Option ((Bool × CharClass) × Input)
  | ':' :: '^' :: rest => posixName? true rest
  | ':' :: rest => posixName? false rest
  | _ => none

/-- Whether a bracket expression is complemented, and what follows the sign of it. -/
def complementSign (flags : Flags) (input : Input) : Bool × Input :=
  match input with
  | '^' :: rest => (true, skip flags rest)
  | _ => (false, input)

/-- Leading hyphens of a bracket expression are literal. -/
def leadingHyphens (flags : Flags) (bracket : Bracket) : Nat → Input → Bracket × Input
  | 0, input => (bracket, input)
  | fuel + 1, input =>
    match input with
    | '-' :: rest => leadingHyphens flags (bracket.add (.only '-') 0) fuel (skip flags rest)
    | _ => (bracket, input)

/-- A closing bracket that comes first in a bracket expression is literal. -/
def leadingBracket? (flags : Flags) (bracket : Bracket) (input : Input) : Option (Bracket × Input) :=
  match input with
  | [] => none
  | ']' :: rest =>
    if bracket.items.isEmpty then
      let rest := skip flags rest
      if rest.isEmpty then none else some (bracket.add (.only ']') 0, rest)
    else some (bracket, input)
  | _ => some (bracket, input)

/-- The start of a bracket expression, after its bracket: a negation, then literal hyphens, then
possibly a literal closing bracket. -/
def openBracket? (flags : Flags) (input : Input) : Option (Bracket × Input) :=
  let (negated, input) := complementSign flags (skip flags input)
  let (bracket, input) := leadingHyphens flags { negated := negated } input.length input
  leadingBracket? flags bracket input

/-- The sign of an operation between the parts of a bracket expression. -/
def setOp? : Input → Option (SetOp × Input)
  | '&' :: '&' :: rest => some (.inter, rest)
  | '-' :: '-' :: rest => some (.minus, rest)
  | '~' :: '~' :: rest => some (.symmDiff, rest)
  | _ => none

/-- Read a bracket expression; `outer` holds the enclosing ones, innermost first. -/
def bracket? (flags : Flags) :
    Nat → (outer : List Bracket) → Bracket → Input → Option (Nested × Input)
  | 0, _, _, _ => none
  | fuel + 1, outer, bracket, input =>
    match skip flags input with
    | [] => none
    | '[' :: rest =>
      match posix? rest with
      | some ((negated, chars), rest) => do
        let chars ← finishClass? flags negated chars
        bracket? flags fuel outer (bracket.add chars 0) rest
      | none => do
        let (inner, rest) ← openBracket? flags rest
        bracket? flags fuel (bracket :: outer) inner rest
    | ']' :: rest => do
      let whole := bracket.combined flags
      let chars ← finishClass? flags bracket.negated whole.chars
      match outer with
      | [] => some (⟨chars, whole.depth + 1⟩, rest)
      | enclosing :: outer =>
        bracket? flags fuel outer (enclosing.add chars (whole.depth + 1)) rest
    | input =>
      match setOp? input with
      | some (op, rest) =>
        bracket? flags fuel outer
          { bracket with items := [], waiting := some (op, bracket.combined flags) } rest
      | none => do
        let (chars, rest) ← memberOrRange? flags input
        bracket? flags fuel outer (bracket.add chars 0) rest

/-! ## Groups, alternatives and repetition -/

/-- A part of a sequence with its size, its nesting depth, and whether it can be repeated: setting
flags is a part that cannot.  The size estimates the instructions that the part is compiled to; it does
not depend on the classes of characters that they read. -/
structure Item where
  pattern : Pattern
  size : Nat := 1
  depth : Nat := 0
  repeatable : Bool := true

/-- The parts of one group: the finished alternatives and the current one. -/
structure Level where
  alternatives : List Item := []
  items : List Item := []

namespace Level

/-- The current alternative as one part. -/
def sequence (level : Level) : Item where
  pattern := .sequence (level.items.map Item.pattern)
  size := (level.items.map Item.size).foldl Nat.add 0
  depth :=
    let deepest := (level.items.map Item.depth).foldl Nat.max 0
    if level.items.length ≤ 1 then deepest else deepest + 1

/-- All alternatives as one part. -/
def whole (level : Level) : Item :=
  let all := level.alternatives ++ [level.sequence]
  { pattern := .alternatives (all.map Item.pattern)
    size := (all.map Item.size).foldl Nat.add 0 + all.length
    depth :=
      let deepest := (all.map Item.depth).foldl Nat.max 0
      if all.length ≤ 1 then deepest else deepest + 1 }

/-- The level with one more part. -/
def add (level : Level) (item : Item) : Level :=
  { level with items := level.items ++ [item] }

/-- Begin another alternative. -/
def alternate (level : Level) : Level where
  alternatives := level.alternatives ++ [level.sequence]
  items := []

end Level

/-- A group that has been opened: the level it interrupts and the flags to return to. -/
structure OpenGroup where
  level : Level
  flags : Flags

/-- Where the reader stands. -/
structure State where
  flags : Flags := {}
  level : Level := {}
  groups : List OpenGroup := []
  names : List Text := []
  input : Input

/-- Whether a character may stand in the name of a group, at its start or later. -/
def nameChar (first : Bool) (c : Char) : Bool :=
  if first then c == '_' || CharClass.alphabetic c
  else c == '_' || c == '.' || c == '[' || c == ']' || CharClass.alphabetic c || CharClass.number c

/-- The name of a group and what follows its closing angle bracket. -/
def groupName? (input : Input) : Option (Text × Input) :=
  let name := input.takeWhile (· != '>')
  match name, input.dropWhile (· != '>') with
  | first :: later, '>' :: rest =>
    if nameChar true first && later.all (nameChar false) then some (name, rest) else none
  | _, _ => none

/-- Read inline flags up to the colon or parenthesis that ends them.  A letter is used once, a minus
sign turns off what follows it and is not last.  The result says whether a colon ended them and
whether there was any flag. -/
def flags? (flags : Flags) (extended : Flags) (off : Bool) (used : List Char) :
    Nat → Input → Option ((Flags × Bool × Bool) × Input)
  | 0, _ => none
  | fuel + 1, input =>
    match input with
    | [] => none
    | c :: rest =>
      if c = ':' ∨ c = ')' then
        if used.head? = some '-' then none
        else some ((flags, c = ':', !used.isEmpty), rest)
      else if c = '-' then
        if off then none else flags? flags extended true ('-' :: used) fuel (skip extended rest)
      else if used.contains c then none
      else
        match flags.set? (!off) c with
        | some changed => flags? changed extended off (c :: used) fuel (skip extended rest)
        | none => none

/-- Open a group that returns to the present flags and goes on with `inner`. -/
def State.openGroup (state : State) (inner : Flags) (input : Input) : State :=
  { state with
    flags := inner
    level := {}
    groups := ⟨state.level, state.flags⟩ :: state.groups
    input := input }

/-- Whether an opening parenthesis introduces a condition on what is around a place. -/
def isLookAround (input : Input) : Bool :=
  ["?=", "?!", "?<=", "?<!"].any fun lead => Text.startsWith input lead.toList

/-- What follows the sign of a named group. -/
def nameSign? (input : Input) : Option Input :=
  Text.dropLead? input "?P<".toList <|> Text.dropLead? input "?<".toList

/-- What an opening parenthesis introduces: a group, or flags for the rest of the present group. -/
def group? (state : State) (input : Input) : Option State :=
  let input := skip state.flags input
  if isLookAround input then none
  else
    match nameSign? input with
    | some named => do
      let (name, rest) ← groupName? named
      if state.names.contains name then none
      else some { state.openGroup state.flags rest with names := name :: state.names }
    | none =>
      match input with
      | '?' :: rest => do
        let ((flags, isGroup, any), rest) ←
          flags? state.flags state.flags false [] (rest.length + 1) rest
        if isGroup then some (state.openGroup flags rest)
        else if any then
          some { state with
            flags := flags
            level := state.level.add { pattern := .empty, size := 0, repeatable := false }
            input := rest }
        else none
      | _ => some (state.openGroup state.flags input)

/-- Close the innermost group. -/
def closeGroup? (state : State) (input : Input) : Option State :=
  match state.groups with
  | [] => none
  | group :: groups =>
    let whole := state.level.whole
    some { state with
      flags := group.flags
      level := group.level.add { whole with depth := whole.depth + 1 }
      groups := groups
      input := input }

/-- Repeat the last part of the present sequence.  A question mark after the operator, already
removed from `input`, is `lazy`. -/
def repeat? (state : State) (least : Nat) (most : Option Nat) (lazy : Bool) (input : Input) :
    Option State :=
  match state.level.items.getLast? with
  | none => none
  | some item =>
    if item.repeatable then
      let greedy := lazy == state.flags.swapGreed
      let count := (most.getD least) + 1
      some { state with
        level := { state.level with
          items := state.level.items.dropLast ++
            [{ pattern := item.pattern.copies least most greedy
               size := (item.size + 1) * count
               depth := item.depth + 1 }] }
        input := input }
    else none

/-- Whether the input starts with the sign of a lazy repetition, and what follows. -/
def lazySign (input : Input) : Bool × Input :=
  match input with
  | '?' :: rest => (true, rest)
  | _ => (false, input)

/-- A decimal number with blanks around it; it fits in 32 bits.  The inner result is absent when
there is no digit. -/
def decimal? (flags : Flags) (input : Input) : Option (Option Nat × Input) :=
  let rec digits (fuel : Nat) (acc : Text) (input : Input) : Text × Input :=
    match fuel with
    | 0 => (acc, input)
    | fuel + 1 =>
      match input with
      | c :: rest => if c.isDigit then digits fuel (acc ++ [c]) (skip flags rest) else (acc, input)
      | [] => (acc, input)
  let input := input.dropWhile Text.isBlank
  let (written, rest) := digits input.length [] input
  let rest := skip flags (rest.dropWhile Text.isBlank)
  if written.isEmpty then some (none, rest)
  else
    let value := written.foldl (fun acc c => 10 * acc + (c.toNat - '0'.toNat)) 0
    if value < 0x100000000 then some (some value, rest) else none

/-- The upper count of a repetition, after the lower one.  A comma with no number behind it leaves the
repetition without an upper bound; without a comma the count is exact. -/
def upperCount? (flags : Flags) (least : Nat) (input : Input) : Option (Option Nat × Input) :=
  match input with
  | ',' :: rest =>
    let rest := skip flags rest
    match rest with
    | [] => none
    | c :: _ =>
      if c = Char.ofNat 0x7D then some (none, rest)
      else do
        let (most, rest) ← decimal? flags rest
        let most ← most
        some (some most, rest)
  | _ => some (some least, input)

/-- The counts of a repetition, after its opening brace. -/
def counts? (flags : Flags) (input : Input) : Option ((Nat × Option Nat) × Input) := do
  let input := skip flags input
  if input.isEmpty then none
  else
    let (least, rest) ← decimal? flags input
    let least ← least
    let (most, rest) ← upperCount? flags least rest
    match rest with
    | c :: rest =>
      if c = Char.ofNat 0x7D ∧ least ≤ most.getD least then some ((least, most), rest) else none
    | [] => none

/-- The set that a dot stands for. -/
def dot? (flags : Flags) : Option CharClass :=
  if flags.unicode then
    some (if flags.dotMatchesLine then .any
      else if flags.anyLineBreak then .complement (.union (.only '\r') (.only '\n'))
      else .complement (.only '\n'))
  else none

/-- The condition that a circumflex stands for. -/
def lineStart (flags : Flags) : Look :=
  if flags.multiLine then
    if flags.anyLineBreak then .breakStart else .lineStart
  else .textStart

/-- The condition that a dollar sign stands for. -/
def lineEnd (flags : Flags) : Look :=
  if flags.multiLine then
    if flags.anyLineBreak then .breakEnd else .lineEnd
  else .textEnd

/-- Add a part without further structure. -/
def State.addPart (state : State) (pattern : Pattern) (input : Input) : State :=
  { state with level := state.level.add { pattern := pattern }, input := input }

/-- Read one element: a parenthesis, a bar, a bracket expression, a repetition or a primitive. -/
def step? (state : State) (c : Char) (rest : Input) : Option State :=
  let flags := state.flags
  match c with
  | '(' => group? state rest
  | ')' => closeGroup? state rest
  | '|' => some { state with level := state.level.alternate, input := rest }
  | '[' => do
    let (bracket, rest) ← openBracket? flags rest
    let (nested, rest) ← bracket? flags (rest.length + 1) [] bracket rest
    some { state with
      level := state.level.add { pattern := .set nested.chars, depth := nested.depth }
      input := rest }
  | '?' =>
    let (lazy, rest) := lazySign rest
    repeat? state 0 (some 1) lazy rest
  | '*' =>
    let (lazy, rest) := lazySign rest
    repeat? state 0 none lazy rest
  | '+' =>
    let (lazy, rest) := lazySign rest
    repeat? state 1 none lazy rest
  | '.' => (dot? flags).map fun chars => state.addPart (.set chars) rest
  | '^' => some (state.addPart (.look (lineStart flags)) rest)
  | '$' => some (state.addPart (.look (lineEnd flags)) rest)
  | '\\' =>
    match escape? flags rest with
    | some (.char c, rest) => (literal? flags c).map fun chars => state.addPart (.set chars) rest
    | some (.chars chars, rest) => some (state.addPart (.set chars) rest)
    | some (.look condition, rest) => some (state.addPart (.look condition) rest)
    | none => none
  | _ =>
    if c = Char.ofNat 0x7B then do
      let ((least, most), rest) ← counts? flags rest
      let (lazy, rest) := lazySign (skip flags rest)
      repeat? state least most lazy rest
    else (literal? flags c).map fun chars => state.addPart (.set chars) rest

/-- Read elements until the input ends; then no group may be open. -/
def loop? : Nat → State → Option Item
  | 0, _ => none
  | fuel + 1, state =>
    match skip state.flags state.input with
    | [] => if state.groups.isEmpty then some state.level.whole else none
    | c :: rest => do
      let next ← step? state c rest
      loop? fuel next

/-- The deepest nesting that is accepted. -/
def deepest : Nat := 250

/-- The largest pattern that is accepted, in the measure of `Item.size`.  This only approximates a limit on
patterns, which is one on the memory of the compiled program (10 MiB).  Memory grows with the classes that
are read and size does not: `\w{1000}` is over that limit and is accepted here, while `(?:a{1000}){200}` is
within it and is refused here. -/
def largest : Nat := 300000

end Parser

open Marginalia.Pattern.Parser in
/-- Read a pattern. -/
def parse (text : Text) : Except PatternError Pattern :=
  match loop? (text.length + 1) { input := text } with
  | none => .error .malformed
  | some whole =>
    if deepest < whole.depth then .error .malformed
    else if largest < whole.size then .error .tooLarge
    else .ok whole.pattern

end Pattern

end Marginalia
