import Mathlib.Data.List.TakeWhile
import Marginalia.Text.Json
import Marginalia.Unicode.CodePointSet

/-!
# Reading JSON

A reader of JSON texts by recursive descent, for the whole notation: all kinds of values, white space
anywhere between them, every escape including pairs of surrogates, and nothing that the notation does not
allow, such as bare control characters, half a pair, a comma at the end or anything after the value.

A value that is written is read back, whatever stands after it.  The printer's values are fewer than the
reader's, which `JsonValue.toJson` accounts for.  Numbers are kept as they are written, and members of an
object in their order.

A reader that goes on with what it has left compares lengths first.  What is left is always shorter, and the
comparison is there only to say that the reading ends.
-/

namespace Marginalia

/-- A value of any kind. -/
inductive Json where
  | null
  | bool (value : Bool)
  | number (written : Text)
  | text (content : Text)
  | array (items : List Json)
  | object (members : List (Text × Json))

namespace Json

def isSpace (c : Char) : Bool :=
  c == ' ' || c == '\t' || c == '\n' || c == '\r'

def skipSpace (text : Text) : Text :=
  text.dropWhile isSpace

/-! ## Texts -/

/-- A number of four digits in base sixteen. -/
def readUnit : Text → Option (Nat × Text)
  | a :: b :: c :: d :: rest => do
    let a ← Unicode.Hex.digit? a.toLower
    let b ← Unicode.Hex.digit? b.toLower
    let c ← Unicode.Hex.digit? c.toLower
    let d ← Unicode.Hex.digit? d.toLower
    some (0x1000 * a + 0x100 * b + 0x10 * c + d, rest)
  | _ => none

/-- What stands for a character after a backslash. -/
def shortEscape? : Char → Option Char
  | '"' => some '"'
  | '\\' => some '\\'
  | '/' => some '/'
  | 'b' => some '\x08'
  | 'f' => some '\x0c'
  | 'n' => some '\n'
  | 'r' => some '\r'
  | 't' => some '\t'
  | _ => none

/-- A character given by its number.  Above sixteen bits it is given by a pair of surrogates, of which
neither stands alone. -/
def readNumbered (text : Text) : Option (Char × Text) := do
  let (unit, rest) ← readUnit text
  if 0xD800 ≤ unit ∧ unit < 0xDC00 then
    match rest with
    | '\\' :: 'u' :: rest => do
      let (low, rest) ← readUnit rest
      if 0xDC00 ≤ low ∧ low < 0xE000 then
        some (Char.ofNat (0x10000 + 0x400 * (unit - 0xD800) + (low - 0xDC00)), rest)
      else none
    | _ => none
  else if 0xDC00 ≤ unit ∧ unit < 0xE000 then none
  else some (Char.ofNat unit, rest)

/-- A character between quotation marks. -/
def readCharacter : Text → Option (Char × Text)
  | [] => none
  | c :: rest =>
    if c = '\\' then
      match rest with
      | [] => none
      | mark :: rest =>
        if mark = 'u' then readNumbered rest else (shortEscape? mark).map fun escaped => (escaped, rest)
    else if c = '"' ∨ c.toNat < 0x20 then none
    else some (c, rest)

/-- The content of a text, up to the quotation mark that ends it. -/
def readText (text : Text) : Option (Text × Text) :=
  if text.head? = some '"' then some ([], text.tail)
  else
    match readCharacter text with
    | none => none
    | some (c, rest) =>
      if rest.length < text.length then
        (readText rest).map fun (content, after) => (c :: content, after)
      else none
termination_by text.length

/-! ## Numbers and words -/

def readDigits (text : Text) : Option (Text × Text) :=
  let digits := text.takeWhile Char.isDigit
  if digits.isEmpty then none else some (digits, text.drop digits.length)

/-- One of the given characters, if the text begins with it. -/
def readSign (signs : List Char) : Text → Text × Text
  | [] => ([], [])
  | c :: rest => if c ∈ signs then ([c], rest) else ([], c :: rest)

/-- A number has no superfluous zero before it, and digits on both sides of its point. -/
def readNumber (text : Text) : Option (Text × Text) := do
  let (sign, rest) := readSign ['-'] text
  let (whole, rest) ← if rest.head? = some '0' then some (['0'], rest.tail) else readDigits rest
  let (point, rest) := readSign ['.'] rest
  let (fraction, rest) ← if point.isEmpty then some ([], rest) else readDigits rest
  let (mark, rest) := readSign ['e', 'E'] rest
  let (direction, rest) := if mark.isEmpty then ([], rest) else readSign ['+', '-'] rest
  let (exponent, rest) ← if mark.isEmpty then some ([], rest) else readDigits rest
  some (sign ++ whole ++ point ++ fraction ++ mark ++ direction ++ exponent, rest)

/-- A value that is neither a text nor a collection. -/
def readPlain (text : Text) : Option (Json × Text) :=
  ((text.dropLead? "null".toList).map fun rest => (null, rest)) <|>
    ((text.dropLead? "true".toList).map fun rest => (bool true, rest)) <|>
    ((text.dropLead? "false".toList).map fun rest => (bool false, rest)) <|>
    (readNumber text).map fun (written, rest) => (number written, rest)

/-! ## Values -/

/-- The name of a member, up to the colon after it. -/
def readName (text : Text) : Option (Text × Text) :=
  match skipSpace text with
  | '"' :: rest =>
    match readText rest with
    | none => none
    | some (name, rest) =>
      match skipSpace rest with
      | ':' :: rest => some (name, rest)
      | _ => none
  | _ => none

/-- What stands behind an item of a collection, a comma or the mark that ends it, and whether items follow. -/
def readSeparator (close : Char) (text : Text) : Option (Bool × Text) :=
  match skipSpace text with
  | [] => none
  | c :: rest =>
    if c = ',' then some (true, rest)
    else if c = close then some (false, rest)
    else none

theorem length_skipSpace_le (text : Text) : (skipSpace text).length ≤ text.length :=
  List.length_dropWhile_le isSpace text

mutual

/-- A value at the start of a text, and what follows it. -/
def readValue (text : Text) : Option (Json × Text) :=
  match text with
  | [] => none
  | c :: rest =>
    if c = '"' then (readText rest).map fun (content, after) => (Json.text content, after)
    else if c = '[' then
      if (skipSpace rest).head? = some ']' then some (array [], (skipSpace rest).tail)
      else (readItems rest).map fun (items, after) => (array items, after)
    else if c = '\x7b' then
      if (skipSpace rest).head? = some '\x7d' then some (object [], (skipSpace rest).tail)
      else (readMembers rest).map fun (members, after) => (object members, after)
    else readPlain (c :: rest)
termination_by (text.length, 0)

/-- The items of an array that has one, and its end. -/
def readItems (text : Text) : Option (List Json × Text) :=
  match readValue (skipSpace text) with
  | none => none
  | some (item, rest) =>
    match readSeparator ']' rest with
    | none => none
    | some (false, after) => some ([item], after)
    | some (true, after) =>
      if after.length < text.length then
        (readItems after).map fun (items, after) => (item :: items, after)
      else none
termination_by (text.length, 1)
decreasing_by
  · exact Prod.lex_def.mpr <| (Nat.lt_or_eq_of_le (length_skipSpace_le text)).imp_right
      fun same => ⟨same, Nat.zero_lt_one⟩
  · exact Prod.Lex.left _ _ (by assumption)

/-- The members of an object that has one, and its end. -/
def readMembers (text : Text) : Option (List (Text × Json) × Text) :=
  match readName text with
  | none => none
  | some (name, rest) =>
    if (skipSpace rest).length < text.length then
      match readValue (skipSpace rest) with
      | none => none
      | some (value, rest) =>
        match readSeparator '\x7d' rest with
        | none => none
        | some (false, after) => some ([(name, value)], after)
        | some (true, after) =>
          if after.length < text.length then
            (readMembers after).map fun (members, after) => ((name, value) :: members, after)
          else none
    else none
termination_by (text.length, 1)
decreasing_by
  · exact Prod.Lex.left _ _ (by assumption)
  · exact Prod.Lex.left _ _ (by assumption)

end

/-- A text that is one value, with white space around it. -/
def read (text : Text) : Option Json :=
  match readValue (skipSpace text) with
  | none => none
  | some (value, rest) => if (skipSpace rest).isEmpty then some value else none

example :
    Json.read " \x7b\"a\" : [1, -0.5e+3, null],\t\"\\u00E9\\ud83d\\ude00\": \x7b\x7d, \"b\":true\x7d\n".toList =
      some (.object [("a".toList, .array [.number ['1'], .number "-0.5e+3".toList, .null]),
        ("é😀".toList, .object []), ("b".toList, .bool true)]) := by
  cbv

/-- Neither lists nor texts nor numbers nor words are read leniently. -/
example :
    ["[1,]", "[1 2]", "[] []", "\x7b1:2\x7d", "\"\n\"", "\"\\ud83d\"", "\"\\x41\"", "01", "1.", "nul"].all
      fun text => (Json.read text.toList).isNone := by
  cbv

end Json

/-- A value of the printer, as a reader has it. -/
def JsonValue.toJson : JsonValue → Json
  | text content => .text content
  | array items => .array (items.map toJson)
  | object members => .object (members.map fun member => (member.1, member.2.toJson))
decreasing_by
  · decreasing_tactic
  · have inside := List.sizeOf_lt_of_mem ‹member ∈ members›
    have value : sizeOf member.2 < sizeOf member := by
      cases member
      simp only [Prod.mk.sizeOf_spec]
      omega
    simp only [object.sizeOf_spec]
    omega

namespace Json

open JsonValue

/-! ## Blanks, characters and names -/

theorem all_isSpace_newLine (depth : Nat) : (newLine depth).all isSpace = true := by
  simp [newLine, isSpace]

theorem skipSpace_append_of_all {blank : Text} (all : blank.all isSpace = true) (rest : Text) :
    skipSpace (blank ++ rest) = skipSpace rest :=
  List.dropWhile_append_of_pos (List.all_eq_true.mp all)

theorem skipSpace_cons_of_not {c : Char} (plain : isSpace c = false) (rest : Text) :
    skipSpace (c :: rest) = c :: rest :=
  List.dropWhile_cons_of_neg (by simp [plain])

theorem skipSpace_newLine_cons (outer : Nat) {c : Char} (plain : isSpace c = false) (rest : Text) :
    skipSpace (newLine outer ++ c :: rest) = c :: rest := by
  rw [skipSpace_append_of_all (all_isSpace_newLine outer), skipSpace_cons_of_not plain]

/-- How a character is written: by a letter after a backslash, by its number, or as it is. -/
theorem escapeChar_cases (c : Char) :
    (∃ mark, escapeChar c = ['\\', mark] ∧ mark ≠ 'u' ∧ shortEscape? mark = some c) ∨
      (c.toNat < 0x20 ∧
        escapeChar c = ['\\', 'u', '0', '0', hexDigit (c.toNat / 16), hexDigit (c.toNat % 16)]) ∨
      (escapeChar c = [c] ∧ c ≠ '\\' ∧ c ≠ '"' ∧ 0x20 ≤ c.toNat) := by
  have named {mark : Char} {n : Nat} (same : c.toNat = n)
      (short : shortEscape? mark = some (Char.ofNat n)) : shortEscape? mark = some c := by
    rw [short, ← same, Char.ofNat_toNat]
  unfold escapeChar
  split
  case h_1 same => exact .inl ⟨'b', rfl, by decide, named same rfl⟩
  case h_2 same => exact .inl ⟨'t', rfl, by decide, named same rfl⟩
  case h_3 same => exact .inl ⟨'n', rfl, by decide, named same rfl⟩
  case h_4 same => exact .inl ⟨'f', rfl, by decide, named same rfl⟩
  case h_5 same => exact .inl ⟨'r', rfl, by decide, named same rfl⟩
  case h_6 same => exact .inl ⟨'"', rfl, by decide, named same rfl⟩
  case h_7 same => exact .inl ⟨'\\', rfl, by decide, named same rfl⟩
  case h_8 quote backslash =>
    by_cases control : c.toNat < 0x20
    · exact .inr (.inl ⟨control, by rw [if_pos control]; rfl⟩)
    · refine .inr (.inr ⟨if_neg control, ?_, ?_, Nat.le_of_not_lt control⟩)
      · rintro rfl; exact backslash rfl
      · rintro rfl; exact quote rfl

theorem digit?_hexDigit : ∀ n < 16, Unicode.Hex.digit? (hexDigit n).toLower = some n := by
  decide

/-- A control character is read from its number. -/
theorem readNumbered_control {c : Char} (control : c.toNat < 0x20) (rest : Text) :
    readNumbered ('0' :: '0' :: hexDigit (c.toNat / 16) :: hexDigit (c.toNat % 16) :: rest) =
      some (c, rest) := by
  have zero : Unicode.Hex.digit? '0'.toLower = some 0 := by decide
  have high := digit?_hexDigit (c.toNat / 16) (by omega)
  have low := digit?_hexDigit (c.toNat % 16) (by omega)
  have unit : 0x1000 * 0 + 0x100 * 0 + 0x10 * (c.toNat / 16) + c.toNat % 16 = c.toNat := by omega
  have read : readUnit ('0' :: '0' :: hexDigit (c.toNat / 16) :: hexDigit (c.toNat % 16) :: rest) =
      some (c.toNat, rest) := by
    simp only [readUnit, zero, high, low, Option.bind_eq_bind, Option.bind_some, unit]
  have unpaired : ¬(0xD800 ≤ c.toNat ∧ c.toNat < 0xDC00) := by omega
  have alone : ¬(0xDC00 ≤ c.toNat ∧ c.toNat < 0xE000) := by omega
  simp only [readNumbered, read, Option.bind_eq_bind, Option.bind_some, if_neg unpaired, if_neg alone,
    Char.ofNat_toNat]

theorem readCharacter_escapeChar (c : Char) (rest : Text) :
    readCharacter (escapeChar c ++ rest) = some (c, rest) := by
  obtain ⟨mark, written, numberless, short⟩ | ⟨control, written⟩ | ⟨written, backslash, quote, printable⟩ :=
    escapeChar_cases c
  · simp [written, readCharacter, numberless, short]
  · simp [written, readCharacter, readNumbered_control control]
  · have bare : ¬(c = '"' ∨ c.toNat < 0x20) := by simp [quote, printable]
    simp [written, readCharacter, backslash, bare]

/-- No written character begins with the mark that ends a text. -/
theorem head?_escapeChar_append (c : Char) (rest : Text) :
    (escapeChar c ++ rest).head? ≠ some '"' := by
  obtain ⟨mark, written, -⟩ | ⟨-, written⟩ | ⟨written, -, quote, -⟩ := escapeChar_cases c
  · simp [written]
  · simp [written]
  · simp [written, quote]

theorem escapeChar_ne_nil (c : Char) : escapeChar c ≠ [] := by
  obtain ⟨mark, written, -⟩ | ⟨-, written⟩ | ⟨written, -⟩ := escapeChar_cases c
  all_goals simp [written]

theorem readText_quoted (content rest : Text) :
    readText (content.flatMap escapeChar ++ '"' :: rest) = some (content, rest) := by
  induction content with
  | nil =>
    rw [readText]
    rfl
  | cons c content ih =>
    have shorter : (content.flatMap escapeChar ++ '"' :: rest).length <
        (escapeChar c ++ (content.flatMap escapeChar ++ '"' :: rest)).length := by
      have written := List.length_pos_iff.mpr (escapeChar_ne_nil c)
      simp only [List.length_append]
      omega
    rw [List.flatMap_cons, List.append_assoc, readText, if_neg (head?_escapeChar_append c _)]
    simp only [readCharacter_escapeChar, if_pos shorter, ih, Option.map_some]

theorem quoted_append (content rest : Text) :
    quoted content ++ rest = '"' :: (content.flatMap escapeChar ++ '"' :: rest) := by
  simp [quoted]

/-- A written name, with the colon after it. -/
theorem readName_quoted (depth : Nat) (name rest : Text) :
    readName (newLine depth ++ (quoted name ++ ':' :: rest)) = some (name, rest) := by
  have colon : skipSpace (':' :: rest) = ':' :: rest := skipSpace_cons_of_not (by decide) rest
  rw [readName, quoted_append, skipSpace_newLine_cons depth (by decide)]
  simp only [readText_quoted, colon]

/-- A written value begins with the mark of its kind, which is neither blank nor ends an array. -/
theorem render_eq_cons (depth : Nat) (value : JsonValue) :
    ∃ mark body, value.render depth = mark :: body ∧ isSpace mark = false ∧ mark ≠ ']' := by
  cases value with
  | text content => exact ⟨'"', _, rfl, by decide, by decide⟩
  | array items =>
    have written : ∃ body, (JsonValue.array items).render depth = '[' :: body := by
      cases items with
      | nil => exact ⟨_, rfl⟩
      | cons item rest => exact ⟨_, by rw [render]; rfl⟩
    obtain ⟨body, written⟩ := written
    exact ⟨'[', body, written, by decide, by decide⟩
  | object members =>
    have written : ∃ body, (JsonValue.object members).render depth = '\x7b' :: body := by
      cases members with
      | nil => exact ⟨_, rfl⟩
      | cons member rest => exact ⟨_, by rw [render]; rfl⟩
    obtain ⟨body, written⟩ := written
    exact ⟨'\x7b', body, written, by decide, by decide⟩

theorem skipSpace_render (depth : Nat) (value : JsonValue) (rest : Text) :
    skipSpace (value.render depth ++ rest) = value.render depth ++ rest := by
  obtain ⟨mark, body, written, plain, -⟩ := render_eq_cons depth value
  rw [written, List.cons_append, skipSpace_cons_of_not plain]

/-! ## Collections, item by item -/

/-- A collection ends on a line of its own. -/
theorem readSeparator_newLine (outer : Nat) {close : Char} (plain : isSpace close = false)
    (different : close ≠ ',') (after : Text) :
    readSeparator close (newLine outer ++ close :: after) = some (false, after) := by
  rw [readSeparator, skipSpace_newLine_cons outer plain]
  simp only [if_neg different, if_true]

theorem readSeparator_comma (close : Char) (rest : Text) :
    readSeparator close (',' :: rest) = some (true, rest) :=
  rfl

theorem readItems_last {text rest after : Text} {item : Json}
    (first : readValue (skipSpace text) = some (item, rest))
    (closed : readSeparator ']' rest = some (false, after)) :
    readItems text = some ([item], after) := by
  rw [readItems, first]
  simp only [closed]

theorem readItems_next {text rest more after : Text} {item : Json} {items : List Json}
    (first : readValue (skipSpace text) = some (item, rest))
    (comma : readSeparator ']' rest = some (true, more))
    (shorter : more.length < text.length) (others : readItems more = some (items, after)) :
    readItems text = some (item :: items, after) := by
  rw [readItems, first]
  simp only [comma, if_pos shorter, others, Option.map_some]

theorem readMembers_last {text valued rest after name : Text} {value : Json}
    (named : readName text = some (name, valued)) (shorter : valued.length < text.length)
    (first : readValue (skipSpace valued) = some (value, rest))
    (closed : readSeparator '\x7d' rest = some (false, after)) :
    readMembers text = some ([(name, value)], after) := by
  have valueShorter := Nat.lt_of_le_of_lt (length_skipSpace_le valued) shorter
  rw [readMembers, named]
  simp only [if_pos valueShorter, first, closed]

theorem readMembers_next {text valued rest more after name : Text} {value : Json}
    {members : List (Text × Json)}
    (named : readName text = some (name, valued)) (shorter : valued.length < text.length)
    (first : readValue (skipSpace valued) = some (value, rest))
    (comma : readSeparator '\x7d' rest = some (true, more)) (moreShorter : more.length < text.length)
    (others : readMembers more = some (members, after)) :
    readMembers text = some ((name, value) :: members, after) := by
  have valueShorter := Nat.lt_of_le_of_lt (length_skipSpace_le valued) shorter
  rw [readMembers, named]
  simp only [if_pos valueShorter, first, comma, if_pos moreShorter, others, Option.map_some]

/-! ## What is written is read -/

/-- A value is read from how it is written, at any level and before any text. -/
def Reads (value : JsonValue) : Prop :=
  ∀ depth rest, readValue (value.render depth ++ rest) = some (value.toJson, rest)

theorem Reads.skipping {value : JsonValue} (reads : Reads value) (blank : Text)
    (all : blank.all isSpace = true) (depth : Nat) (rest : Text) :
    readValue (skipSpace (blank ++ (value.render depth ++ rest))) = some (value.toJson, rest) := by
  rw [skipSpace_append_of_all all, skipSpace_render, reads]

theorem renderItems_cons_append (depth : Nat) (item : JsonValue) (items : List JsonValue) (rest : Text) :
    renderItems depth (item :: items) ++ rest =
      ',' :: (newLine depth ++ (item.render depth ++ (renderItems depth items ++ rest))) := by
  simp [renderItems]

/-- A written array after its opening bracket. -/
theorem readItems_render {item : JsonValue} {items : List JsonValue}
    (reads : ∀ value ∈ item :: items, Reads value) (depth outer : Nat) (after : Text) :
    readItems (newLine depth ++ (item.render depth ++ (renderItems depth items ++
        (newLine outer ++ ']' :: after)))) =
      some (item.toJson :: items.map toJson, after) := by
  induction items generalizing item with
  | nil =>
    have first := (reads item List.mem_cons_self).skipping (newLine depth) (all_isSpace_newLine depth)
    exact readItems_last (first depth _) (readSeparator_newLine outer (by decide) (by decide) after)
  | cons next items ih =>
    have first := (reads item List.mem_cons_self).skipping (newLine depth) (all_isSpace_newLine depth)
    have others := ih fun value inside => reads value (List.mem_cons_of_mem item inside)
    rw [renderItems_cons_append]
    refine readItems_next (first depth _) (readSeparator_comma _ _) ?_ others
    simp only [List.length_append, List.length_cons]
    omega

theorem renderMembers_cons_append (depth : Nat) (member : Text × JsonValue)
    (members : List (Text × JsonValue)) (rest : Text) :
    renderMembers depth (member :: members) ++ rest =
      ',' :: (newLine depth ++ (quoted member.1 ++ (':' :: ([' '] ++ (member.2.render depth ++
        (renderMembers depth members ++ rest)))))) := by
  simp [renderMembers]

/-- A written object after its opening brace. -/
theorem readMembers_render {member : Text × JsonValue} {members : List (Text × JsonValue)}
    (reads : ∀ each ∈ member :: members, Reads each.2) (depth outer : Nat) (after : Text) :
    readMembers (newLine depth ++ (quoted member.1 ++ (':' :: ([' '] ++ (member.2.render depth ++
        (renderMembers depth members ++ (newLine outer ++ '\x7d' :: after))))))) =
      some ((member :: members).map fun each => (each.1, each.2.toJson), after) := by
  induction members generalizing member with
  | nil =>
    have first := (reads member List.mem_cons_self).skipping [' '] rfl depth
    refine readMembers_last (readName_quoted depth member.1 _) ?_ (first _)
      (readSeparator_newLine outer (by decide) (by decide) after)
    simp only [List.length_append, List.length_cons]
    omega
  | cons next members ih =>
    have first := (reads member List.mem_cons_self).skipping [' '] rfl depth
    have others := ih fun each inside => reads each (List.mem_cons_of_mem member inside)
    rw [renderMembers_cons_append]
    refine readMembers_next (readName_quoted depth member.1 _) ?_ (first _)
      (readSeparator_comma _ _) ?_ others
    · simp only [List.length_append, List.length_cons]
      omega
    · simp only [List.length_append, List.length_cons]
      omega

/-- Where something stands in a collection, its closing bracket does not follow the opening one. -/
theorem head?_skipSpace_newLine_cons (depth : Nat) (c close : Char) (plain : isSpace c = false)
    (different : c ≠ close) (rest : Text) :
    (skipSpace (newLine depth ++ c :: rest)).head? ≠ some close := by
  rw [skipSpace_newLine_cons depth plain]
  simpa using different

theorem readValue_array {body after : Text} {items : List Json}
    (filled : (skipSpace body).head? ≠ some ']') (inside : readItems body = some (items, after)) :
    readValue ('[' :: body) = some (.array items, after) := by
  rw [readValue, if_neg filled, inside]
  rfl

theorem readValue_object {body after : Text} {members : List (Text × Json)}
    (filled : (skipSpace body).head? ≠ some '\x7d') (inside : readMembers body = some (members, after)) :
    readValue ('\x7b' :: body) = some (.object members, after) := by
  rw [readValue, if_neg filled, inside]
  rfl

theorem readValue_array_nil (rest : Text) : readValue ('[' :: ']' :: rest) = some (.array [], rest) := by
  have closed : (skipSpace (']' :: rest)).head? = some ']' := rfl
  rw [readValue, if_pos closed]
  rfl

theorem readValue_object_nil (rest : Text) :
    readValue ('\x7b' :: '\x7d' :: rest) = some (.object [], rest) := by
  have closed : (skipSpace ('\x7d' :: rest)).head? = some '\x7d' := rfl
  rw [readValue, if_pos closed]
  rfl

theorem reads (value : JsonValue) : Reads value := by
  induction value using toJson.induct with
  | case1 content =>
    intro depth rest
    rw [render, quoted_append, readValue, readText_quoted, toJson]
    rfl
  | case2 items ih =>
    intro depth rest
    rw [toJson]
    cases items with
    | nil =>
      rw [render]
      exact readValue_array_nil rest
    | cons item items =>
      have inside := readItems_render ih (depth + 1) depth rest
      have filled : (skipSpace (newLine (depth + 1) ++ (item.render (depth + 1) ++
          (renderItems (depth + 1) items ++ (newLine depth ++ ']' :: rest))))).head? ≠ some ']' := by
        obtain ⟨mark, body, written, plain, different⟩ := render_eq_cons (depth + 1) item
        rw [written]
        exact head?_skipSpace_newLine_cons (depth + 1) mark ']' plain different _
      simpa [render] using readValue_array filled inside
  | case3 members ih =>
    intro depth rest
    rw [toJson]
    cases members with
    | nil =>
      rw [render]
      exact readValue_object_nil rest
    | cons member members =>
      have inside := readMembers_render ih (depth + 1) depth rest
      have filled := head?_skipSpace_newLine_cons (depth + 1) '"' '\x7d' (by decide) (by decide)
      simp only [quoted_append] at inside
      simpa [render, quoted] using readValue_object (filled _) inside

/-- A value that is written is read, and nothing is left. -/
theorem read_render (value : JsonValue) : Json.read (value.render 0) = some value.toJson := by
  have skipped := skipSpace_render 0 value []
  have whole := reads value 0 []
  rw [List.append_nil] at skipped whole
  rw [Json.read, skipped, whole]
  rfl

end Json

end Marginalia
