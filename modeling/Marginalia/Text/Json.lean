import Marginalia.Text.Basic

/-!
# JSON text

Values made of texts, arrays and objects, and how they are written: two spaces of indentation for each
level, one member to a line, and nothing between the brackets of an empty array or object.
-/

namespace Marginalia

/-- A value without numbers, truth values and null. -/
inductive JsonValue where
  | text (content : Text)
  | array (items : List JsonValue)
  | object (members : List (Text × JsonValue))

namespace JsonValue

/-- A digit in base sixteen. -/
def hexDigit (n : Nat) : Char :=
  if n < 10 then Char.ofNat (0x30 + n) else Char.ofNat (0x61 + (n - 10))

/-- A character as it is written between quotation marks. -/
def escapeChar (c : Char) : Text :=
  match c.toNat with
  | 0x08 => "\\b".toList
  | 0x09 => "\\t".toList
  | 0x0A => "\\n".toList
  | 0x0C => "\\f".toList
  | 0x0D => "\\r".toList
  | 0x22 => "\\\"".toList
  | 0x5C => "\\\\".toList
  | n => if n < 0x20 then "\\u00".toList ++ [hexDigit (n / 16), hexDigit (n % 16)] else [c]

/-- A text in quotation marks. -/
def quoted (content : Text) : Text :=
  "\"".toList ++ content.flatMap escapeChar ++ "\"".toList

/-- A new line, indented by `depth` levels. -/
def newLine (depth : Nat) : Text :=
  '\n' :: List.replicate (2 * depth) ' '

mutual

/-- A value as it is written at a level. -/
def render (depth : Nat) : JsonValue → Text
  | text content => quoted content
  | array [] => "[]".toList
  | array (item :: rest) =>
    "[".toList ++ newLine (depth + 1) ++ render (depth + 1) item ++ renderItems (depth + 1) rest ++
      newLine depth ++ "]".toList
  | object [] => "\x7b\x7d".toList
  | object ((name, value) :: rest) =>
    "\x7b".toList ++ newLine (depth + 1) ++ quoted name ++ ": ".toList ++ render (depth + 1) value ++
      renderMembers (depth + 1) rest ++ newLine depth ++ "\x7d".toList

/-- Further items of an array. -/
def renderItems (depth : Nat) : List JsonValue → Text
  | [] => []
  | item :: rest =>
    ",".toList ++ newLine depth ++ render depth item ++ renderItems depth rest

/-- Further members of an object. -/
def renderMembers (depth : Nat) : List (Text × JsonValue) → Text
  | [] => []
  | (name, value) :: rest =>
    ",".toList ++ newLine depth ++ quoted name ++ ": ".toList ++ render depth value ++
      renderMembers depth rest

end

end JsonValue

end Marginalia
