/-
  Indented JSON text.

  Items and members stand on lines of their own, with two spaces of indentation a level. In strings
  the double quote, the backslash and the control characters below U+0020 are escaped, and no other.

  * `Json.quote`: a string.
  * `Json.pretty`: a value.
-/
import IsaTable.Json.Basic
import IsaTable.Text.Numeral

namespace IsaTable

namespace Json

/-- A character inside a JSON string. -/
def escape (c : Char) : List Char :=
  if c = '"' then ['\\', '"']
  else if c = '\\' then ['\\', '\\']
  else if c = '\x08' then ['\\', 'b']
  else if c = '\x0c' then ['\\', 'f']
  else if c = '\n' then ['\\', 'n']
  else if c = '\r' then ['\\', 'r']
  else if c = '\t' then ['\\', 't']
  else if c.toNat < 0x20 then
    ['\\', 'u', '0', '0', Text.digitChar (c.toNat / 16), Text.digitChar (c.toNat % 16)]
  else [c]

/-- A JSON string. -/
def quote (text : String) : List Char :=
  '"' :: (text.toList.flatMap escape ++ ['"'])

/-- A line end and the indentation of the line behind it. -/
def newline (depth : Nat) : List Char :=
  '\n' :: List.replicate (2 * depth) ' '

mutual

/-- The text of a value inside `depth` arrays and objects. -/
def pretty (depth : Nat) : Json → List Char
  | null => "null".toList
  | number n => Text.numeral 10 n
  | string text => quote text
  | array [] => ['[', ']']
  | array (item :: items) =>
    '[' :: (newline (depth + 1) ++ pretty (depth + 1) item ++ prettyItems depth items)
  | object [] => ['\x7b', '\x7d']
  | object ((key, value) :: members) =>
    '\x7b' :: (newline (depth + 1) ++ quote key ++ [':', ' '] ++ pretty (depth + 1) value ++
      prettyMembers depth members)

/-- The items of an array after the first, and its end. -/
def prettyItems (depth : Nat) : List Json → List Char
  | [] => newline depth ++ [']']
  | item :: items =>
    ',' :: (newline (depth + 1) ++ pretty (depth + 1) item ++ prettyItems depth items)

/-- The members of an object after the first, and its end. -/
def prettyMembers (depth : Nat) : List (String × Json) → List Char
  | [] => newline depth ++ ['\x7d']
  | (key, value) :: members =>
    ',' :: (newline (depth + 1) ++ quote key ++ [':', ' '] ++ pretty (depth + 1) value ++
      prettyMembers depth members)

end

end Json

end IsaTable
