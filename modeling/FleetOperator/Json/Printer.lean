import FleetOperator.Json.Basic
import FleetOperator.Text.Hex

/-!
# The compact text of a JSON value

No blanks, members in the order of the object. A string escapes the quote, the backslash and
the characters below U+0020, the latter by their short form where there is one; every other
character stands for itself. What cannot be held has no text. The content hash of an object is
taken over this text, so the text is a function of the value alone.
-/

namespace FleetOperator.Json

/-- The characters that stand for one character inside a string. -/
def escape (c : Char) : List Char :=
  if c = '"' then ['\\', '"']
  else if c = '\\' then ['\\', '\\']
  else if c = '\x08' then ['\\', 'b']
  else if c = '\x0c' then ['\\', 'f']
  else if c = '\n' then ['\\', 'n']
  else if c = '\r' then ['\\', 'r']
  else if c = '\t' then ['\\', 't']
  else if c.toNat < 0x20 then
    ['\\', 'u', '0', '0', Text.Hex.digit (c.toNat / 16), Text.Hex.digit (c.toNat % 16)]
  else [c]

/-- A string in its quotes. -/
def quoted (s : String) : List Char :=
  '"' :: s.toList.flatMap escape ++ ['"']

/-- A whole number in decimal. -/
def intChars : Int → List Char
  | .ofNat n => Nat.toDigits 10 n
  | .negSucc n => '-' :: Nat.toDigits 10 (n + 1)

mutual

/-- The characters of the compact text. -/
def chars : Json → List Char
  | .null => ['n', 'u', 'l', 'l']
  | .bool true => ['t', 'r', 'u', 'e']
  | .bool false => ['f', 'a', 'l', 's', 'e']
  | .int n => intChars n
  | .real lexeme => lexeme.toList
  | .str s => quoted s
  | .arr [] => ['[', ']']
  | .arr (item :: rest) => '[' :: item.chars ++ itemChars rest
  | .obj [] => ['\x7b', '\x7d']
  | .obj ((key, value) :: rest) => '\x7b' :: quoted key ++ ':' :: value.chars ++ memberChars rest
  | .unreadable => []

/-- The items after the first, each behind a comma, and the closing bracket. -/
def itemChars : List Json → List Char
  | [] => [']']
  | item :: rest => ',' :: item.chars ++ itemChars rest

/-- The members after the first, each behind a comma, and the closing brace. -/
def memberChars : List (String × Json) → List Char
  | [] => ['\x7d']
  | (key, value) :: rest => ',' :: quoted key ++ ':' :: value.chars ++ memberChars rest

end

/-- The compact text. -/
def text (value : Json) : String := String.ofList value.chars

end FleetOperator.Json
