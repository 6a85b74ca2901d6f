import FleetOperator.Json.Printer

/-!
# JSON values as YAML

Block style: a member or an item stands on a line of its own, what is inside a member is indented
by two blanks, and the items of a list start in the column of its key. Empty lists and objects
stay on the line. A text is written plainly where it reads back as the same text, and in single
quotes otherwise.
-/

namespace FleetOperator.Json.Yaml

/-- The characters that have a meaning of their own at the start of a plain text. -/
def indicators : List Char :=
  ['-', '?', ':', ',', '[', ']', '\x7b', '\x7d', '#', '&', '*', '!', '|', '>', '\'', '"', '%', '@',
    '\x60', ' ']

/-- The plain texts that read as something else than a text. -/
def words : List String := ["", "~", "null", "Null", "NULL", "true", "True", "TRUE", "false",
  "False", "FALSE", ".inf", ".Inf", ".INF", "+.inf", "+.Inf", "+.INF", ".nan", ".NaN", ".NAN"]

/-- Whether a text starts like a number: a digit behind a sign and a point, if there are any. -/
def isNumeric : List Char → Bool
  | '+' :: '.' :: c :: _ => c.isDigit
  | '+' :: c :: _ => c.isDigit
  | '.' :: c :: _ => c.isDigit
  | c :: _ => c.isDigit
  | [] => false

/-- Whether a colon before a blank or at the end, or a hash behind a blank, would end the text. -/
def breaksOff : List Char → Bool
  | [':'] => true
  | ':' :: ' ' :: _ => true
  | ' ' :: '#' :: _ => true
  | [' '] => true
  | _ :: rest => breaksOff rest
  | [] => false

/-- Whether a text does not read back as itself where it is written plainly. -/
def needsQuotes (s : String) : Bool :=
  words.contains s || s.toList.head?.any indicators.contains || isNumeric s.toList ||
    breaksOff s.toList

/-- A text as it is written. -/
def scalar (s : String) : String :=
  if needsQuotes s then "'" ++ String.ofList (s.toList.flatMap fun c =>
    if c = '\'' then [c, c] else [c]) ++ "'"
  else s

/-- The lines further in. -/
def indent (lines : List String) : List String := lines.map ("  " ++ ·)

/-- The lines as an item of a list. -/
def asItem : List String → List String
  | [] => []
  | first :: rest => ("- " ++ first) :: indent rest

/-- A value behind its key. -/
def underKey (key : String) (value : Json) (lines : List String) : List String :=
  match value with
  | .obj (_ :: _) => (scalar key ++ ":") :: indent lines
  | .arr (_ :: _) => (scalar key ++ ":") :: lines
  | _ => lines.map fun line => scalar key ++ ": " ++ line

mutual

/-- The lines of a value that stands by itself. -/
def lines : Json → List String
  | .str s => [scalar s]
  | .arr (item :: rest) => itemLines (item :: rest)
  | .obj (member :: rest) => memberLines (member :: rest)
  | .arr [] => ["[]"]
  | .obj [] => ["\x7b\x7d"]
  | .null => ["null"]
  | .bool b => [if b then "true" else "false"]
  | .int n => [String.ofList (intChars n)]
  | .real lexeme => [lexeme]
  | .unreadable => []

def itemLines : List Json → List String
  | [] => []
  | item :: rest => asItem (lines item) ++ itemLines rest

def memberLines : List (String × Json) → List String
  | [] => []
  | (key, value) :: rest => underKey key value (lines value) ++ memberLines rest

end

end FleetOperator.Json.Yaml
