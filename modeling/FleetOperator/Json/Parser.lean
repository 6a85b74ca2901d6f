import FleetOperator.Json.Number
import FleetOperator.Text.Hex

/-!
# Reading JSON text

A strict reader: one value, blanks only between tokens, no trailing text, no control characters
inside strings. What is written by the rules but cannot be held is `Json.unreadable`: a string
with half of a surrogate pair, an object with such a key, a number beyond the range of a double,
and arrays and objects that lie more than `maxDepth` deep.

Every reader takes the characters that are left and gives back what it read with what is left
after it. The readers run on counts that no text of that length can use up: the value reader on
one that falls with each bracket, the list readers on one that falls with each comma. Behind some
brackets there is no room for more items than characters that are left of the text, so the list
readers start from what the value reader has left. So they end without a proof about the rest.
-/

namespace FleetOperator.Json

/-- How deep arrays and objects may lie to be held. -/
def maxDepth : Nat := 127

/-- A blank between tokens. -/
def isBlank (c : Char) : Bool := c == ' ' || c == '\n' || c == '\t' || c == '\r'

def skipBlanks (cs : List Char) : List Char := cs.dropWhile isBlank

/-! ## Strings -/

/-- The number written with four hexadecimal digits. -/
def hexWord? (a b c d : Char) : Option Nat := do
  let a ← Text.Hex.value? a
  let b ← Text.Hex.value? b
  let c ← Text.Hex.value? c
  let d ← Text.Hex.value? d
  return ((a * 16 + b) * 16 + c) * 16 + d

/-- The character behind a one-letter escape. -/
def shortEscape? (c : Char) : Option Char :=
  match c with
  | '"' => some '"'
  | '\\' => some '\\'
  | '/' => some '/'
  | 'b' => some '\x08'
  | 'f' => some '\x0c'
  | 'n' => some '\n'
  | 'r' => some '\r'
  | 't' => some '\t'
  | _ => none

/-- The code points of a string after its opening quote, with surrogates as they are written. -/
def readCodes : List Char → Option (List Nat × List Char)
  | '"' :: rest => some ([], rest)
  | '\\' :: 'u' :: a :: b :: c :: d :: rest =>
    match hexWord? a b c d with
    | none => none
    | some code => (readCodes rest).map fun (codes, left) => (code :: codes, left)
  | '\\' :: c :: rest =>
    match shortEscape? c with
    | none => none
    | some c => (readCodes rest).map fun (codes, left) => (c.toNat :: codes, left)
  | c :: rest =>
    if c.toNat < 0x20 then none
    else (readCodes rest).map fun (codes, left) => (c.toNat :: codes, left)
  | [] => none

def isHighSurrogate (code : Nat) : Bool := 0xD800 ≤ code && code < 0xDC00

def isLowSurrogate (code : Nat) : Bool := 0xDC00 ≤ code && code < 0xE000

/-- The characters of code points, in which each surrogate has the other half of its pair. -/
def charsOfCodes? : List Nat → Option (List Char)
  | [] => some []
  | high :: rest =>
    if isLowSurrogate high then none
    else if isHighSurrogate high then
      match rest with
      | low :: rest =>
        if isLowSurrogate low then
          let code := 0x10000 + (high - 0xD800) * 0x400 + (low - 0xDC00)
          (charsOfCodes? rest).map (Char.ofNat code :: ·)
        else none
      | [] => none
    else (charsOfCodes? rest).map (Char.ofNat high :: ·)

/-- The text of a string after its opening quote, if it can be held. -/
def readString (cs : List Char) : Option (Option String × List Char) :=
  (readCodes cs).map fun (codes, left) => ((charsOfCodes? codes).map String.ofList, left)

/-! ## Values -/

/-- Drops a word in front. -/
def dropWord : List Char → List Char → Option (List Char)
  | [], cs => some cs
  | w :: word, c :: cs => if w = c then dropWord word cs else none
  | _ :: _, [] => none

/-- The object of members, if their keys can be held. -/
def ofMembers (members : List (Option String × Json)) : Json :=
  let held? (member : Option String × Json) : Option (String × Json) := member.1.map (·, member.2)
  ((members.mapM held?).map Json.obj).getD .unreadable

/-- Items up to the closing bracket, the first one already at hand. -/
def readItems (value : List Char → Option (Json × List Char)) :
    Nat → List Char → Option (List Json × List Char)
  | 0, _ => none
  | count + 1, cs => do
    let (item, left) ← value (skipBlanks cs)
    match skipBlanks left with
    | ']' :: left => return ([item], left)
    | ',' :: left =>
      let (items, left) ← readItems value count left
      return (item :: items, left)
    | _ => none

/-- Members up to the closing brace, the first one already at hand. -/
def readMembers (value : List Char → Option (Json × List Char)) :
    Nat → List Char → Option (List (Option String × Json) × List Char)
  | 0, _ => none
  | count + 1, cs => do
    let '"' :: rest := skipBlanks cs | none
    let (key, left) ← readString rest
    let ':' :: rest := skipBlanks left | none
    let (item, left) ← value (skipBlanks rest)
    match skipBlanks left with
    | '\x7d' :: left => return ([(key, item)], left)
    | ',' :: left =>
      let (members, left) ← readMembers value count left
      return ((key, item) :: members, left)
    | _ => none

/-- A value that lies inside so many others, if that is not too deep to hold it. -/
def within (depth : Nat) (value : Json) : Json := if depth < maxDepth then value else .unreadable

/-- One value inside `depth` others, from its first character on. -/
def readValue : Nat → Nat → List Char → Option (Json × List Char)
  | count, depth, cs =>
    match cs with
    | '"' :: rest =>
      (readString rest).map fun (s, left) => ((s.map Json.str).getD .unreadable, left)
    | '[' :: rest =>
      match count with
      | 0 => none
      | count + 1 =>
        match skipBlanks rest with
        | ']' :: left => some (within depth (.arr []), left)
        | cs => (readItems (readValue count (depth + 1)) count cs).map
            fun (items, left) => (within depth (.arr items), left)
    | '\x7b' :: rest =>
      match count with
      | 0 => none
      | count + 1 =>
        match skipBlanks rest with
        | '\x7d' :: left => some (within depth (.obj []), left)
        | cs => (readMembers (readValue count (depth + 1)) count cs).map
            fun (members, left) => (within depth (ofMembers members), left)
    | 'n' :: rest => (dropWord ['u', 'l', 'l'] rest).map (.null, ·)
    | 't' :: rest => (dropWord ['r', 'u', 'e'] rest).map (.bool true, ·)
    | 'f' :: rest => (dropWord ['a', 'l', 's', 'e'] rest).map (.bool false, ·)
    | cs => readNumber cs

/-- The value of a whole text, with every member it writes and with what cannot be held. -/
def parseRaw? (text : String) : Option Json := do
  let cs := skipBlanks text.toList
  let (value, left) ← readValue cs.length 0 cs
  match skipBlanks left with
  | [] => return value
  | _ => none

/-- The value of a whole text that can be held; of several members with one key the last
counts. -/
def parse? (text : String) : Option Json := ((parseRaw? text).bind asAny?).map lastWins

end FleetOperator.Json
