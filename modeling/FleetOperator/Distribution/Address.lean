import FleetOperator.Text.Hex

/-!
# Numeric addresses

A host can be given by its number. The short kind has four bytes and is written with dots; each
number may be decimal, octal or hexadecimal, and the last one stands for all bytes that are left.
The long kind has eight groups of two bytes, in hexadecimal with colons between them; one run of
zeros may be left out, and the last two groups may be written like the short kind. Both have one
form in which they are sent.
-/

namespace FleetOperator.Address

/-! ## Four bytes -/

/-- A part of a numeric host: decimal, octal behind a zero, hexadecimal behind `0x`. -/
def number? (part : List Char) : Option Nat :=
  let inBase (base : Nat) (ds : List Char) : Option Nat :=
    ds.foldlM (fun n d => (Text.Hex.value? d).bind fun v =>
      if v < base then some (n * base + v) else none) 0
  match part with
  | [] => none
  | '0' :: 'x' :: ds => inBase 16 ds
  | '0' :: d :: ds => inBase 8 (d :: ds)
  | ds => inBase 10 ds

/-- The parts of a host between dots, without the empty one after a dot at the end. -/
def parts (host : String) : List String :=
  let parts := host.splitOn "."
  if 1 < parts.length ∧ parts.getLast? = some "" then parts.dropLast else parts

/-- Whether a host is numeric, which its last part decides. -/
def isNumeric (host : String) : Bool :=
  match (parts host).getLast? with
  | none => false
  | some last =>
    let cs := last.toList
    !cs.isEmpty && (cs.all Char.isDigit || (number? cs).isSome)

/-- The four bytes of a numeric host; the last part takes all bytes that are left. -/
def short? (host : String) : Option String := do
  let numbers ← (parts host).mapM fun part => number? part.toList
  let last ← numbers.getLast?
  let front := numbers.dropLast
  if front.length ≤ 3 ∧ front.all (· ≤ 255) ∧ last < 1 <<< (8 * (4 - front.length)) then
    let value := front.zipIdx.foldl (fun sum (n, i) => sum + n <<< (8 * (3 - i))) last
    some (".".intercalate ([3, 2, 1, 0].map fun i => toString ((value >>> (8 * i)) % 256)))
  else none

/-! ## Eight groups -/

/-- A group: one to four digits. -/
def group? (word : String) : Option Nat :=
  if word.length ≤ 4 then Text.Hex.number? word else none

/-- A byte in decimal, without zeros in front. -/
def byte? (word : String) : Option Nat :=
  let ds := word.toList
  if ds.isEmpty ∨ !ds.all Char.isDigit ∨ 3 < ds.length ∨ (1 < ds.length ∧ ds.head? = some '0') then
    none
  else
    let n := ds.foldl (fun n d => n * 10 + (d.toNat - '0'.toNat)) 0
    if n ≤ 255 then some n else none

/-- The two groups of four bytes with dots between them. -/
def fourBytes? (word : String) : Option (List Nat) := do
  match ← (word.splitOn ".").mapM byte? with
  | [a, b, c, d] => some [a * 256 + b, c * 256 + d]
  | _ => none

/-- The groups of words; the last word may be four bytes. -/
def groups? : List String → Option (List Nat)
  | [] => some []
  | [last] => if last.contains '.' then fourBytes? last else (group? last).map ([·])
  | word :: rest => do return (← group? word) :: (← groups? rest)

/-- The words of a text between colons, of which an empty one has none. -/
def words (text : String) : List String := if text.isEmpty then [] else text.splitOn ":"

/-- The eight groups that a text spells, with zeros for the ones left out. -/
def long? (text : String) : Option (List Nat) :=
  match text.splitOn "::" with
  | [all] => (groups? (words all)).filter (·.length = 8)
  | [front, back] => do
    let front ← (words front).mapM group?
    let back ← groups? (words back)
    if front.length + back.length ≤ 7 then
      some (front ++ List.replicate (8 - front.length - back.length) 0 ++ back)
    else none
  | _ => none

/-- How many zeros there are from a place on. -/
def zerosFrom (groups : List Nat) (start : Nat) : Nat :=
  ((groups.drop start).takeWhile (· = 0)).length

/-- Where the longest run of zeros starts, the first of several, and how many there are. -/
def longestZeros (groups : List Nat) : Nat × Nat :=
  (List.range groups.length).foldl (fun best start =>
    if best.2 < zerosFrom groups start then (start, zerosFrom groups start) else best) (0, 0)

/-- The form in which groups are sent: no zeros in front of a number, and the longest run of zeros
left out, unless it is a single one. -/
def longText (groups : List Nat) : String :=
  let written (groups : List Nat) : String :=
    ":".intercalate (groups.map fun group => String.ofList (Nat.toDigits 16 group))
  let (start, count) := longestZeros groups
  if count < 2 then written groups
  else written (groups.take start) ++ "::" ++ written (groups.drop (start + count))

end FleetOperator.Address
