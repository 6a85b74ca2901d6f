import FleetOperator.Distribution.HostName.Mapping
import FleetOperator.Text.Composition
import FleetOperator.Text.Direction
import FleetOperator.Text.Joining
import FleetOperator.Text.Punycode

/-!
# Host names

The name of a host is made of labels with dots between them. Its characters are brought into one
form, and a label that is not ASCII then is written in Punycode behind a mark. A label that has the
mark already must be what would be written for the characters that it stands for, so a name has no
second form.
-/

namespace FleetOperator.HostName

/-- A label of a name. -/
structure Label where
  /-- As it is sent. -/
  written : List Char
  /-- What it stands for. -/
  chars : List Char
deriving DecidableEq, Repr, Inhabited

def isAscii (cs : List Char) : Bool := cs.all (·.toNat < 0x80)

/-- What a label starts with that stands for another. -/
def mark : List Char := ['x', 'n', '-', '-']

/-- The longest label that is written in Punycode. -/
def mostChars : Nat := 1000

/-- The longest Punycode that is read. -/
def mostDigits : Nat := 2000

namespace Label

/-- The label that a marked one stands for, which could not be written without the mark. -/
def marked? (digits : List Char) : Option (List Char) :=
  if digits.length ≤ mostDigits then
    (Text.Punycode.decode? digits).filter fun chars =>
      !isAscii chars && chars.all isSettled && Text.Composition.compose chars == chars &&
        !mark.isPrefixOf chars
  else none

/-- The label of characters that are in their one form. -/
def ofChars? (cs : List Char) : Option Label :=
  if mark.isPrefixOf cs then
    if isAscii cs then (marked? (cs.drop mark.length)).map (⟨cs, ·⟩) else none
  else if isAscii cs then some ⟨cs, cs⟩
  else if cs.length ≤ mostChars then some ⟨mark ++ Text.Punycode.encode cs, cs⟩
  else none

/-- Whether the characters of a label stand where they may: no mark goes with what is in front of
the label, and joiners have something to join. -/
def isSound (label : Label) : Bool :=
  !(label.chars.head?.any Text.Category.isMark) && Text.Joining.areInPlace [] label.chars

def directions (label : Label) : List Text.Direction := label.chars.map Text.Direction.ofChar

end Label

/-- Whether the labels of a name are read the same wherever they stand, which is no question as
long as all are written from left to right. -/
def areSteady (labels : List Label) : Bool :=
  !(labels.any fun label => label.directions.any (·.isBackward)) ||
    labels.all fun label => Text.Direction.isSteady label.directions

/-- Whether a character has another meaning in an address. -/
def isReserved (c : Char) : Bool :=
  c.toNat ≤ 0x20 || c.toNat == 0x7F ||
    ['#', '%', '/', ':', '<', '>', '?', '@', '[', '\\', ']', '^', '|'].contains c

/-- The one form of the characters of a name. -/
def settle? (name : String) : Option String :=
  (name.toList.mapM mapped?).map fun chars =>
    String.ofList (Text.Composition.compose chars.flatten)

/-- The name as it is sent. -/
def ofText? (name : String) : Option String := do
  let labels ← ((← settle? name).splitOn ".").mapM fun label => Label.ofChars? label.toList
  let written := ".".intercalate (labels.map fun label => String.ofList label.written)
  if labels.all Label.isSound && areSteady labels && !written.toList.any isReserved then
    some written
  else none

end FleetOperator.HostName
