import FleetOperator.Text.Hex
import FleetOperator.Text.Utf8

/-!
# Percent signs

Where a text may hold only some characters, the bytes of the others are written behind percent
signs, each in two digits.
-/

namespace FleetOperator.Text

/-- A byte behind a percent sign. -/
def percent (b : UInt8) : List Char :=
  ['%', (Hex.digit (b.toNat / 16)).toUpper, (Hex.digit (b.toNat % 16)).toUpper]

/-- The text in which characters that may not be kept are written as bytes. -/
def percentEncode (keep : Char → Bool) (cs : List Char) : List Char :=
  cs.flatMap fun c => if keep c then [c] else (bytes (String.singleton c)).flatMap percent

/-- The bytes of a text, with those behind percent signs. -/
def percentDecode : List Char → List UInt8
  | '%' :: a :: b :: rest =>
    match Hex.value? a, Hex.value? b with
    | some h, some l => UInt8.ofNat (h * 16 + l) :: percentDecode rest
    | _, _ => bytes "%" ++ percentDecode (a :: b :: rest)
  | c :: rest => bytes (String.singleton c) ++ percentDecode rest
  | [] => []

/-- Whether a character may stand in a value of a form. -/
def isFormChar (c : Char) : Bool := c.isAlphanum || ['*', '-', '.', '_'].contains c

/-- A value of a form, with a plus for a blank. -/
def formEncode (s : String) : String :=
  String.ofList (s.toList.flatMap fun c => if c = ' ' then ['+'] else percentEncode isFormChar [c])

end FleetOperator.Text
