/-!
# Bytes as text

Text goes to bytes as UTF-8. Bytes come back to text even when they are not UTF-8: a leading byte
announces how many bytes follow and between which bounds each lies, and where the bytes break that
announcement, what was read of it counts as one replacement character.
-/

namespace FleetOperator.Text

/-- The UTF-8 bytes of a text. -/
def bytes (s : String) : List UInt8 := s.toUTF8.data.toList

/-- What stands for bytes that are not UTF-8. -/
def replacement : Char := '\ufffd'

/-- The bounds of an ordinary byte that continues a character. -/
def tailByte : UInt8 × UInt8 := (0x80, 0xBF)

/-- What a leading byte announces: its share of the code point, and the bounds of each byte that
has to follow. -/
def announced? (b : UInt8) : Option (Nat × List (UInt8 × UInt8)) :=
  if b ≤ 0x7F then some (b.toNat, [])
  else if b < 0xC2 then none
  else if b ≤ 0xDF then some (b.toNat - 0xC0, [tailByte])
  else if b = 0xE0 then some (0, [(0xA0, 0xBF), tailByte])
  else if b = 0xED then some (0xD, [(0x80, 0x9F), tailByte])
  else if b ≤ 0xEF then some (b.toNat - 0xE0, [tailByte, tailByte])
  else if b = 0xF0 then some (0, [(0x90, 0xBF), tailByte, tailByte])
  else if b ≤ 0xF3 then some (b.toNat - 0xF0, [tailByte, tailByte, tailByte])
  else if b = 0xF4 then some (4, [(0x80, 0x8F), tailByte, tailByte])
  else none

/-- The code point whose leading byte gave `n`, or nothing where a byte is out of its bounds,
with the bytes that are left. -/
def complete (n : Nat) : List (UInt8 × UInt8) → List UInt8 → Option Nat × List UInt8
  | [], left => (some n, left)
  | _ :: _, [] => (none, [])
  | (lo, hi) :: bounds, b :: left =>
    if lo ≤ b ∧ b ≤ hi then complete (n * 64 + (b.toNat - 0x80)) bounds left
    else (none, b :: left)

theorem length_complete_le (n : Nat) (bounds : List (UInt8 × UInt8)) (left : List UInt8) :
    (complete n bounds left).2.length ≤ left.length := by
  induction bounds generalizing n left with
  | nil => simp [complete]
  | cons bound bounds ih =>
    cases left with
    | nil => simp [complete]
    | cons b left =>
      obtain ⟨lo, hi⟩ := bound
      unfold complete
      split
      · exact Nat.le_succ_of_le (ih _ left)
      · simp

/-- The characters of bytes, with a replacement character for each stretch that is no UTF-8. -/
def charsLossy : List UInt8 → List Char
  | [] => []
  | b :: rest =>
    match announced? b with
    | none => replacement :: charsLossy rest
    | some (n, bounds) =>
      let read := complete n bounds rest
      (match read.1 with
        | some code => Char.ofNat code
        | none => replacement) :: charsLossy read.2
termination_by bs => bs.length
decreasing_by
  · simp
  · exact Nat.lt_succ_of_le (length_complete_le n bounds rest)

/-- The text of bytes, with a replacement character for each stretch that is no UTF-8. -/
def ofBytesLossy (bs : List UInt8) : String := String.ofList (charsLossy bs)

/-- The text of bytes that are UTF-8 throughout. -/
def ofBytes? (bs : List UInt8) : Option String := String.fromUTF8? ⟨bs.toArray⟩

end FleetOperator.Text
