import FleetOperator.Text.Category

/-!
# Directions

Some scripts run from left to right, some from right to left, and numbers and signs take the
direction of what is around them, each in its own way. A label of a host name must be read the
same wherever it stands. That is sure if it starts with a letter, has no signs or letters that go
the other way, and ends with a letter or a number of its own direction.
-/

namespace FleetOperator.Text

/-- How a character takes part in the direction of a text. -/
inductive Direction where
  | leftToRight
  | rightToLeft
  | arabicLetter
  | europeanNumber
  | europeanSeparator
  | europeanTerminator
  | arabicNumber
  | commonSeparator
  | nonspacingMark
  | boundaryNeutral
  | otherNeutral
deriving DecidableEq, Repr, Inhabited

namespace Direction

/-- The direction that an abbreviation stands for. -/
def ofText? : String → Option Direction
  | "L" => some .leftToRight
  | "R" => some .rightToLeft
  | "AL" => some .arabicLetter
  | "EN" => some .europeanNumber
  | "ES" => some .europeanSeparator
  | "ET" => some .europeanTerminator
  | "AN" => some .arabicNumber
  | "CS" => some .commonSeparator
  | "NSM" => some .nonspacingMark
  | "BN" => some .boundaryNeutral
  | "ON" => some .otherNeutral
  | _ => none

/-- The characters that are neither marks nor letters from left to right. Code points without a
character may be in its runs. -/
def table : RunTable Direction := .ofText ofText?
  "21-22:ON 23-25:ET 26-2A:ON 2B:ES 2C:CS 2D:ES 2E-2F:CS 30-39:EN 3A:CS 3B-60:ON 7B-7E:ON 7F:BN
   A1:ON A2-A5:ET A6-AE:ON B0-B1:ET B6-D7:ON F7:ON 2B9-2BA:ON 2C2-2CF:ON 2D2-2ED:ON 2EF-2FF:ON
   375:ON 3F6:ON 58A-58E:ON 58F:ET 5BE:R 5C0:R 5C3:R 5C6:R 5D0-5F4:R 606-607:ON 608:AL
   609-60A:ET 60B:AL 60C:CS 60D:AL 60E-60F:ON 61B-64A:AL 660-669:AN 66A:ET 66B-66C:AN 66D-66F:AL
   671-6D5:AL 6DE:ON 6E5-6E6:AL 6E9:ON 6EE-6EF:AL 6F0-6F9:EN 6FA-710:AL 712-72F:AL 74D-7A5:AL
   7B1:AL 7C0-7EA:R 7F4-7F5:R 7F6-7F9:ON 7FA:R 7FE-815:R 81A:R 824:R 828:R 830-858:R 85E:R
   860-88F:AL 8A0-8C9:AL 9F2-9F3:ET 9FB:ET AF1:ET BF3-BF8:ON BF9:ET BFA:ON C78-C7E:ON CBF:L
   CC6:L E3F:ET F3A-F3D:ON 1390-1399:ON 1400:ON 169B-169C:ON 17DB:ET 17F0-180A:ON 1940-1945:ON
   19DE-19FF:ON 200C-200D:BN 2010-2027:ON 2030-2032:ET 2035-2043:ON 2044:CS 2045-205E:ON
   20A0-20C1:ET 2104-2129:ON 212E:ET 213A-214D:ON 218A-2211:ON 2212:ES 2213:ET 2214-2335:ON
   237B-2394:ON 2396-26AB:ON 26AD-27FF:ON 2900-2BFF:ON 2CE5-2CEA:ON 2CF9-2CFF:ON 2E00-3004:ON
   3008-3020:ON 3030:ON 3037:ON 303D-303F:ON 30A0:ON 30FB:ON 31C0-31E5:ON 4DC0-4DFF:ON
   A490-A4C6:ON A60D-A60F:ON A673:ON A67E-A67F:ON A700-A721:ON A788:ON A828-A82B:ON A838-A839:ET
   A874-A877:ON AB6A-AB6B:ON FBB2-FBC2:AL FBC3-FDFF:ON FE45-FE46:ON FE73:AL 10101:ON
   10140-1018C:ON 10190-101A0:ON 102E1-102FB:EN 10800-1091B:R 1091F:ON 10920-10A00:R
   10A10-10A35:R 10A40-10AE4:R 10AEB-10B35:R 10B39-10B3F:ON 10B40-10CFF:R 10D00-10D23:AL
   10D30-10D39:AN 10D40-10D4F:R 10D6E:ON 10D6F-10D8F:R 10E60-10E7E:AN 10E80-10EA9:R
   10EAD-10EB1:R 10EC2-10EC7:AL 10ED0-10ED8:ON 10F00-10F27:R 10F30-10F45:AL 10F51-10F59:AL
   10F70-10F81:R 10F86-10FF6:R 11052-11065:ON 11660-1166C:ON 1171E:NSM 11A07-11A08:L 11C3F:L
   11FD5-11FDC:ON 11FDD-11FE0:ET 11FE1-11FF1:ON 16FE2:ON 1CC00-1CEF0:ON 1D1E9-1D241:ON 1D245:ON
   1D300-1D356:ON 1E2FF:ET 1E800-1E8CF:R 1E922-1E943:R 1E94B-1E95F:R 1EC71-1ED3D:AL
   1EEF0-1F12F:ON 1F16D-1F16F:ON 1F1AD:ON 1F260-1FBFA:ON"

def ofChar (c : Char) : Direction :=
  match table.get? c with
  | some direction => direction
  | none => if Category.isNonspacingMark c then .nonspacingMark else .leftToRight

/-- Whether a direction makes a text run from right to left, if only in part. -/
def isBackward (direction : Direction) : Bool :=
  [.rightToLeft, .arabicLetter, .arabicNumber].contains direction

/-- What may stand in a label from left to right. -/
def forward : List Direction := [.leftToRight, .europeanNumber, .europeanSeparator,
  .commonSeparator, .europeanTerminator, .otherNeutral, .boundaryNeutral, .nonspacingMark]

/-- What may stand in a label from right to left. -/
def backward : List Direction := [.rightToLeft, .arabicLetter, .arabicNumber, .europeanNumber,
  .europeanSeparator, .commonSeparator, .europeanTerminator, .otherNeutral, .boundaryNeutral,
  .nonspacingMark]

/-- Whether a label is read the same wherever it stands. -/
def isSteady (label : List Direction) : Bool :=
  match label with
  | [] => true
  | first :: _ =>
    match label.reverse.dropWhile (· == .nonspacingMark) with
    | [] => false
    | last :: _ =>
      if first == .leftToRight then
        label.all (forward.contains ·) && [.leftToRight, .europeanNumber].contains last
      else if [rightToLeft, arabicLetter].contains first then
        label.all (backward.contains ·) &&
          [.rightToLeft, .arabicLetter, .europeanNumber, .arabicNumber].contains last &&
          !(label.contains .europeanNumber && label.contains .arabicNumber)
      else false

end Direction

end FleetOperator.Text
