import FleetOperator.Text.Category

/-!
# Visible characters

A character is visible if it shows something of its own: it is neither unassigned nor private, it
controls and formats nothing, and it is no separator but the blank. One that extends the character
before it may show something, but not by itself.
-/

namespace FleetOperator.Text

/-- Whether a character shows something of its own, be it a blank. -/
def isVisible (c : Char) : Bool :=
  c == ' ' || !(Category.isUnassigned c || Category.isPrivateUse c || Category.isControl c ||
    Category.isFormat c || Category.isSeparator c)

/-- What extends the character before it without being a nonspacing mark. -/
def furtherExtenders : RunTable Unit := .setOfText
  "9BE 9D7 B3E B57 BBE BD7 CC0 CC2 CC7-CC8 CCA-CCB CD5-CD6 D3E D57 DCF DDF 1715 1734 1B35 1B3B
   1B3D 1B43-1B44 1BAA 1BF2-1BF3 200C 302E-302F A953 A9C0 FF9E-FF9F 111C0 11235 1133E 1134D
   11357 113B8 113C2 113C5 113C7-113C9 113CF 114B0 114BD 115AF 116B6 11930 1193D 11F41
   16FF0-16FF1 1D165-1D166 1D16D-1D172 E0020-E007F"

/-- Whether a character belongs to the one before it. -/
def extendsPrevious (c : Char) : Bool :=
  Category.isNonspacingMark c || furtherExtenders.contains c

end FleetOperator.Text
