import FleetOperator.Hash

/-!
# What two equal hashes say

A hash is written in decimal, and two numbers with the same digits are the
same number. So two texts have one written hash exactly when the hashes of
their bytes are one, and texts have the same bytes only if they are the same.
-/

namespace FleetOperator

theorem Text.bytes_ofList (characters : List Char) :
    Text.bytes (String.ofList characters) = characters.flatMap String.utf8EncodeChar := by
  rw [Text.bytes, String.toUTF8_eq_toByteArray, String.toByteArray_ofList, List.utf8Encode,
    List.data_toByteArray]

theorem Text.bytes_injective {s t : String} (h : Text.bytes s = Text.bytes t) : s = t := by
  have hdata : s.toUTF8 = t.toUTF8 := ByteArray.ext (Array.toList_inj.1 h)
  rw [String.toUTF8_eq_toByteArray, String.toUTF8_eq_toByteArray] at hdata
  exact String.toByteArray_inj.1 hdata

theorem toDigits_injective {m n : Nat} (h : Nat.toDigits 10 m = Nat.toDigits 10 n) : m = n := by
  rw [← Nat.ofDigitChars_ten_toDigits (n := m), h, Nat.ofDigitChars_ten_toDigits]

theorem toString_injective {m n : Nat} (h : toString m = toString n) : m = n := by
  rw [Nat.toString_eq_ofList_toDigits, Nat.toString_eq_ofList_toDigits] at h
  exact toDigits_injective (String.ofList_injective h)

/-- Two texts have one written hash exactly when their bytes have one hash. -/
theorem Hash.ofText_eq_iff {s t : String} :
    Hash.ofText s = Hash.ofText t ↔
      Hash.fnv1a (Text.bytes s) = Hash.fnv1a (Text.bytes t) := by
  constructor
  · intro h
    rw [Hash.ofText, Hash.ofText] at h
    exact UInt64.toNat_inj.1 (toString_injective h)
  · intro h
    rw [Hash.ofText, Hash.ofText, h]

/-- Two documents have one hash exactly when the bytes of their characters have. -/
theorem Hash.ofJson_eq_iff {value other : Json} :
    Hash.ofJson value = Hash.ofJson other ↔
      Hash.fnv1a (value.chars.flatMap String.utf8EncodeChar) =
        Hash.fnv1a (other.chars.flatMap String.utf8EncodeChar) := by
  rw [Hash.ofJson, Hash.ofJson, Hash.ofText_eq_iff, Json.text, Json.text, Text.bytes_ofList,
    Text.bytes_ofList]

end FleetOperator
