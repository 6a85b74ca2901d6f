import FleetOperator.Proofs.Hash

/-!
# Text read out of its own bytes

A character goes to one to four bytes. The first of them announces the others
and the bounds of the second, and the encoding keeps to these bounds: the
least second byte after `E0` and `F0` rules out a longer form than the
character needs, the greatest one after `ED` rules out surrogates and after
`F4` what lies beyond the last code point. So the bytes of a character are
read as that character whatever follows (`charsLossy_utf8EncodeChar`), and
the text of the bytes of a text is that text (`ofBytesLossy_bytes`).
-/

namespace FleetOperator.Text

/-! ## What the first byte of a character announces -/

theorem announced?_one : ∀ n < 0x80, announced? (UInt8.ofNat n) = some (n, []) := by decide

theorem announced?_two : ∀ n < 30,
    announced? (UInt8.ofNat (n + 194)) = some (n + 2, [tailByte]) := by decide

theorem announced?_three : ∀ n < 16, announced? (UInt8.ofNat (n + 224)) =
    some (n, [(if n = 0 then 0xA0 else 0x80, if n = 13 then 0x9F else 0xBF), tailByte]) := by
  decide

theorem announced?_four : ∀ n < 5, announced? (UInt8.ofNat (n + 240)) =
    some (n, [(if n = 0 then 0x90 else 0x80, if n = 4 then 0x8F else 0xBF), tailByte,
      tailByte]) := by
  decide

/-! ## The bytes that follow -/

/-- A byte within its bounds adds its six bits to the code point. -/
theorem complete_cons {lo hi : UInt8} {k : Nat} (hlo : lo.toNat ≤ k + 128)
    (hhi : k + 128 ≤ hi.toNat) (n : Nat) (bounds : List (UInt8 × UInt8)) (left : List UInt8) :
    complete n ((lo, hi) :: bounds) (UInt8.ofNat (k + 128) :: left) =
      complete (n * 64 + k) bounds left := by
  have hbyte : (UInt8.ofNat (k + 128)).toNat = k + 128 :=
    UInt8.toNat_ofNat_of_lt' (Nat.lt_of_le_of_lt hhi hi.toNat_lt)
  have hbounds : lo ≤ UInt8.ofNat (k + 128) ∧ UInt8.ofNat (k + 128) ≤ hi := by
    rw [UInt8.le_iff_toNat_le, UInt8.le_iff_toNat_le, hbyte]
    exact ⟨hlo, hhi⟩
  rw [complete, if_pos hbounds, hbyte, Nat.add_sub_cancel]

theorem complete_tail {k : Nat} (h : k < 64) (n : Nat) (bounds : List (UInt8 × UInt8))
    (left : List UInt8) :
    complete n (tailByte :: bounds) (UInt8.ofNat (k + 128) :: left) =
      complete (n * 64 + k) bounds left := by
  have hlo : (0x80 : UInt8).toNat ≤ k + 128 := Nat.le_add_left _ _
  have hhi : k + 128 ≤ (0xBF : UInt8).toNat := Nat.add_le_add_right (Nat.le_of_lt_succ h) 128
  exact complete_cons hlo hhi n bounds left

theorem charsLossy_of_complete {b : UInt8} {n code : Nat} {bounds : List (UInt8 × UInt8)}
    {bs left : List UInt8} (hfirst : announced? b = some (n, bounds))
    (hrest : complete n bounds bs = (some code, left)) :
    charsLossy (b :: bs) = Char.ofNat code :: charsLossy left := by
  rw [charsLossy, hfirst]
  simp only [hrest]

/-! ## Characters by the number of their bytes -/

section

variable {code : Nat} (rest : List UInt8)

theorem charsLossy_two (hlo : 0x80 ≤ code) (hhi : code < 0x800) :
    charsLossy (UInt8.ofNat (code / 64 % 32 + 192) :: UInt8.ofNat (code % 64 + 128) :: rest) =
      Char.ofNat code :: charsLossy rest := by
  obtain ⟨k, hk⟩ : ∃ k, code / 64 % 32 = k + 2 := ⟨code / 64 - 2, by omega⟩
  have hfirst : announced? (UInt8.ofNat (code / 64 % 32 + 192)) = some (k + 2, [tailByte]) := by
    rw [hk]
    exact announced?_two k (by omega)
  have hsum : (k + 2) * 64 + code % 64 = code := by omega
  refine charsLossy_of_complete hfirst ?_
  rw [complete_tail (Nat.mod_lt _ (by decide)), hsum, complete]

/-- The bounds of the second byte keep to characters that need three bytes and are no
surrogates. -/
theorem charsLossy_three (hlo : 0x800 ≤ code) (hhi : code < 0x10000)
    (hvalid : code < 0xD800 ∨ 0xDFFF < code) :
    charsLossy (UInt8.ofNat (code / 4096 % 16 + 224) :: UInt8.ofNat (code / 64 % 64 + 128) ::
      UInt8.ofNat (code % 64 + 128) :: rest) = Char.ofNat code :: charsLossy rest := by
  have hfirst := announced?_three (code / 4096 % 16) (Nat.mod_lt _ (by decide))
  have hleast : (if code / 4096 % 16 = 0 then 0xA0 else 0x80 : UInt8).toNat ≤
      code / 64 % 64 + 128 := by
    split
    · show 0xA0 ≤ code / 64 % 64 + 128
      omega
    · exact Nat.le_add_left _ _
  have hgreatest : code / 64 % 64 + 128 ≤
      (if code / 4096 % 16 = 13 then 0x9F else 0xBF : UInt8).toNat := by
    split
    · show code / 64 % 64 + 128 ≤ 0x9F
      omega
    · show code / 64 % 64 + 128 ≤ 0xBF
      omega
  have hsum : (code / 4096 % 16 * 64 + code / 64 % 64) * 64 + code % 64 = code := by omega
  refine charsLossy_of_complete hfirst ?_
  rw [complete_cons hleast hgreatest, complete_tail (Nat.mod_lt _ (by decide)), hsum, complete]

/-- The bounds of the second byte keep to characters that need four bytes and are code points. -/
theorem charsLossy_four (hlo : 0x10000 ≤ code) (hhi : code < 0x110000) :
    charsLossy (UInt8.ofNat (code / 262144 % 8 + 240) :: UInt8.ofNat (code / 4096 % 64 + 128) ::
      UInt8.ofNat (code / 64 % 64 + 128) :: UInt8.ofNat (code % 64 + 128) :: rest) =
      Char.ofNat code :: charsLossy rest := by
  have hfirst := announced?_four (code / 262144 % 8) (by omega)
  have hleast : (if code / 262144 % 8 = 0 then 0x90 else 0x80 : UInt8).toNat ≤
      code / 4096 % 64 + 128 := by
    split
    · show 0x90 ≤ code / 4096 % 64 + 128
      omega
    · exact Nat.le_add_left _ _
  have hgreatest : code / 4096 % 64 + 128 ≤
      (if code / 262144 % 8 = 4 then 0x8F else 0xBF : UInt8).toNat := by
    split
    · show code / 4096 % 64 + 128 ≤ 0x8F
      omega
    · show code / 4096 % 64 + 128 ≤ 0xBF
      omega
  have hsum : ((code / 262144 % 8 * 64 + code / 4096 % 64) * 64 + code / 64 % 64) * 64 +
      code % 64 = code := by omega
  refine charsLossy_of_complete hfirst ?_
  rw [complete_cons hleast hgreatest, complete_tail (Nat.mod_lt _ (by decide)),
    complete_tail (Nat.mod_lt _ (by decide)), hsum, complete]

end

/-! ## Characters and texts -/

theorem charsLossy_utf8EncodeChar (c : Char) (rest : List UInt8) :
    charsLossy (String.utf8EncodeChar c ++ rest) = c :: charsLossy rest := by
  obtain ⟨code, hcode⟩ : ∃ code, c.val.toNat = code := ⟨_, rfl⟩
  have hvalid : code < 0xD800 ∨ 0xDFFF < code ∧ code < 0x110000 := hcode ▸ c.valid
  have hchar : c = Char.ofNat code := by
    rw [← hcode]
    exact (Char.ofNat_toNat c).symm
  rw [String.utf8EncodeChar, hcode, hchar]
  by_cases hone : code ≤ 0x7F
  · rw [if_pos hone]
    exact charsLossy_of_complete (announced?_one code (by omega)) rfl
  rw [if_neg hone]
  by_cases htwo : code ≤ 0x7FF
  · rw [if_pos htwo]
    exact charsLossy_two rest (by omega) (by omega)
  rw [if_neg htwo]
  by_cases hthree : code ≤ 0xFFFF
  · rw [if_pos hthree]
    exact charsLossy_three rest (by omega) (by omega) (hvalid.imp_right And.left)
  rw [if_neg hthree]
  exact charsLossy_four rest (by omega) (by omega)

theorem charsLossy_flatMap (characters : List Char) :
    charsLossy (characters.flatMap String.utf8EncodeChar) = characters := by
  induction characters with
  | nil => rw [List.flatMap_nil, charsLossy]
  | cons c rest ih => rw [List.flatMap_cons, charsLossy_utf8EncodeChar, ih]

theorem ofBytesLossy_bytes (s : String) : ofBytesLossy (bytes s) = s := by
  obtain ⟨characters, rfl⟩ : ∃ characters, s = String.ofList characters :=
    ⟨s.toList, String.ofList_toList.symm⟩
  rw [bytes_ofList, ofBytesLossy, charsLossy_flatMap]

end FleetOperator.Text
