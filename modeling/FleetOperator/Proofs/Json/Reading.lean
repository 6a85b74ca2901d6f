import FleetOperator.Proofs.Json.Text

/-!
# The compact text of a value is read as that value

What the printer writes, the reader takes back, character by character: a
string up to the quote that ends it, a number up to a character that cannot go
on with it, an item up to its comma or bracket (`Ends`). The reader of values
is counted down at every bracket and the readers of lists at every comma, and
a text has more characters than either, so neither count runs out
(`readValue_chars`).

That holds for values that a reader can hold (`Held`): not too deep, with no
key twice in one object, and with whole numbers that a double has room for.
-/

namespace FleetOperator.Json

/-- The whole numbers below this are doubles. -/
def exactBound : Nat := 1 <<< 53

theorem exactBound_eq : exactBound = 9007199254740992 := by decide

/-- A value with no more than so many arrays and objects inside each other, which the reader can
hold as a whole. -/
inductive Held : Nat → Json → Prop
  | null {depth : Nat} : Held depth .null
  | bool {depth : Nat} (b : Bool) : Held depth (.bool b)
  | int {depth : Nat} {n : Int} (h : n.natAbs < exactBound) : Held depth (.int n)
  | str {depth : Nat} (s : String) : Held depth (.str s)
  | arr {depth : Nat} {items : List Json} (h : ∀ item ∈ items, Held depth item) :
      Held (depth + 1) (.arr items)
  | obj {depth : Nat} {members : List (String × Json)} (hkeys : (members.map (·.1)).Nodup)
      (h : ∀ member ∈ members, Held depth member.2) : Held (depth + 1) (.obj members)

/-- What can stand behind a value of a compact text: nothing, a comma, or the end of a list. -/
def Ends (cs : List Char) : Prop := ∀ c ∈ cs.head?, c = ',' ∨ c = ']' ∨ c = '\x7d'

theorem ends_nil : Ends [] := by
  intro c hc
  cases hc

theorem ends_cons {c : Char} (hc : c = ',' ∨ c = ']' ∨ c = '\x7d') (cs : List Char) :
    Ends (c :: cs) := by
  intro d hd
  obtain rfl := Option.some.inj hd
  exact hc

theorem Ends.noDigit {cs : List Char} (h : Ends cs) : NoDigit cs := by
  intro c hc
  rcases h c hc with rfl | rfl | rfl <;> rfl

theorem skipBlanks_cons {c : Char} (hc : isBlank c = false) (cs : List Char) :
    skipBlanks (c :: cs) = c :: cs := by
  rw [skipBlanks, List.dropWhile_cons, hc]
  rfl

theorem Ends.skipBlanks {cs : List Char} (h : Ends cs) : skipBlanks cs = cs := by
  cases cs with
  | nil => rfl
  | cons c cs =>
      refine skipBlanks_cons ?_ cs
      rcases h c rfl with rfl | rfl | rfl <;> rfl

/-! ## Strings -/

theorem charsOfCodes?_map_toNat (cs : List Char) : charsOfCodes? (cs.map Char.toNat) = some cs := by
  induction cs with
  | nil => rfl
  | cons c cs ih =>
      have hvalid : c.toNat < 0xD800 ∨ 0xDFFF < c.toNat := by
        rcases c.valid with h | ⟨h, -⟩
        · exact .inl h
        · exact .inr h
      have hlow : isLowSurrogate c.toNat = false := by
        rw [isLowSurrogate, Bool.and_eq_false_iff, decide_eq_false_iff_not, decide_eq_false_iff_not]
        omega
      have hhigh : isHighSurrogate c.toNat = false := by
        rw [isHighSurrogate, Bool.and_eq_false_iff, decide_eq_false_iff_not,
          decide_eq_false_iff_not]
        omega
      rw [List.map_cons, charsOfCodes?.eq_def]
      simp [hlow, hhigh, ih]

theorem readString_quoted (s : String) (rest : List Char) :
    readString (s.toList.flatMap escape ++ '"' :: rest) = some (some s, rest) := by
  rw [readString, readCodes_flatMap_escape, Option.map_some]
  simp only [charsOfCodes?_map_toNat, Option.map_some, String.ofList_toList]

/-! ## Numbers -/

theorem digitsValue_eq_ofDigitChars (ds : List Char) :
    digitsValue ds = Nat.ofDigitChars 10 ds 0 := by
  simp only [digitsValue, Nat.ofDigitChars, Nat.mul_comm]

theorem le_foldl_digits (n : Nat) (ds : List Char) :
    n ≤ ds.foldl (fun n d => n * 10 + (d.toNat - '0'.toNat)) n := by
  induction ds generalizing n with
  | nil => exact Nat.le_refl n
  | cons d ds ih =>
      have hstep : n ≤ n * 10 + (d.toNat - '0'.toNat) := by omega
      exact Nat.le_trans hstep (ih _)

theorem appendDigits_eq {n : Nat} {ds : List Char}
    (h : ds.foldl (fun n d => n * 10 + (d.toNat - '0'.toNat)) n < UInt64.size) :
    appendDigits n ds =
      (ds.foldl (fun n d => n * 10 + (d.toNat - '0'.toNat)) n, ds.length) := by
  induction ds generalizing n with
  | nil => rfl
  | cons d ds ih =>
      have hnext := Nat.lt_of_le_of_lt (le_foldl_digits _ ds) h
      rw [appendDigits]
      simp only [if_pos hnext, ih h]
      rfl

theorem roundToDouble_of_lt {n : Nat} (hn : n < exactBound) : roundToDouble n = n := by
  have hunit : n.log2 - 52 = 0 := by
    rcases Nat.eq_zero_or_pos n with rfl | hpos
    · rfl
    · have hlog : n.log2 < 53 := (Nat.log2_lt (Nat.ne_of_gt hpos)).2 hn
      omega
  rw [roundToDouble, hunit]
  simp [Nat.mod_one]

theorem digitsValue_toDigits (n : Nat) : digitsValue (Nat.toDigits 10 n) = n := by
  rw [digitsValue_eq_ofDigitChars, Nat.ofDigitChars_ten_toDigits]

theorem isHeld_toDigits {n : Nat} (hn : n < exactBound) :
    isHeld (Nat.toDigits 10 n) [] 0 = true := by
  have hvalue := digitsValue_toDigits n
  rw [digitsValue] at hvalue
  have hdigits : appendDigits 0 (Nat.toDigits 10 n) = (n, (Nat.toDigits 10 n).length) := by
    rw [appendDigits_eq, hvalue]
    rw [hvalue]
    exact Nat.lt_trans hn (by decide)
  have hone : roundToDouble 1 = 1 := by decide
  have hbound : n < doubleBound := Nat.lt_trans hn (by decide)
  rw [isHeld, hdigits]
  simp only [appendDigits, Nat.sub_self, isFiniteDouble]
  split
  · rfl
  · show (decide ((0 : Int) ≤ largestTenPower) &&
      decide (roundToDouble n * roundToDouble (Nat.pow 10 (Int.toNat 0)) < doubleBound)) = true
    simp [hone, roundToDouble_of_lt hn, hbound]

theorem toDigits_ne_zero_cons {n : Nat} (hn : 0 < n) (ds : List Char) :
    Nat.toDigits 10 n ≠ '0' :: ds := by
  induction n using Nat.strongRecOn generalizing ds with
  | ind n ih =>
      rcases Nat.lt_or_ge n 10 with hlt | hge
      · rw [Nat.toDigits_of_lt_base hlt]
        intro h
        have hzero := Nat.digitChar_eq_zero.1 (List.cons.inj h).1
        omega
      · obtain ⟨d, rest, hdigits, -⟩ := exists_toDigits_eq_cons (n / 10)
        rw [Nat.toDigits_of_base_le (by decide) hge, hdigits, List.cons_append]
        intro h
        obtain ⟨rfl, -⟩ := List.cons.inj h
        exact ih (n / 10) (by omega) (by omega) rest hdigits

theorem readFraction_ends {rest : List Char} (h : Ends rest) :
    readFraction rest = some ([], rest) := by
  rw [readFraction.eq_def]
  split
  · rcases h '.' rfl with h | h | h <;> cases h
  · rfl

theorem readExponent_ends {rest : List Char} (h : Ends rest) :
    readExponent rest = some (none, rest) := by
  cases rest with
  | nil => rfl
  | cons c rest =>
      have hc : ¬ (c = 'e' ∨ c = 'E') := by
        rcases h c rfl with rfl | rfl | rfl <;> decide
      simp only [readExponent, if_neg hc]

theorem readNumber_digits (negative : Bool) {m : Nat} (hm : m < exactBound)
    (hzero : ¬ (negative = true ∧ m = 0)) {rest : List Char} (hrest : Ends rest) :
    readNumber ((if negative then ['-'] else []) ++ (Nat.toDigits 10 m ++ rest)) =
      some (.int (if negative then -(m : Int) else m), rest) := by
  have hspan : spanDigits (Nat.toDigits 10 m ++ rest) = (Nat.toDigits 10 m, rest) :=
    spanDigits_digits (fun _ => isDigit_of_mem_toDigits) hrest.noDigit
  have hheld := isHeld_toDigits hm
  have hvalue := digitsValue_toDigits m
  unfold readNumber
  split
  next sign body hsign =>
  have hsign : sign = negative ∧ body = Nat.toDigits 10 m ++ rest := by
    cases negative with
    | true => exact ⟨(Prod.mk.inj hsign).1.symm, (Prod.mk.inj hsign).2.symm⟩
    | false =>
        split at hsign
        · next h => exact absurd h (toDigits_append_ne_minus _ _ _)
        · exact ⟨(Prod.mk.inj hsign).1.symm, (Prod.mk.inj hsign).2.symm⟩
  obtain ⟨rfl, rfl⟩ := hsign
  simp only [hspan, readFraction_ends hrest, Option.bind_eq_bind, Option.bind_some]
  -- The whole part is not empty, and it starts with a zero only where that is all of it.
  split
  · next hdigits => exact absurd hdigits Nat.toDigits_ne_nil
  · simpa [readExponent_ends hrest, hheld, hvalue] using hzero
  · next tail htail hdigits =>
      rcases Nat.eq_zero_or_pos m with rfl | hpos
      · exact absurd (List.cons.inj hdigits).2.symm htail
      · exact absurd hdigits (toDigits_ne_zero_cons hpos tail)
  · simpa [readExponent_ends hrest, hheld, hvalue] using hzero

theorem readNumber_intChars {n : Int} (hn : n.natAbs < exactBound) {rest : List Char}
    (hrest : Ends rest) : readNumber (intChars n ++ rest) = some (.int n, rest) := by
  cases n with
  | ofNat m => exact readNumber_digits false hn (by simp) hrest
  | negSucc m => exact readNumber_digits true hn (by simp) hrest

/-! ## Values -/

theorem Held.plain {depth : Nat} {value : Json} (h : Held depth value) : value.Plain := by
  induction h with
  | null => exact .null
  | bool b => exact .bool b
  | int => exact .int _
  | str s => exact .str s
  | arr _ ih => exact .arr ih
  | obj _ _ ih => exact .obj ih

theorem Plain.skipBlanks_chars {value : Json} (h : value.Plain) (rest : List Char) :
    skipBlanks (value.chars ++ rest) = value.chars ++ rest := by
  obtain ⟨c, cs, hchars, hkind⟩ := h.exists_chars_eq_cons
  have hblank : isBlank c = false := by
    rw [← Bool.not_eq_true, isBlank]
    simp only [Bool.or_eq_true, beq_iff_eq]
    rintro (((rfl | rfl) | rfl) | rfl) <;> cases hkind
  rw [hchars, List.cons_append, skipBlanks_cons hblank]

/-- A reader that takes a value off the front of what starts with its text. -/
def Reads (read : List Char → Option (Json × List Char)) (value : Json) : Prop :=
  ∀ rest, Ends rest → read (value.chars ++ rest) = some (value, rest)

theorem readItems_last {read : List Char → Option (Json × List Char)} {item : Json}
    (hplain : item.Plain) (hread : Reads read item) (count : Nat) (rest : List Char) :
    readItems read (count + 1) (item.chars ++ ']' :: rest) = some ([item], rest) := by
  have hends : Ends (']' :: rest) := ends_cons (by simp) rest
  rw [readItems, hplain.skipBlanks_chars, hread _ hends]
  simp only [Option.bind_eq_bind, Option.bind_some, hends.skipBlanks]
  rfl

theorem readItems_more {read : List Char → Option (Json × List Char)} {item : Json}
    (hplain : item.Plain) (hread : Reads read item) (count : Nat) (left : List Char) :
    readItems read (count + 1) (item.chars ++ ',' :: left) =
      (readItems read count left).map fun (items, left) => (item :: items, left) := by
  have hends : Ends (',' :: left) := ends_cons (by simp) left
  rw [readItems, hplain.skipBlanks_chars, hread _ hends]
  simp only [Option.bind_eq_bind, Option.bind_some, hends.skipBlanks]
  cases readItems read count left <;> rfl

theorem readItems_chars {read : List Char → Option (Json × List Char)} {item : Json}
    {items : List Json} {count : Nat} (hplain : ∀ value ∈ item :: items, value.Plain)
    (hreads : ∀ value ∈ item :: items, Reads read value) (hcount : items.length < count)
    (rest : List Char) :
    readItems read count (item.chars ++ (itemChars items ++ rest)) =
      some (item :: items, rest) := by
  obtain ⟨count, rfl⟩ := Nat.exists_eq_add_one_of_ne_zero (Nat.ne_zero_of_lt hcount)
  obtain ⟨hitem, hplain⟩ := List.forall_mem_cons.1 hplain
  obtain ⟨hread, hreads⟩ := List.forall_mem_cons.1 hreads
  match items with
  | [] =>
      rw [itemChars.eq_def]
      exact readItems_last hitem hread count rest
  | next :: items =>
      rw [itemChars_cons_append, readItems_more hitem hread,
        readItems_chars hplain hreads (Nat.lt_of_succ_lt_succ hcount)]
      rfl

/-- A key at hand is read, and its colon. -/
theorem readMembers_quoted (read : List Char → Option (Json × List Char)) (count : Nat)
    (key : String) (cs : List Char) :
    readMembers read (count + 1) (quoted key ++ ':' :: cs) = (do
      let (value, left) ← read (skipBlanks cs)
      match skipBlanks left with
      | '\x7d' :: left => return ([(some key, value)], left)
      | ',' :: left =>
        let (members, left) ← readMembers read count left
        return ((some key, value) :: members, left)
      | _ => none) := by
  have hkey : quoted key ++ ':' :: cs =
      '"' :: (key.toList.flatMap escape ++ '"' :: (':' :: cs)) := by
    simp only [quoted, List.cons_append, List.append_assoc, List.nil_append]
  rw [readMembers, hkey, skipBlanks_cons (by decide)]
  simp only [Option.bind_eq_bind, Option.bind_some, readString_quoted]
  rw [skipBlanks_cons (by decide)]
  rfl

theorem readMembers_last {read : List Char → Option (Json × List Char)} {value : Json}
    (hplain : value.Plain) (hread : Reads read value) (count : Nat) (key : String)
    (rest : List Char) :
    readMembers read (count + 1) (quoted key ++ ':' :: (value.chars ++ '\x7d' :: rest)) =
      some ([(some key, value)], rest) := by
  have hends : Ends ('\x7d' :: rest) := ends_cons (by simp) rest
  rw [readMembers_quoted, hplain.skipBlanks_chars, hread _ hends]
  simp only [Option.bind_eq_bind, Option.bind_some, hends.skipBlanks]
  rfl

theorem readMembers_more {read : List Char → Option (Json × List Char)} {value : Json}
    (hplain : value.Plain) (hread : Reads read value) (count : Nat) (key : String)
    (left : List Char) :
    readMembers read (count + 1) (quoted key ++ ':' :: (value.chars ++ ',' :: left)) =
      (readMembers read count left).map fun (members, left) =>
        ((some key, value) :: members, left) := by
  have hends : Ends (',' :: left) := ends_cons (by simp) left
  rw [readMembers_quoted, hplain.skipBlanks_chars, hread _ hends]
  simp only [Option.bind_eq_bind, Option.bind_some, hends.skipBlanks]
  cases readMembers read count left <;> rfl

theorem readMembers_chars {read : List Char → Option (Json × List Char)} {key : String}
    {value : Json} {members : List (String × Json)} {count : Nat}
    (hplain : ∀ member ∈ (key, value) :: members, member.2.Plain)
    (hreads : ∀ member ∈ (key, value) :: members, Reads read member.2)
    (hcount : members.length < count) (rest : List Char) :
    readMembers read count
        (quoted key ++ ':' :: (value.chars ++ (memberChars members ++ rest))) =
      some (((key, value) :: members).map fun (key, value) => (some key, value), rest) := by
  obtain ⟨count, rfl⟩ := Nat.exists_eq_add_one_of_ne_zero (Nat.ne_zero_of_lt hcount)
  obtain ⟨hvalue, hplain⟩ := List.forall_mem_cons.1 hplain
  obtain ⟨hread, hreads⟩ := List.forall_mem_cons.1 hreads
  match members with
  | [] =>
      rw [memberChars.eq_def]
      exact readMembers_last hvalue hread count key rest
  | next :: members =>
      rw [memberChars_cons_append, readMembers_more hvalue hread,
        readMembers_chars hplain hreads (Nat.lt_of_succ_lt_succ hcount)]
      rfl

theorem ofMembers_map (members : List (String × Json)) :
    ofMembers (members.map fun (key, value) => (some key, value)) = .obj members := by
  have hmembers : (members.map fun (key, value) => (some key, value)).mapM
      (fun member : Option String × Json => member.1.map (·, member.2)) = some members := by
    induction members with
    | nil => rfl
    | cons member rest ih =>
        rw [List.map_cons, List.mapM_cons, ih]
        rfl
  rw [ofMembers]
  simp only [hmembers]
  rfl

theorem readValue_of_number {c : Char} (hc : c = '-' ∨ c.isDigit = true) (count level : Nat)
    (cs : List Char) : readValue count level (c :: cs) = readNumber (c :: cs) := by
  have hne {d : Char} (hd : d ≠ '-' ∧ d.isDigit = false) : c ≠ d := by
    rintro rfl
    rcases hc with h | h
    · exact hd.1 h
    · rw [hd.2] at h
      cases h
  rw [readValue.eq_def]
  dsimp only
  split
  · next h => exact absurd (List.cons.inj h).1 (hne (by decide))
  · next h => exact absurd (List.cons.inj h).1 (hne (by decide))
  · next h => exact absurd (List.cons.inj h).1 (hne (by decide))
  · next h => exact absurd (List.cons.inj h).1 (hne (by decide))
  · next h => exact absurd (List.cons.inj h).1 (hne (by decide))
  · next h => exact absurd (List.cons.inj h).1 (hne (by decide))
  · rfl

theorem exists_intChars_eq_cons (n : Int) :
    ∃ c cs, intChars n = c :: cs ∧ (c = '-' ∨ c.isDigit = true) := by
  cases n with
  | ofNat n =>
      obtain ⟨d, ds, hdigits, hd⟩ := exists_toDigits_eq_cons n
      exact ⟨d, ds, hdigits, .inr hd⟩
  | negSucc n => exact ⟨'-', _, rfl, .inl rfl⟩

theorem readValue_bracket (count level : Nat) (cs : List Char) :
    readValue (count + 1) level ('[' :: cs) =
      match skipBlanks cs with
      | ']' :: left => some (within level (.arr []), left)
      | cs => (readItems (readValue count (level + 1)) count cs).map
          fun (items, left) => (within level (.arr items), left) := by
  rw [readValue.eq_def]
  rfl

theorem readValue_brace (count level : Nat) (cs : List Char) :
    readValue (count + 1) level ('\x7b' :: cs) =
      match skipBlanks cs with
      | '\x7d' :: left => some (within level (.obj []), left)
      | cs => (readMembers (readValue count (level + 1)) count cs).map
          fun (members, left) => (within level (ofMembers members), left) := by
  rw [readValue.eq_def]
  rfl

theorem length_lt_itemChars (items : List Json) : items.length < (itemChars items).length := by
  induction items with
  | nil => rw [itemChars.eq_def]; exact Nat.one_pos
  | cons item items ih =>
      rw [itemChars, List.length_append, List.length_cons, List.length_cons]
      omega

theorem length_chars_lt_itemChars {item : Json} {items : List Json} (h : item ∈ items) :
    item.chars.length < (itemChars items).length := by
  induction items with
  | nil => cases h
  | cons first items ih =>
      rw [itemChars, List.length_append, List.length_cons]
      rcases List.mem_cons.1 h with rfl | h
      · omega
      · have hrest := ih h
        omega

theorem length_itemChars_le (items : List Json) :
    (itemChars items).length ≤ (Json.arr items).chars.length := by
  cases items with
  | nil => rw [itemChars.eq_def, chars.eq_def]; decide
  | cons item items => rw [itemChars, chars]; exact Nat.le_refl _

theorem length_lt_memberChars (members : List (String × Json)) :
    members.length < (memberChars members).length := by
  induction members with
  | nil => rw [memberChars.eq_def]; exact Nat.one_pos
  | cons member members ih =>
      rw [memberChars, List.length_append, List.length_append, List.length_cons, List.length_cons]
      omega

theorem length_chars_lt_memberChars {member : String × Json} {members : List (String × Json)}
    (h : member ∈ members) : member.2.chars.length < (memberChars members).length := by
  induction members with
  | nil => cases h
  | cons first members ih =>
      rw [memberChars]
      simp only [List.length_append, List.length_cons]
      rcases List.mem_cons.1 h with rfl | h
      · omega
      · have hrest := ih h
        omega

theorem length_memberChars_le (members : List (String × Json)) :
    (memberChars members).length ≤ (Json.obj members).chars.length := by
  cases members with
  | nil => rw [memberChars.eq_def, chars.eq_def]; decide
  | cons member members => rw [memberChars, chars]; exact Nat.le_refl _

theorem readValue_arr {items : List Json} {count level : Nat} (hlevel : level < maxDepth)
    (hplain : ∀ item ∈ items, item.Plain)
    (hreads : ∀ item ∈ items, Reads (readValue count (level + 1)) item)
    (hcount : items.length ≤ count) : Reads (readValue (count + 1) level) (.arr items) := by
  intro rest _
  have hwithin (value : Json) : within level value = value := by rw [within, if_pos hlevel]
  cases items with
  | nil =>
      rw [chars.eq_def]
      simp only [List.cons_append, List.nil_append]
      rw [readValue_bracket, skipBlanks_cons (by decide)]
      simp only [hwithin]
  | cons item items =>
      have hitem := hplain item List.mem_cons_self
      rw [chars_arr_cons_append, readValue_bracket, hitem.skipBlanks_chars]
      split
      · next h => exact absurd h (hitem.chars_append_ne rfl _ _)
      · rw [readItems_chars hplain hreads hcount]
        simp only [Option.map_some, hwithin]

theorem readValue_obj {members : List (String × Json)} {count level : Nat}
    (hlevel : level < maxDepth) (hplain : ∀ member ∈ members, member.2.Plain)
    (hreads : ∀ member ∈ members, Reads (readValue count (level + 1)) member.2)
    (hcount : members.length ≤ count) : Reads (readValue (count + 1) level) (.obj members) := by
  intro rest _
  have hwithin (value : Json) : within level value = value := by rw [within, if_pos hlevel]
  cases members with
  | nil =>
      rw [chars.eq_def]
      simp only [List.cons_append, List.nil_append]
      rw [readValue_brace, skipBlanks_cons (by decide)]
      simp only [hwithin]
  | cons member members =>
      obtain ⟨key, value⟩ := member
      have hquoted (cs : List Char) : skipBlanks (quoted key ++ cs) = quoted key ++ cs :=
        skipBlanks_cons (by decide) _
      rw [chars_obj_cons_append, readValue_brace, hquoted]
      split
      · next h => exact absurd h (quoted_append_ne _ (by decide) _ _)
      · rw [readMembers_chars hplain hreads hcount]
        simp only [Option.map_some, ofMembers_map, hwithin]

/-- A value at hand is read as itself, on a count of no fewer than its characters. -/
theorem readValue_chars {depth : Nat} {value : Json} (h : Held depth value) {count level : Nat}
    (hcount : value.chars.length ≤ count) (hlevel : level + depth ≤ maxDepth) :
    Reads (readValue count level) value := by
  induction h generalizing count level with
  | null =>
      intro rest _
      rw [chars.eq_def, readValue.eq_def]
      rfl
  | bool b =>
      intro rest _
      cases b <;> rw [chars.eq_def, readValue.eq_def] <;> rfl
  | @int depth n hn =>
      intro rest hrest
      obtain ⟨c, cs, hchars, hc⟩ := exists_intChars_eq_cons n
      rw [← readNumber_intChars hn hrest, chars.eq_def]
      simp only [hchars, List.cons_append, readValue_of_number hc]
  | str s =>
      intro rest _
      rw [chars.eq_def]
      simp only [quoted, List.cons_append, List.append_assoc, List.nil_append]
      rw [readValue.eq_def]
      simp only [readString_quoted]
      rfl
  | @arr depth items h ih =>
      have hchars := length_itemChars_le items
      have hitems := length_lt_itemChars items
      obtain ⟨count, rfl⟩ : ∃ below, count = below + 1 := ⟨count - 1, by omega⟩
      refine readValue_arr (by omega) (fun item hitem => (h item hitem).plain)
        (fun item hitem => ih item hitem ?_ (by omega)) (by omega)
      have hitem := length_chars_lt_itemChars hitem
      omega
  | @obj depth members hkeys h ih =>
      have hchars := length_memberChars_le members
      have hmembers := length_lt_memberChars members
      obtain ⟨count, rfl⟩ : ∃ below, count = below + 1 := ⟨count - 1, by omega⟩
      refine readValue_obj (by omega) (fun member hmember => (h member hmember).plain)
        (fun member hmember => ih member hmember ?_ (by omega)) (by omega)
      have hmember := length_chars_lt_memberChars hmember
      omega

/-! ## Whole texts -/

theorem itemsReadable_of_forall {items : List Json} (h : ∀ item ∈ items, item.isReadable = true) :
    itemsReadable items = true := by
  induction items with
  | nil => rw [itemsReadable]
  | cons item items ih =>
      obtain ⟨hitem, hitems⟩ := List.forall_mem_cons.1 h
      rw [itemsReadable, hitem, ih hitems, Bool.and_self]

theorem membersReadable_of_forall {members : List (String × Json)}
    (h : ∀ member ∈ members, member.2.isReadable = true) : membersReadable members = true := by
  induction members with
  | nil => rw [membersReadable]
  | cons member members ih =>
      obtain ⟨hmember, hmembers⟩ := List.forall_mem_cons.1 h
      rw [membersReadable, hmember, ih hmembers, Bool.and_self]

theorem Plain.isReadable {value : Json} (h : value.Plain) : value.isReadable = true := by
  induction h with
  | arr _ ih => rw [Json.isReadable]; exact itemsReadable_of_forall ih
  | obj _ ih => rw [Json.isReadable]; exact membersReadable_of_forall ih
  | _ => rw [Json.isReadable.eq_def]

theorem lastWinsItems_eq {items : List Json} (h : ∀ item ∈ items, item.lastWins = item) :
    lastWinsItems items = items := by
  induction items with
  | nil => rw [lastWinsItems]
  | cons item items ih =>
      obtain ⟨hitem, hitems⟩ := List.forall_mem_cons.1 h
      rw [lastWinsItems, hitem, ih hitems]

theorem lastWinsMembers_eq {members : List (String × Json)}
    (h : ∀ member ∈ members, member.2.lastWins = member.2) : lastWinsMembers members = members := by
  induction members with
  | nil => rw [lastWinsMembers]
  | cons member members ih =>
      obtain ⟨hmember, hmembers⟩ := List.forall_mem_cons.1 h
      rw [lastWinsMembers, hmember, ih hmembers]

theorem dropShadowed_eq {α : Type} {members : List (String × α)}
    (hkeys : (members.map (·.1)).Nodup) : dropShadowed members = members := by
  induction members with
  | nil => rfl
  | cons member members ih =>
      obtain ⟨hkey, hkeys⟩ := List.nodup_cons.1 hkeys
      have hfresh : ¬ members.any (·.1 == member.1) := by
        rw [List.any_eq_true]
        rintro ⟨other, hother, hsame⟩
        exact hkey (List.mem_map.2 ⟨other, hother, beq_iff_eq.1 hsame⟩)
      rw [dropShadowed, if_neg hfresh, ih hkeys]

theorem Held.lastWins {depth : Nat} {value : Json} (h : Held depth value) :
    value.lastWins = value := by
  induction h with
  | arr _ ih => rw [Json.lastWins, lastWinsItems_eq ih]
  | obj hkeys _ ih => rw [Json.lastWins, lastWinsMembers_eq ih, dropShadowed_eq hkeys]
  | _ => rw [Json.lastWins.eq_def]

/-- The compact text of a value that can be held is read as that value. -/
theorem Held.parse?_text {value : Json} (h : Held maxDepth value) :
    parse? value.text = some value := by
  have hread : readValue value.chars.length 0 (value.chars ++ []) = some (value, []) :=
    readValue_chars h (Nat.le_refl _) (by omega) [] ends_nil
  have hblanks := h.plain.skipBlanks_chars []
  rw [List.append_nil] at hread hblanks
  have hraw : parseRaw? value.text = some value := by
    rw [parseRaw?, text, String.toList_ofList]
    simp only [hblanks, hread, Option.bind_eq_bind, Option.bind_some]
    rfl
  rw [parse?, hraw, Option.bind_some, asAny?, if_pos h.plain.isReadable, Option.map_some,
    h.lastWins]

end FleetOperator.Json
