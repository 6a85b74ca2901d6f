import FleetOperator.Json.Parser
import FleetOperator.Json.Printer
import FleetOperator.Proofs.Hash
import FleetOperator.Proofs.Text.Cut

/-!
# The compact text of a JSON value is that of no other

A text is taken apart from the front. The first character says what kind of
value there is. A string ends at the first quote that is not escaped, a
number at the first character that is no digit, and an array or an object
where its items or members are not followed by a comma. So whatever comes
behind a value, unless it is a digit, two values whose texts start the same
text are the same value (`Plain.chars_cancel`).

That is so for the values that structures are written as. Numbers kept as
their text are left out: the text could be any.
-/

namespace FleetOperator.Json

/-! ## Strings -/

theorem value?_digit : ∀ n < 16, Text.Hex.value? (Text.Hex.digit n) = some n := by decide

theorem hexWord?_digits {n : Nat} (hn : n < 256) :
    hexWord? '0' '0' (Text.Hex.digit (n / 16)) (Text.Hex.digit (n % 16)) = some n := by
  have hzero : Text.Hex.value? '0' = some 0 := by decide
  have hhigh := value?_digit (n / 16) (by omega)
  have hlow := value?_digit (n % 16) (by omega)
  rw [hexWord?, hzero, hhigh, hlow]
  show some (((0 * 16 + 0) * 16 + n / 16) * 16 + n % 16) = some n
  congr 1
  omega

/-- The reader of strings takes an escape for the character that it stands for. -/
theorem readCodes_escape (c : Char) (rest : List Char) :
    readCodes (escape c ++ rest) =
      (readCodes rest).map fun (codes, left) => (c.toNat :: codes, left) := by
  unfold escape
  split
  · next h => subst h; rfl
  split
  · next h => subst h; rfl
  split
  · next h => subst h; rfl
  split
  · next h => subst h; rfl
  split
  · next h => subst h; rfl
  split
  · next h => subst h; rfl
  split
  · next h => subst h; rfl
  split
  · next h =>
      have hword := hexWord?_digits (n := c.toNat) (by omega)
      simp only [List.cons_append, List.nil_append, readCodes, hword]
  · next hquote hbackslash _ _ _ _ _ hvisible =>
      simp only [List.cons_append, List.nil_append]
      rw [readCodes.eq_def]
      split
      · next h => exact absurd (List.cons.inj h).1 hquote
      · next h => exact absurd (List.cons.inj h).1 hbackslash
      · next h => exact absurd (List.cons.inj h).1 hbackslash
      · next h =>
          obtain ⟨rfl, rfl⟩ := List.cons.inj h
          rw [if_neg hvisible]
      · next h => cases h

theorem readCodes_flatMap_escape (cs rest : List Char) :
    readCodes (cs.flatMap escape ++ '"' :: rest) = some (cs.map Char.toNat, rest) := by
  induction cs with
  | nil => rfl
  | cons c cs ih =>
      rw [List.flatMap_cons, List.append_assoc, readCodes_escape, ih]
      rfl

theorem quoted_cancel {s t : String} {rest left : List Char}
    (h : quoted s ++ rest = quoted t ++ left) : s = t ∧ rest = left := by
  simp only [quoted, List.cons_append, List.append_assoc, List.nil_append] at h
  have hread := congrArg readCodes (List.cons.inj h).2
  rw [readCodes_flatMap_escape, readCodes_flatMap_escape] at hread
  obtain ⟨hcodes, hrest⟩ := Prod.mk.inj (Option.some.inj hread)
  have hchars := (List.map_inj_right fun _ _ => Char.toNat_inj.1).1 hcodes
  exact ⟨String.toList_inj.1 hchars, hrest⟩

/-! ## Numbers -/

/-- A text that does not start with a digit. -/
def NoDigit (cs : List Char) : Prop := ∀ c ∈ cs.head?, c.isDigit = false

theorem noDigit_nil : NoDigit [] := by
  intro c hc
  cases hc

theorem noDigit_cons {c : Char} {cs : List Char} (h : c.isDigit = false) : NoDigit (c :: cs) := by
  intro d hd
  obtain rfl := Option.some.inj hd
  exact h

theorem spanDigits_digits {ds cs : List Char} (hds : ∀ d ∈ ds, d.isDigit = true)
    (hcs : NoDigit cs) : spanDigits (ds ++ cs) = (ds, cs) := by
  obtain ⟨htake, hdrop⟩ := (Text.takeWhile_dropWhile_eq_iff _ _).2 ⟨rfl, hds, hcs⟩
  rw [spanDigits, htake, hdrop]

theorem isDigit_of_mem_toDigits {n : Nat} {c : Char} (h : c ∈ Nat.toDigits 10 n) :
    c.isDigit = true :=
  Nat.isDigit_of_mem_toDigits (by decide) (by decide) h

theorem toDigits_cancel {m n : Nat} {rest left : List Char} (hrest : NoDigit rest)
    (hleft : NoDigit left) (h : Nat.toDigits 10 m ++ rest = Nat.toDigits 10 n ++ left) :
    m = n ∧ rest = left := by
  have hspan := congrArg spanDigits h
  rw [spanDigits_digits (fun _ => isDigit_of_mem_toDigits) hrest,
    spanDigits_digits (fun _ => isDigit_of_mem_toDigits) hleft] at hspan
  obtain ⟨hdigits, hends⟩ := Prod.mk.inj hspan
  exact ⟨toDigits_injective hdigits, hends⟩

theorem exists_toDigits_eq_cons (n : Nat) :
    ∃ d ds, Nat.toDigits 10 n = d :: ds ∧ d.isDigit = true := by
  cases hdigits : Nat.toDigits 10 n with
  | nil => exact absurd hdigits Nat.toDigits_ne_nil
  | cons d ds =>
      refine ⟨d, ds, rfl, isDigit_of_mem_toDigits (n := n) ?_⟩
      rw [hdigits]
      exact List.mem_cons_self

theorem toDigits_append_ne_minus (n : Nat) (rest left : List Char) :
    Nat.toDigits 10 n ++ rest ≠ '-' :: left := by
  obtain ⟨d, ds, hdigits, hd⟩ := exists_toDigits_eq_cons n
  rw [hdigits]
  intro h
  rw [(List.cons.inj h).1] at hd
  exact absurd hd (by decide)

theorem intChars_cancel {m n : Int} {rest left : List Char} (hrest : NoDigit rest)
    (hleft : NoDigit left) (h : intChars m ++ rest = intChars n ++ left) :
    m = n ∧ rest = left := by
  cases m with
  | ofNat m =>
      cases n with
      | ofNat n =>
          obtain ⟨rfl, hends⟩ := toDigits_cancel hrest hleft h
          exact ⟨rfl, hends⟩
      | negSucc n => exact absurd h (toDigits_append_ne_minus _ _ _)
  | negSucc m =>
      cases n with
      | ofNat n => exact absurd h.symm (toDigits_append_ne_minus _ _ _)
      | negSucc n =>
          obtain ⟨hnumber, hends⟩ := toDigits_cancel hrest hleft (List.cons.inj h).2
          obtain rfl := Nat.succ.inj hnumber
          exact ⟨rfl, hends⟩

/-! ## Values -/

/-- A value with no number that is kept as its text, and with no part that cannot be held. -/
inductive Plain : Json → Prop
  | null : Plain .null
  | bool (b : Bool) : Plain (.bool b)
  | int (n : Int) : Plain (.int n)
  | str (s : String) : Plain (.str s)
  | arr {items : List Json} (h : ∀ item ∈ items, Plain item) : Plain (.arr items)
  | obj {members : List (String × Json)} (h : ∀ member ∈ members, Plain member.2) :
      Plain (.obj members)

/-- The kinds of values that a first character tells apart. -/
inductive Kind where
  | null
  | bool (b : Bool)
  | number
  | string
  | list
  | object

/-- The kind of the values that start with a character. -/
def Kind.ofChar? (c : Char) : Option Kind :=
  if c = 'n' then some .null
  else if c = 't' then some (.bool true)
  else if c = 'f' then some (.bool false)
  else if c = '"' then some .string
  else if c = '[' then some .list
  else if c = '\x7b' then some .object
  else if c = '-' ∨ c.isDigit then some .number
  else none

def kind : Json → Kind
  | .null | .unreadable => .null
  | .bool b => .bool b
  | .int _ | .real _ => .number
  | .str _ => .string
  | .arr _ => .list
  | .obj _ => .object

theorem ofChar?_of_isDigit {c : Char} (hc : c.isDigit = true) :
    Kind.ofChar? c = some .number := by
  have hne {d : Char} (hd : d.isDigit = false) : c ≠ d := by
    rintro rfl
    rw [hc] at hd
    cases hd
  rw [Kind.ofChar?, if_neg (hne (by decide)), if_neg (hne (by decide)), if_neg (hne (by decide)),
    if_neg (hne (by decide)), if_neg (hne (by decide)), if_neg (hne (by decide)), if_pos (.inr hc)]

/-- The first character of a value says of what kind it is. -/
theorem Plain.exists_chars_eq_cons {value : Json} (h : value.Plain) :
    ∃ c cs, value.chars = c :: cs ∧ Kind.ofChar? c = some value.kind := by
  cases h with
  | null => exact ⟨_, _, by rw [chars], rfl⟩
  | bool b => cases b <;> exact ⟨_, _, by rw [chars], rfl⟩
  | int n =>
      rw [chars]
      cases n with
      | ofNat n =>
          obtain ⟨d, ds, hdigits, hd⟩ := exists_toDigits_eq_cons n
          exact ⟨d, ds, hdigits, ofChar?_of_isDigit hd⟩
      | negSucc n => exact ⟨'-', _, rfl, rfl⟩
  | str s => exact ⟨_, _, by rw [chars, quoted, List.cons_append], rfl⟩
  | @arr items h =>
      cases items with
      | nil => exact ⟨_, _, by rw [chars], rfl⟩
      | cons item items => exact ⟨_, _, by rw [chars, List.cons_append], rfl⟩
  | @obj members h =>
      cases members with
      | nil => exact ⟨_, _, by rw [chars], rfl⟩
      | cons member members =>
          exact ⟨'\x7b', quoted member.1 ++ ':' :: member.2.chars ++ memberChars members,
            by rw [chars]; rfl, rfl⟩

theorem Plain.kind_eq {value other : Json} (h : value.Plain) (hother : other.Plain)
    {rest left : List Char} (htext : value.chars ++ rest = other.chars ++ left) :
    value.kind = other.kind := by
  obtain ⟨c, cs, hchars, hkind⟩ := h.exists_chars_eq_cons
  obtain ⟨d, ds, hchars', hkind'⟩ := hother.exists_chars_eq_cons
  rw [hchars, hchars'] at htext
  rw [(List.cons.inj htext).1] at hkind
  exact Option.some.inj (hkind.symm.trans hkind')

theorem Plain.chars_append_ne {value : Json} (h : value.Plain) {c : Char}
    (hc : Kind.ofChar? c = none) (rest left : List Char) : value.chars ++ rest ≠ c :: left := by
  obtain ⟨d, ds, hchars, hkind⟩ := h.exists_chars_eq_cons
  rw [hchars]
  intro htext
  rw [(List.cons.inj htext).1, hc] at hkind
  cases hkind

/-- A value with which no other value shares the start of a text. -/
def Cancels (value : Json) : Prop :=
  ∀ {other : Json} {rest left : List Char}, other.Plain → NoDigit rest → NoDigit left →
    value.chars ++ rest = other.chars ++ left → value = other ∧ rest = left

theorem noDigit_itemChars (items : List Json) (rest : List Char) :
    NoDigit (itemChars items ++ rest) := by
  cases items <;> rw [itemChars] <;> exact noDigit_cons (by decide)

theorem noDigit_memberChars (members : List (String × Json)) (rest : List Char) :
    NoDigit (memberChars members ++ rest) := by
  cases members <;> rw [memberChars] <;> exact noDigit_cons (by decide)

theorem itemChars_cons_append (item : Json) (items : List Json) (rest : List Char) :
    itemChars (item :: items) ++ rest = ',' :: (item.chars ++ (itemChars items ++ rest)) := by
  rw [itemChars, List.cons_append, List.cons_append, List.append_assoc]

theorem itemChars_cancel {items others : List Json} {rest left : List Char}
    (hcancel : ∀ item ∈ items, Cancels item) (hplain : ∀ item ∈ others, Plain item)
    (h : itemChars items ++ rest = itemChars others ++ left) : items = others ∧ rest = left := by
  induction items generalizing others with
  | nil =>
      cases others with
      | nil => exact ⟨rfl, List.append_cancel_left h⟩
      | cons other others =>
          rw [itemChars, itemChars] at h
          exact absurd (List.cons.inj h).1 (by decide)
  | cons item items ih =>
      cases others with
      | nil =>
          rw [itemChars, itemChars] at h
          exact absurd (List.cons.inj h).1 (by decide)
      | cons other others =>
          obtain ⟨hitem, hitems⟩ := List.forall_mem_cons.1 hcancel
          obtain ⟨hother, hothers⟩ := List.forall_mem_cons.1 hplain
          rw [itemChars_cons_append, itemChars_cons_append] at h
          obtain ⟨hfirst, htail⟩ := hitem hother (noDigit_itemChars items rest)
            (noDigit_itemChars others left) (List.cons.inj h).2
          obtain ⟨hitems, hends⟩ := ih hitems hothers htail
          rw [hfirst, hitems]
          exact ⟨rfl, hends⟩

theorem memberChars_cons_append (key : String) (value : Json) (members : List (String × Json))
    (rest : List Char) :
    memberChars ((key, value) :: members) ++ rest =
      ',' :: (quoted key ++ ':' :: (value.chars ++ (memberChars members ++ rest))) := by
  rw [memberChars]
  simp only [List.cons_append, List.append_assoc]

theorem member_cancel {key name : String} {value other : Json} {rest left : List Char}
    (hvalue : Cancels value) (hother : other.Plain) (hrest : NoDigit rest) (hleft : NoDigit left)
    (h : quoted key ++ ':' :: (value.chars ++ rest) =
      quoted name ++ ':' :: (other.chars ++ left)) :
    (key, value) = (name, other) ∧ rest = left := by
  obtain ⟨rfl, hvalues⟩ := quoted_cancel h
  obtain ⟨rfl, hends⟩ := hvalue hother hrest hleft (List.cons.inj hvalues).2
  exact ⟨rfl, hends⟩

theorem memberChars_cancel {members others : List (String × Json)} {rest left : List Char}
    (hcancel : ∀ member ∈ members, Cancels member.2)
    (hplain : ∀ member ∈ others, Plain member.2)
    (h : memberChars members ++ rest = memberChars others ++ left) :
    members = others ∧ rest = left := by
  induction members generalizing others with
  | nil =>
      cases others with
      | nil => exact ⟨rfl, List.append_cancel_left h⟩
      | cons other others =>
          rw [memberChars, memberChars] at h
          exact absurd (List.cons.inj h).1 (by decide)
  | cons member members ih =>
      cases others with
      | nil =>
          rw [memberChars, memberChars] at h
          exact absurd (List.cons.inj h).1 (by decide)
      | cons other others =>
          obtain ⟨hmember, hmembers⟩ := List.forall_mem_cons.1 hcancel
          obtain ⟨hother, hothers⟩ := List.forall_mem_cons.1 hplain
          obtain ⟨key, value⟩ := member
          obtain ⟨name, other⟩ := other
          rw [memberChars_cons_append, memberChars_cons_append] at h
          obtain ⟨hfirst, htail⟩ := member_cancel hmember hother (noDigit_memberChars members rest)
            (noDigit_memberChars others left) (List.cons.inj h).2
          obtain ⟨hmembers, hends⟩ := ih hmembers hothers htail
          rw [hfirst, hmembers]
          exact ⟨rfl, hends⟩

theorem chars_arr_cons_append (item : Json) (items : List Json) (rest : List Char) :
    (Json.arr (item :: items)).chars ++ rest =
      '[' :: (item.chars ++ (itemChars items ++ rest)) := by
  rw [chars]
  simp only [List.cons_append, List.append_assoc]

theorem chars_obj_cons_append (key : String) (value : Json) (members : List (String × Json))
    (rest : List Char) :
    (Json.obj ((key, value) :: members)).chars ++ rest =
      '\x7b' :: (quoted key ++ ':' :: (value.chars ++ (memberChars members ++ rest))) := by
  rw [chars]
  simp only [List.cons_append, List.append_assoc]

theorem arr_cancel {items others : List Json} {rest left : List Char}
    (hcancel : ∀ item ∈ items, Cancels item) (hplain : ∀ item ∈ items, Plain item)
    (hplain' : ∀ item ∈ others, Plain item)
    (h : (Json.arr items).chars ++ rest = (Json.arr others).chars ++ left) :
    items = others ∧ rest = left := by
  cases items with
  | nil =>
      cases others with
      | nil => exact ⟨rfl, List.append_cancel_left h⟩
      | cons other others =>
          rw [chars_arr_cons_append, chars] at h
          exact absurd (List.cons.inj h).2.symm
            ((hplain' other List.mem_cons_self).chars_append_ne rfl _ _)
  | cons item items =>
      cases others with
      | nil =>
          rw [chars_arr_cons_append, chars] at h
          exact absurd (List.cons.inj h).2
            ((hplain item List.mem_cons_self).chars_append_ne rfl _ _)
      | cons other others =>
          -- Behind a comma the items of both are the items after a first one.
          rw [chars_arr_cons_append, chars_arr_cons_append] at h
          have hitems := congrArg (',' :: ·) (List.cons.inj h).2
          simp only [← itemChars_cons_append] at hitems
          exact itemChars_cancel hcancel hplain' hitems

theorem quoted_append_ne (s : String) {c : Char} (hc : c ≠ '"') (rest left : List Char) :
    quoted s ++ rest ≠ c :: left := by
  intro h
  exact hc (List.cons.inj h).1.symm

theorem obj_cancel {members others : List (String × Json)} {rest left : List Char}
    (hcancel : ∀ member ∈ members, Cancels member.2)
    (hplain : ∀ member ∈ others, Plain member.2)
    (h : (Json.obj members).chars ++ rest = (Json.obj others).chars ++ left) :
    members = others ∧ rest = left := by
  cases members with
  | nil =>
      cases others with
      | nil => exact ⟨rfl, List.append_cancel_left h⟩
      | cons other others =>
          rw [chars_obj_cons_append, chars] at h
          exact absurd (List.cons.inj h).2.symm (quoted_append_ne _ (by decide) _ _)
  | cons member members =>
      cases others with
      | nil =>
          rw [chars_obj_cons_append, chars] at h
          exact absurd (List.cons.inj h).2 (quoted_append_ne _ (by decide) _ _)
      | cons other others =>
          rw [chars_obj_cons_append, chars_obj_cons_append] at h
          have hmembers := congrArg (',' :: ·) (List.cons.inj h).2
          simp only [← memberChars_cons_append] at hmembers
          exact memberChars_cancel hcancel hplain hmembers

/-- Two values that start the same text, before anything but a digit, are the same. -/
theorem Plain.chars_cancel {value : Json} (h : value.Plain) : Cancels value := by
  induction h with
  | null =>
      intro other rest left hother _ _ htext
      have hkind := Plain.null.kind_eq hother htext
      cases hother with
      | null => exact ⟨rfl, List.append_cancel_left htext⟩
      | _ => cases hkind
  | bool b =>
      intro other rest left hother _ _ htext
      have hkind := (Plain.bool b).kind_eq hother htext
      cases hother with
      | bool b' =>
          obtain rfl := Kind.bool.inj hkind
          exact ⟨rfl, List.append_cancel_left htext⟩
      | _ => cases hkind
  | int n =>
      intro other rest left hother hrest hleft htext
      have hkind := (Plain.int n).kind_eq hother htext
      cases hother with
      | int n' =>
          rw [chars, chars] at htext
          obtain ⟨rfl, hends⟩ := intChars_cancel hrest hleft htext
          exact ⟨rfl, hends⟩
      | _ => cases hkind
  | str s =>
      intro other rest left hother _ _ htext
      have hkind := (Plain.str s).kind_eq hother htext
      cases hother with
      | str s' =>
          rw [chars, chars] at htext
          obtain ⟨rfl, hends⟩ := quoted_cancel htext
          exact ⟨rfl, hends⟩
      | _ => cases hkind
  | @arr items h ih =>
      intro other rest left hother _ _ htext
      have hkind := (Plain.arr h).kind_eq hother htext
      cases hother with
      | @arr others hplain =>
          obtain ⟨rfl, hends⟩ := arr_cancel ih h hplain htext
          exact ⟨rfl, hends⟩
      | _ => cases hkind
  | @obj members h ih =>
      intro other rest left hother _ _ htext
      have hkind := (Plain.obj h).kind_eq hother htext
      cases hother with
      | @obj others hplain =>
          obtain ⟨rfl, hends⟩ := obj_cancel ih hplain htext
          exact ⟨rfl, hends⟩
      | _ => cases hkind

theorem Plain.text_injective {value other : Json} (h : value.Plain) (hother : other.Plain)
    (htext : value.text = other.text) : value = other := by
  have hchars : value.chars ++ [] = other.chars ++ [] :=
    congrArg (· ++ []) (String.ofList_injective htext)
  exact (h.chars_cancel hother noDigit_nil noDigit_nil hchars).1

end FleetOperator.Json
