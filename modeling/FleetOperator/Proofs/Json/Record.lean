import FleetOperator.Json.Record
import FleetOperator.Proofs.Json.Text
import FleetOperator.Proofs.SortedMap

/-!
# Structures read back from their written form

A `Codec` is a writer with a reader that takes back what it writes. There is
one for texts, truth values and numbers, for lists of what has one, and for
maps of texts. A structure is written field by field under names that
differ, so its reader finds under each name what was written there, or
nothing (`fields?_ofFields`); what the reader then makes of it is the concern
of the field alone (`FieldCodec`).

Values with a codec have compact texts of their own (`Codec.text_injective`),
which is what a hash of the text is to be taken for.
-/

namespace FleetOperator

namespace Json

variable {α : Type} {encode : α → Json} {decode : Json → Option α}

/-- A writer of values that are not null and have a text of their own, and its reader. -/
structure Codec (encode : α → Json) (decode : Json → Option α) : Prop where
  decode_encode : ∀ value, decode (encode value) = some value
  ne_null : ∀ value, encode value ≠ .null
  plain : ∀ value, (encode value).Plain

namespace Codec

theorem injective (h : Codec encode decode) {value other : α} (heq : encode value = encode other) :
    value = other := by
  have hdecode := congrArg decode heq
  rw [h.decode_encode, h.decode_encode] at hdecode
  exact Option.some.inj hdecode

theorem text_injective (h : Codec encode decode) {value other : α}
    (htext : (encode value).text = (encode other).text) : value = other :=
  h.injective ((h.plain value).text_injective (h.plain other) htext)

theorem str : Codec Json.str asString? :=
  ⟨fun _ => rfl, fun _ => by simp, .str⟩

theorem bool : Codec Json.bool asBool? :=
  ⟨fun _ => rfl, fun _ => by simp, .bool⟩

theorem int32 : Codec (fun n : Int32 => .int n.toInt) asInt32? := by
  refine ⟨fun n => ?_, fun _ => by simp, fun _ => .int _⟩
  have hmin : -2147483648 ≤ n.toInt := n.le_toInt
  have hmax : n.toInt ≤ 2147483647 := n.toInt_le
  rw [asInt32?, asInt?, Option.bind_some, if_pos ⟨hmin, hmax⟩, Int32.ofInt_toInt]

theorem uint16 : Codec (fun n : UInt16 => .int n.toNat) asUInt16? := by
  refine ⟨fun n => ?_, fun _ => by simp, fun _ => .int _⟩
  have hmax := n.toNat_lt_size
  rw [asUInt16?, asInt?, Option.bind_some, if_pos ⟨by omega, by omega⟩, Int.toNat_natCast,
    UInt16.ofNat_toNat]

theorem mapM_map_encode {β γ : Type} {write : β → γ} {read : γ → Option β}
    (h : ∀ value, read (write value) = some value) (items : List β) :
    (items.map write).mapM read = some items := by
  induction items with
  | nil => rfl
  | cons item rest ih =>
      rw [List.map_cons, List.mapM_cons, h, ih]
      rfl

theorem list (h : Codec encode decode) :
    Codec (fun items => .arr (items.map encode)) (asListOf? decode) := by
  refine ⟨mapM_map_encode h.decode_encode, fun _ => by simp, fun items => .arr fun item hitem => ?_⟩
  obtain ⟨value, -, rfl⟩ := List.mem_map.1 hitem
  exact h.plain value

theorem stringMap : Codec ofStringMap asStringMap? := by
  refine ⟨fun m => ?_, fun _ => by simp [ofStringMap], fun m => .obj fun member hmember => ?_⟩
  · rw [asStringMap?, ofStringMap, asMembers?, Option.bind_eq_bind, Option.bind_some,
      mapM_map_encode]
    · exact congrArg some (SortedMap.ofList_toList m)
    · exact fun _ => rfl
  · obtain ⟨entry, -, rfl⟩ := List.mem_map.1 hmember
    exact .str _

end Codec

/-! ## Fields -/

/-- What a reader makes of a field that has to be there. -/
def readRequired (decode : Json → Option α) (written : Option Json) : Option α :=
  written.bind decode

/-- What a reader makes of a field that takes a value of its own when it is absent. -/
def readDefaulted (default : α) (decode : Json → Option α) : Option Json → Option α
  | none => some default
  | some written => decode written

/-- What a reader makes of a field that may be absent. -/
def readOptional (decode : Json → Option α) : Option Json → Option (Option α) :=
  readDefaulted none (nullable decode)

/-- The fields of a structure in which no name is written twice. -/
def Fields.single (written : String → Option Json) : Fields := ⟨fun name => (written name).toList⟩

namespace Fields

variable (written : String → Option Json) (name : String)

theorem last?_single (decode : Json → Option α) :
    (single written).last? name decode =
      match written name with
      | none => some none
      | some value => (decode value).map some := by
  show ((written name).toList.mapM decode).map List.getLast? = _
  cases written name with
  | none => rfl
  | some value =>
      simp only [Option.toList, List.mapM_cons, List.mapM_nil]
      cases decode value <;> rfl

@[simp]
theorem required_single (decode : Json → Option α) :
    (single written).required name decode = readRequired decode (written name) := by
  rw [required, last?_single]
  cases written name with
  | none => rfl
  | some value =>
      simp only [readRequired, Option.bind_some]
      cases decode value <;> rfl

@[simp]
theorem defaulted_single (default : α) (decode : Json → Option α) :
    (single written).defaulted name default decode =
      readDefaulted default decode (written name) := by
  rw [defaulted, last?_single]
  cases written name with
  | none => rfl
  | some value =>
      simp only [readDefaulted]
      cases decode value <;> rfl

@[simp]
theorem optional_single (decode : Json → Option α) :
    (single written).optional name decode = readOptional decode (written name) := by
  rw [optional, last?_single]
  cases written name with
  | none => rfl
  | some value =>
      simp only [readOptional, readDefaulted]
      cases nullable decode value <;> rfl

end Fields

/-- What is written under a name among the fields of a structure. -/
def writtenIn (fields : List (String × Option Json)) (name : String) : Option Json :=
  (fields.lookup name).join

@[simp]
theorem writtenIn_nil (name : String) : writtenIn [] name = none := rfl

@[simp]
theorem writtenIn_cons (name key : String) (value : Option Json)
    (fields : List (String × Option Json)) :
    writtenIn ((key, value) :: fields) name =
      if name = key then value else writtenIn fields name := by
  rw [writtenIn, List.lookup_cons]
  by_cases h : name = key
  · rw [if_pos h, beq_iff_eq.2 h]
    rfl
  · rw [if_neg h, beq_eq_false_iff_ne.2 h]
    rfl

theorem writtenIn_eq_none {fields : List (String × Option Json)} {name : String}
    (h : name ∉ fields.map (·.1)) : writtenIn fields name = none := by
  induction fields with
  | nil => rfl
  | cons field rest ih =>
      rw [List.map_cons, List.mem_cons, not_or] at h
      rw [writtenIn_cons, if_neg h.1, ih h.2]

theorem valuesOf_eq_nil {members : List (String × Json)} {name : String}
    (h : name ∉ members.map (·.1)) : valuesOf members name = [] := by
  refine List.filterMap_eq_nil_iff.2 fun member hmember => if_neg ?_
  rintro rfl
  exact h (List.mem_map_of_mem hmember)

theorem valuesOf_append (members others : List (String × Json)) (name : String) :
    valuesOf (members ++ others) name = valuesOf members name ++ valuesOf others name :=
  List.filterMap_append

theorem valuesOf_cons (member : String × Json) (members : List (String × Json)) (name : String) :
    valuesOf (member :: members) name =
      if member.1 = name then member.2 :: valuesOf members name else valuesOf members name := by
  rw [valuesOf, List.filterMap_cons]
  split <;> simp_all [valuesOf]

/-- Where no name comes twice, there is no more than one value under a name. -/
theorem length_valuesOf_le {members : List (String × Json)} (hnames : (members.map (·.1)).Nodup)
    (name : String) : (valuesOf members name).length ≤ 1 := by
  induction members with
  | nil => exact Nat.zero_le 1
  | cons member rest ih =>
      obtain ⟨hkey, hrest⟩ := List.nodup_cons.1 hnames
      rw [valuesOf_cons]
      split
      · next hname =>
          rw [valuesOf_eq_nil (hname ▸ hkey)]
          exact Nat.le_refl 1
      · exact ih hrest

/-- Under the names of a structure a reader finds what was written there. -/
theorem valuesOf_fields {fields : List (String × Option Json)} (hnames : (fields.map (·.1)).Nodup)
    (name : String) :
    valuesOf (fields.filterMap fun (name, value) => value.map (name, ·)) name =
      (writtenIn fields name).toList := by
  induction fields with
  | nil => rfl
  | cons field rest ih =>
      obtain ⟨key, value⟩ := field
      obtain ⟨hkey, hrest⟩ := List.nodup_cons.1 hnames
      have hrest := ih hrest
      rw [writtenIn_cons]
      by_cases hname : name = key
      · subst hname
        rw [writtenIn_eq_none hkey] at hrest
        cases value with
        | none => simpa using hrest
        | some written => simpa [valuesOf] using hrest
      · rw [if_neg hname, ← hrest]
        cases value with
        | none => rfl
        | some written => simp [valuesOf, Ne.symm hname]

theorem repeatedFields?_ofFields {fields : List (String × Option Json)}
    (hnames : (fields.map (·.1)).Nodup) :
    (ofFields fields).repeatedFields? = some (.single (writtenIn fields)) :=
  congrArg (fun written => some (Fields.mk written)) (funext (valuesOf_fields hnames))

theorem fieldsByName?_obj {members : List (String × Json)} {names : List String}
    (h : ∀ name ∈ names, (valuesOf members name).length ≤ 1) :
    (Json.obj members).fieldsByName? names = some ⟨valuesOf members⟩ := by
  have honce : (names.all fun name => (valuesOf members name).length ≤ 1) = true := by
    rw [List.all_eq_true]
    intro name hname
    exact decide_eq_true (h name hname)
  rw [fieldsByName?, repeatedFields?, Option.filter_some, if_pos honce]

theorem fieldsByName?_ofFields {fields : List (String × Option Json)} {names : List String}
    (hnames : (fields.map (·.1)).Nodup) :
    (ofFields fields).fieldsByName? names = some (.single (writtenIn fields)) := by
  have hvalues := valuesOf_fields hnames
  rw [ofFields, fieldsByName?_obj]
  · exact congrArg (fun written => some (Fields.mk written)) (funext hvalues)
  · intro name _
    rw [hvalues]
    cases writtenIn fields name <;> simp

theorem fields?_ofFields {fields : List (String × Option Json)} {names : List String}
    (hnames : (fields.map (·.1)).Nodup) :
    (ofFields fields).fields? names = some (.single (writtenIn fields)) :=
  fieldsByName?_ofFields hnames

theorem guard_of_pos {c : Prop} [Decidable c] (h : c) : (guard c : Option Unit) = some () :=
  if_pos h

/-- A field of which nothing is written, or a value with a text of its own. -/
def PlainField (written : Option Json) : Prop := ∀ value, written = some value → value.Plain

/-- A field, by what is written of it, if anything, and what is read from that. -/
structure FieldCodec (write : α → Option Json) (read : Option Json → Option α) : Prop where
  read_write : ∀ value, read (write value) = some value
  plain : ∀ value, PlainField (write value)

namespace Codec

variable (h : Codec encode decode)

include h

theorem required : FieldCodec (fun value => some (encode value)) (readRequired decode) := by
  refine ⟨h.decode_encode, fun value written hwritten => ?_⟩
  obtain rfl := Option.some.inj hwritten
  exact h.plain value

theorem defaulted (default : α) :
    FieldCodec (fun value => some (encode value)) (readDefaulted default decode) := by
  refine ⟨h.decode_encode, fun value written hwritten => ?_⟩
  obtain rfl := Option.some.inj hwritten
  exact h.plain value

theorem readOptional_encode (value : α) :
    readOptional decode (some (encode value)) = some (some value) := by
  show nullable decode (encode value) = some (some value)
  rw [nullable]
  · rw [h.decode_encode]
    rfl
  · exact h.ne_null value

theorem optional : FieldCodec (Option.map encode) (readOptional decode) := by
  refine ⟨fun value? => ?_, fun value? written hwritten => ?_⟩
  · cases value? with
    | none => rfl
    | some value => exact h.readOptional_encode value
  · obtain ⟨value, -, rfl⟩ := Option.map_eq_some_iff.1 hwritten
    exact h.plain value

theorem listUnlessEmpty :
    FieldCodec (listUnlessEmpty encode) (readDefaulted [] (asListOf? decode)) := by
  refine ⟨fun items => ?_, fun items written hwritten => ?_⟩
  · cases items with
    | nil => rfl
    | cons item items => exact h.list.decode_encode (item :: items)
  · rw [Json.listUnlessEmpty] at hwritten
    split at hwritten
    · cases hwritten
    · obtain rfl := Option.some.inj hwritten
      exact h.list.plain items

end Codec

theorem FieldCodec.mapUnlessEmpty :
    FieldCodec mapUnlessEmpty (readDefaulted ∅ asStringMap?) := by
  refine ⟨fun m => ?_, fun m written hwritten => ?_⟩
  · rw [Json.mapUnlessEmpty]
    split
    · next hempty =>
        have hentries : m.entries = [] := List.isEmpty_iff.1 hempty
        exact congrArg some (SortedMap.ext hentries.symm)
    · exact Codec.stringMap.decode_encode m
  · rw [Json.mapUnlessEmpty] at hwritten
    split at hwritten
    · cases hwritten
    · obtain rfl := Option.some.inj hwritten
      exact Codec.stringMap.plain m

theorem FieldCodec.unlessEmpty :
    FieldCodec unlessEmpty (readDefaulted "" asString?) := by
  refine ⟨fun s => ?_, fun s written hwritten => ?_⟩
  · rw [Json.unlessEmpty]
    split
    · next hempty => exact congrArg some (String.isEmpty_iff.1 hempty).symm
    · rfl
  · rw [Json.unlessEmpty] at hwritten
    split at hwritten
    · cases hwritten
    · obtain rfl := Option.some.inj hwritten
      exact .str s

section

variable (s : String) (s? : Option String) (words : List String)
  (b? : Option Bool) (n : UInt16) (n? : Option Int32) (m : SortedMap String String)

@[simp]
theorem readRequired_str : readRequired asString? (some (.str s)) = some s :=
  Codec.str.required.read_write s

@[simp]
theorem readOptional_str : readOptional asString? (s?.map .str) = some s? :=
  Codec.str.optional.read_write s?

@[simp]
theorem readOptional_bool : readOptional asBool? (b?.map .bool) = some b? :=
  Codec.bool.optional.read_write b?

@[simp]
theorem readOptional_int32 :
    readOptional asInt32? (n?.map fun n => .int n.toInt) = some n? :=
  Codec.int32.optional.read_write n?

@[simp]
theorem readRequired_uint16 : readRequired asUInt16? (some (.int n.toNat)) = some n :=
  Codec.uint16.required.read_write n

@[simp]
theorem readDefaulted_words :
    readDefaulted [] (asListOf? asString?) (listUnlessEmpty .str words) = some words :=
  Codec.str.listUnlessEmpty.read_write words

@[simp]
theorem readDefaulted_map : readDefaulted ∅ asStringMap? (mapUnlessEmpty m) = some m :=
  FieldCodec.mapUnlessEmpty.read_write m

@[simp]
theorem readDefaulted_unlessEmpty : readDefaulted "" asString? (unlessEmpty s) = some s :=
  FieldCodec.unlessEmpty.read_write s

@[simp]
theorem plainField_str : PlainField (some (.str s)) := Codec.str.required.plain s

@[simp]
theorem plainField_str_of_some : PlainField (s?.map .str) := Codec.str.optional.plain s?

@[simp]
theorem plainField_bool : PlainField (b?.map .bool) := Codec.bool.optional.plain b?

@[simp]
theorem plainField_int32 : PlainField (n?.map fun n => .int n.toInt) :=
  Codec.int32.optional.plain n?

@[simp]
theorem plainField_uint16 : PlainField (some (.int n.toNat)) := Codec.uint16.required.plain n

@[simp]
theorem plainField_words : PlainField (listUnlessEmpty .str words) :=
  Codec.str.listUnlessEmpty.plain words

@[simp]
theorem plainField_unlessEmpty : PlainField (unlessEmpty s) := FieldCodec.unlessEmpty.plain s

@[simp]
theorem plainField_map : PlainField (mapUnlessEmpty m) := FieldCodec.mapUnlessEmpty.plain m

end

/-! ## Structures -/

/-- What a structure is written as has a text of its own if all its fields do. -/
theorem plain_ofFields {fields : List (String × Option Json)}
    (h : ∀ field ∈ fields, PlainField field.2) : (ofFields fields).Plain := by
  refine .obj fun member hmember => ?_
  obtain ⟨field, hfield, hwritten⟩ := List.mem_filterMap.1 hmember
  obtain ⟨written, hvalue, rfl⟩ := Option.map_eq_some_iff.1 hwritten
  exact h field hfield written hvalue

/-- A structure that is read back from its fields has a codec if all the fields have. -/
theorem Codec.ofFields {fields : α → List (String × Option Json)}
    (hread : ∀ value, decode (ofFields (fields value)) = some value)
    (hplain : ∀ value, ∀ field ∈ fields value, PlainField field.2) :
    Codec (fun value => Json.ofFields (fields value)) decode :=
  ⟨hread, fun _ => by simp [Json.ofFields], fun value => plain_ofFields (hplain value)⟩

end Json

end FleetOperator
