import Mathlib.Data.List.Forall2
import FleetOperator.Proofs.Json.Reading
import FleetOperator.Proofs.Json.Record

/-!
# One structure, written in many ways

A structure is read by the names of its fields. So the members may stand in
any order, and others may stand among them, in the structure itself and in
every structure inside it; but not among the entries of a map, where each name
counts. What is a structure and what a map cannot be told from the value: it
is said by a `Layout`, and `Layout.Loosens` relates a value of a layout to the
same value written in another way.

A reader is `Blind` to this if it asks only for the fields of the layout, and
is so of a structure when it is so of each field: of no field is there more
than one value, so under its name both have the same list (`SameKnown`).

The layout also bounds how deep a value goes (`held_of_fits`).
-/

namespace FleetOperator.Json

/-- How a value is put together. -/
inductive Layout where
  /-- A text, a truth value or a number. -/
  | scalar
  /-- A map of texts. -/
  | map
  | list (item : Layout)
  /-- A structure, by the names of its fields and the layouts of what stands in them. -/
  | record (fields : List (String × Layout))

/-- A text, a truth value, or a whole number that a double holds. -/
inductive IsScalar : Json → Prop
  | str (s : String) : IsScalar (.str s)
  | bool (b : Bool) : IsScalar (.bool b)
  | int {n : Int} (h : n.natAbs < exactBound) : IsScalar (.int n)

namespace Layout

mutual

/-- A value of a layout. In a structure there are no names but those of its fields, each at most
once. -/
def Fits : Layout → Json → Prop
  | .scalar, value => value.IsScalar
  | .map, value => ∃ m : SortedMap String String, value = ofStringMap m
  | .list item, value => ∃ items, value = .arr items ∧ ∀ value ∈ items, item.Fits value
  | .record fields, value =>
    ∃ members, value = .obj members ∧ (members.map (·.1)).Nodup ∧
      ∀ member ∈ members, FieldFits fields member.1 member.2

def FieldFits : List (String × Layout) → String → Json → Prop
  | [], _, _ => False
  | (name, layout) :: rest, key, value =>
    if key = name then layout.Fits value else FieldFits rest key value

end

mutual

/-- A value written in another way: the members of structures stand in another order, and among
them others under names that the structure does not know, whatever their values. -/
def Loosens : Layout → Json → Json → Prop
  | .scalar, value, other => other = value
  | .map, value, other => other = value
  | .list item, value, other =>
    ∃ items others, value = .arr items ∧ other = .arr others ∧
      List.Forall₂ item.Loosens items others
  | .record fields, value, other =>
    ∃ members known unknown others, value = .obj members ∧ other = .obj others ∧
      List.Forall₂ (fun member loosened => loosened.1 = member.1 ∧
        FieldLoosens fields member.1 member.2 loosened.2) members known ∧
      (∀ member ∈ unknown, member.1 ∉ fields.map (·.1)) ∧ others.Perm (known ++ unknown)

def FieldLoosens : List (String × Layout) → String → Json → Json → Prop
  | [], _, value, other => other = value
  | (name, layout) :: rest, key, value, other =>
    if key = name then layout.Loosens value other else FieldLoosens rest key value other

end

section

variable {fields : List (String × Layout)} {name : String} {layout : Layout} {value other : Json}

theorem head_or_rest {first : String} {firstLayout : Layout}
    (hnames : (((first, firstLayout) :: fields).map (·.1)).Nodup)
    (hfield : (name, layout) ∈ (first, firstLayout) :: fields) :
    (name = first ∧ layout = firstLayout) ∨
      (name ≠ first ∧ (fields.map (·.1)).Nodup ∧ (name, layout) ∈ fields) := by
  obtain ⟨hfirst, hrest⟩ := List.nodup_cons.1 hnames
  rcases List.mem_cons.1 hfield with heq | hmem
  · exact .inl (Prod.mk.inj heq)
  · refine .inr ⟨?_, hrest, hmem⟩
    rintro rfl
    exact hfirst (List.mem_map.2 ⟨_, hmem, rfl⟩)

theorem fieldFits_iff (hnames : (fields.map (·.1)).Nodup) (hfield : (name, layout) ∈ fields) :
    FieldFits fields name value ↔ layout.Fits value := by
  induction fields with
  | nil => cases hfield
  | cons field rest ih =>
      rw [FieldFits]
      rcases head_or_rest hnames hfield with ⟨rfl, rfl⟩ | ⟨hne, hrest, hmem⟩
      · rw [if_pos rfl]
      · rw [if_neg hne, ih hrest hmem]

theorem fieldLoosens_iff (hnames : (fields.map (·.1)).Nodup) (hfield : (name, layout) ∈ fields) :
    FieldLoosens fields name value other ↔ layout.Loosens value other := by
  induction fields with
  | nil => cases hfield
  | cons field rest ih =>
      rw [FieldLoosens]
      rcases head_or_rest hnames hfield with ⟨rfl, rfl⟩ | ⟨hne, hrest, hmem⟩
      · rw [if_pos rfl]
      · rw [if_neg hne, ih hrest hmem]

end

/-! ## Readers that do not mind -/

/-- A reader for which a value written in another way is the same. -/
structure Blind {α : Type} (layout : Layout) (decode : Json → Option α) : Prop where
  decode_eq : ∀ {value other : Json}, layout.Fits value → layout.Loosens value other →
    decode other = decode value

/-- The same under the names that a structure knows: of each no more than one value, in the second
structure perhaps written in another way. -/
def SameKnown (fields : List (String × Layout)) (found others : Fields) : Prop :=
  ∀ name layout, (name, layout) ∈ fields → (found.written name).length ≤ 1 ∧
    List.Forall₂ (fun value other => layout.Fits value ∧ layout.Loosens value other)
      (found.written name) (others.written name)

theorem ne_null_of_fits {layout : Layout} {value : Json} (h : layout.Fits value) :
    value ≠ .null := by
  rintro rfl
  cases layout with
  | scalar => rw [Fits] at h; cases h
  | map => rw [Fits] at h; obtain ⟨m, h⟩ := h; cases h
  | list item => rw [Fits] at h; obtain ⟨items, h, -⟩ := h; cases h
  | record fields => rw [Fits] at h; obtain ⟨members, h, -⟩ := h; cases h

theorem ne_null_of_loosens {layout : Layout} {value other : Json} (h : layout.Fits value)
    (hloosens : layout.Loosens value other) : other ≠ .null := by
  cases layout with
  | scalar => rw [Loosens] at hloosens; subst hloosens; exact ne_null_of_fits h
  | map => rw [Loosens] at hloosens; subst hloosens; exact ne_null_of_fits h
  | list item =>
      rw [Loosens] at hloosens
      obtain ⟨items, others, -, rfl, -⟩ := hloosens
      simp
  | record fields =>
      rw [Loosens] at hloosens
      obtain ⟨members, known, unknown, others, -, rfl, -⟩ := hloosens
      simp

namespace Blind

variable {α : Type} {decode : Json → Option α}

theorem scalar : Layout.scalar.Blind decode := by
  refine ⟨fun _ h => ?_⟩
  rw [Loosens] at h
  rw [h]

theorem map : Layout.map.Blind decode := by
  refine ⟨fun _ h => ?_⟩
  rw [Loosens] at h
  rw [h]

theorem nullable {layout : Layout} (h : layout.Blind decode) :
    layout.Blind (Json.nullable decode) := by
  refine ⟨fun hfits hloosens => ?_⟩
  have hvalue := ne_null_of_fits hfits
  have hother := ne_null_of_loosens hfits hloosens
  rw [Json.nullable, Json.nullable]
  · rw [h.decode_eq hfits hloosens]
  · exact hvalue
  · exact hother

theorem mapM {layout : Layout} (h : layout.Blind decode) {values others : List Json}
    (hvalues : List.Forall₂ (fun value other => layout.Fits value ∧ layout.Loosens value other)
      values others) : others.mapM decode = values.mapM decode := by
  induction hvalues with
  | nil => rfl
  | cons hfirst _ ih => rw [List.mapM_cons, List.mapM_cons, h.decode_eq hfirst.1 hfirst.2, ih]

theorem list {item : Layout} (h : item.Blind decode) :
    (Layout.list item).Blind (asListOf? decode) := by
  refine ⟨fun hfits hloosens => ?_⟩
  rw [Fits] at hfits
  rw [Loosens] at hloosens
  obtain ⟨items, rfl, hitems⟩ := hfits
  obtain ⟨_, others, heq, rfl, hothers⟩ := hloosens
  obtain rfl := Json.arr.inj heq
  exact h.mapM ((List.forall₂_and_left _ _).2 ⟨hitems, hothers⟩)

end Blind

namespace SameKnown

variable {α : Type} {decode : Json → Option α} {fields : List (String × Layout)}
  {found others : Fields} {name : String} {layout : Layout}

theorem last? (h : SameKnown fields found others) (hfield : (name, layout) ∈ fields)
    (hdecode : layout.Blind decode) : others.last? name decode = found.last? name decode := by
  rw [Fields.last?, Fields.last?, hdecode.mapM (h name layout hfield).2]

theorem required (h : SameKnown fields found others) (hdecode : layout.Blind decode)
    (hfield : (name, layout) ∈ fields) :
    others.required name decode = found.required name decode := by
  rw [Fields.required, Fields.required, h.last? hfield hdecode]

theorem defaulted (h : SameKnown fields found others) (hdecode : layout.Blind decode)
    (hfield : (name, layout) ∈ fields) (default : α) :
    others.defaulted name default decode = found.defaulted name default decode := by
  rw [Fields.defaulted, Fields.defaulted, h.last? hfield hdecode]

theorem optional (h : SameKnown fields found others) (hdecode : layout.Blind decode)
    (hfield : (name, layout) ∈ fields) :
    others.optional name decode = found.optional name decode := by
  rw [Fields.optional, Fields.optional, h.last? hfield hdecode.nullable]

end SameKnown

/-! ## Structures -/

theorem eq_of_perm_of_length_le {α : Type} {xs ys : List α} (h : ys.Perm xs)
    (hlength : xs.length ≤ 1) : ys = xs := by
  match xs, hlength with
  | [], _ => exact h.eq_nil
  | [x], _ => exact List.perm_singleton.1 h

/-- Under a name that a structure knows, the members of it written in another way have what the
members of it have, perhaps written in another way. -/
theorem forall₂_valuesOf {fields : List (String × Layout)} {members known : List (String × Json)}
    (hknown : List.Forall₂ (fun member loosened => loosened.1 = member.1 ∧
      FieldLoosens fields member.1 member.2 loosened.2) members known)
    (hfits : ∀ member ∈ members, FieldFits fields member.1 member.2)
    (hnames : (fields.map (·.1)).Nodup) {name : String} {layout : Layout}
    (hfield : (name, layout) ∈ fields) :
    List.Forall₂ (fun value other => layout.Fits value ∧ layout.Loosens value other)
      (valuesOf members name) (valuesOf known name) := by
  induction hknown with
  | nil => exact .nil
  | @cons member loosened _ _ hfirst _ ih =>
      obtain ⟨hkey, hloosens⟩ := hfirst
      obtain ⟨hmember, hrest⟩ := List.forall_mem_cons.1 hfits
      rw [valuesOf_cons, valuesOf_cons, hkey]
      split
      · next hname =>
          subst hname
          rw [fieldFits_iff hnames hfield] at hmember
          rw [fieldLoosens_iff hnames hfield] at hloosens
          exact .cons ⟨hmember, hloosens⟩ (ih hrest)
      · exact ih hrest

/-- A structure and the same written in another way have the same under the names it knows. -/
theorem sameKnown_of_loosens {fields : List (String × Layout)} {value other : Json}
    (hnames : (fields.map (·.1)).Nodup) (hfits : (record fields).Fits value)
    (hloosens : (record fields).Loosens value other) :
    ∃ members others, value = .obj members ∧ other = .obj others ∧
      SameKnown fields ⟨valuesOf members⟩ ⟨valuesOf others⟩ := by
  rw [Fits] at hfits
  rw [Loosens] at hloosens
  obtain ⟨members, rfl, hmembers, hfits⟩ := hfits
  obtain ⟨_, known, unknown, others, heq, rfl, hknown, hunknown, hperm⟩ := hloosens
  obtain rfl := Json.obj.inj heq
  refine ⟨members, others, rfl, rfl, fun name layout hfield => ?_⟩
  have hlength := length_valuesOf_le hmembers name
  have hsame := forall₂_valuesOf hknown hfits hnames hfield
  have hnone : valuesOf unknown name = [] := by
    refine valuesOf_eq_nil fun hmem => ?_
    obtain ⟨member, hmember, rfl⟩ := List.mem_map.1 hmem
    exact hunknown member hmember (List.mem_map_of_mem hfield)
  have hvalues : (valuesOf others name).Perm (valuesOf known name) := by
    rw [← List.append_nil (valuesOf known name), ← hnone, ← valuesOf_append]
    exact hperm.filterMap _
  -- No more than one value has the name, so the order of the members does not show in it.
  have hothers : valuesOf others name = valuesOf known name :=
    eq_of_perm_of_length_le hvalues (hsame.length_eq ▸ hlength)
  refine ⟨hlength, ?_⟩
  show List.Forall₂ _ (valuesOf members name) (valuesOf others name)
  rw [hothers]
  exact hsame

theorem Blind.repeatedRecord {α : Type} {fields : List (String × Layout)}
    {read : Fields → Option α} (hnames : (fields.map (·.1)).Nodup)
    (hread : ∀ found others, SameKnown fields found others → read others = read found) :
    (record fields).Blind fun value => value.repeatedFields? >>= read := by
  refine ⟨fun hfits hloosens => ?_⟩
  obtain ⟨members, others, rfl, rfl, hsame⟩ := sameKnown_of_loosens hnames hfits hloosens
  exact hread _ _ hsame

theorem Blind.record {α : Type} {fields : List (String × Layout)} {names : List String}
    {read : Fields → Option α} (hknown : fields.map (·.1) = names) (hnames : names.Nodup)
    (hread : ∀ found others, SameKnown fields found others → read others = read found) :
    (record fields).Blind fun value => value.fields? names >>= read := by
  subst hknown
  refine ⟨fun hfits hloosens => ?_⟩
  obtain ⟨members, others, rfl, rfl, hsame⟩ := sameKnown_of_loosens hnames hfits hloosens
  -- The reader refuses a structure in which a name that it knows comes twice; neither is one.
  have honce : ∀ name ∈ fields.map (·.1),
      (valuesOf members name).length ≤ 1 ∧ (valuesOf others name).length ≤ 1 := by
    intro name hmem
    obtain ⟨field, hfield, rfl⟩ := List.mem_map.1 hmem
    obtain ⟨hlength, hvalues⟩ := hsame field.1 field.2 hfield
    exact ⟨hlength, hvalues.length_eq ▸ hlength⟩
  show (Json.obj others).fieldsByName? _ >>= read = (Json.obj members).fieldsByName? _ >>= read
  rw [fieldsByName?_obj fun name hname => (honce name hname).1,
    fieldsByName?_obj fun name hname => (honce name hname).2]
  exact hread _ _ hsame

/-! ## Writers -/

/-- A field of which nothing is written, or a value of a layout. -/
def FitsField (layout : Layout) (written : Option Json) : Prop :=
  ∀ value, written = some value → layout.Fits value

section

variable {α : Type} {encode : α → Json} {layout : Layout}

@[simp]
theorem fits_str (s : String) : scalar.Fits (.str s) := by
  rw [Fits]
  exact .str s

@[simp]
theorem fits_bool (b : Bool) : scalar.Fits (.bool b) := by
  rw [Fits]
  exact .bool b

@[simp]
theorem fits_int32 (n : Int32) : scalar.Fits (.int n.toInt) := by
  have hmin : -2147483648 ≤ n.toInt := n.le_toInt
  have hmax : n.toInt ≤ 2147483647 := n.toInt_le
  rw [Fits]
  refine .int ?_
  rw [exactBound_eq]
  omega

@[simp]
theorem fits_uint16 (n : UInt16) : scalar.Fits (.int n.toNat) := by
  have hmax : n.toNat < 65536 := n.toNat_lt_size
  rw [Fits]
  refine .int ?_
  rw [exactBound_eq]
  omega

@[simp]
theorem fits_ofStringMap (m : SortedMap String String) : map.Fits (ofStringMap m) := by
  rw [Fits]
  exact ⟨m, rfl⟩

@[simp]
theorem fits_items (h : ∀ value, layout.Fits (encode value)) (items : List α) :
    (list layout).Fits (.arr (items.map encode)) := by
  rw [Fits]
  refine ⟨_, rfl, fun item hitem => ?_⟩
  obtain ⟨value, -, rfl⟩ := List.mem_map.1 hitem
  exact h value

@[simp]
theorem fitsField_some (value : Json) : layout.FitsField (some value) ↔ layout.Fits value := by
  constructor
  · intro h
    exact h value rfl
  · intro h written hwritten
    exact Option.some.inj hwritten ▸ h

@[simp]
theorem fitsField_map (h : ∀ value, layout.Fits (encode value)) (value? : Option α) :
    layout.FitsField (value?.map encode) := by
  intro written hwritten
  obtain ⟨value, -, rfl⟩ := Option.map_eq_some_iff.1 hwritten
  exact h value

theorem fitsField_unless {c : Prop} [Decidable c] {value : Json} (h : layout.Fits value) :
    layout.FitsField (if c then none else some value) := by
  intro written hwritten
  split at hwritten
  · cases hwritten
  · exact Option.some.inj hwritten ▸ h

@[simp]
theorem fitsField_unlessEmpty (s : String) : scalar.FitsField (unlessEmpty s) :=
  fitsField_unless (fits_str s)

@[simp]
theorem fitsField_listUnlessEmpty (h : ∀ value, layout.Fits (encode value)) (items : List α) :
    (list layout).FitsField (listUnlessEmpty encode items) :=
  fitsField_unless (fits_items h items)

@[simp]
theorem fitsField_mapUnlessEmpty (m : SortedMap String String) :
    map.FitsField (mapUnlessEmpty m) :=
  fitsField_unless (fits_ofStringMap m)

end

/-- Fields under the names of a structure, each with a value of its layout or with none. -/
def FitFields : List (String × Layout) → List (String × Option Json) → Prop :=
  List.Forall₂ fun field written => written.1 = field.1 ∧ field.2.FitsField written.2

theorem FitFields.map_eq {fields : List (String × Layout)} {written : List (String × Option Json)}
    (h : FitFields fields written) : written.map (·.1) = fields.map (·.1) := by
  induction h with
  | nil => rfl
  | cons hfield _ ih => rw [List.map_cons, List.map_cons, hfield.1, ih]

theorem FitFields.exists_field {fields : List (String × Layout)}
    {written : List (String × Option Json)} (h : FitFields fields written)
    {key : String} {value? : Option Json} (hmem : (key, value?) ∈ written) :
    ∃ layout, (key, layout) ∈ fields ∧ layout.FitsField value? := by
  induction h with
  | nil => cases hmem
  | @cons field _ _ _ hfirst _ ih =>
      rcases List.mem_cons.1 hmem with rfl | hmem
      · obtain ⟨hkey, hfits⟩ := hfirst
        obtain rfl : key = field.1 := hkey
        exact ⟨field.2, List.mem_cons_self, hfits⟩
      · obtain ⟨layout, hlayout, hfits⟩ := ih hmem
        exact ⟨layout, List.mem_cons_of_mem _ hlayout, hfits⟩

theorem keys_sublist (written : List (String × Option Json)) :
    ((written.filterMap fun (name, value) => value.map (name, ·)).map (·.1)).Sublist
      (written.map (·.1)) := by
  induction written with
  | nil => exact .slnil
  | cons field rest ih =>
      obtain ⟨name, value?⟩ := field
      cases value? with
      | none => exact ih.cons name
      | some value => exact ih.cons_cons name

theorem fits_ofFields {fields : List (String × Layout)} {written : List (String × Option Json)}
    (hnames : (fields.map (·.1)).Nodup) (h : FitFields fields written) :
    (record fields).Fits (ofFields written) := by
  rw [Fits]
  refine ⟨_, rfl, (keys_sublist written).nodup (h.map_eq ▸ hnames), fun member hmember => ?_⟩
  obtain ⟨⟨name, value?⟩, hfield, hvalue⟩ := List.mem_filterMap.1 hmember
  obtain ⟨value, rfl, rfl⟩ := Option.map_eq_some_iff.1 hvalue
  obtain ⟨layout, hlayout, hfits⟩ := h.exists_field hfield
  rw [fieldFits_iff hnames hlayout]
  exact hfits value rfl

/-- A writer of values of a layout, and a reader that does not mind how they are written. -/
structure Serves {α : Type} (layout : Layout) (encode : α → Json) (decode : Json → Option α) :
    Prop where
  fits : ∀ value, layout.Fits (encode value)
  blind : layout.Blind decode

theorem Serves.ofFields {α : Type} {fields : List (String × Layout)} {names : List String}
    {write : α → List (String × Option Json)} {read : Fields → Option α}
    (hknown : fields.map (·.1) = names) (hnames : names.Nodup)
    (hfits : ∀ value, FitFields fields (write value))
    (hread : ∀ found others, SameKnown fields found others → read others = read found) :
    Serves (record fields) (fun value => Json.ofFields (write value))
      fun value => value.fields? names >>= read :=
  ⟨fun value => fits_ofFields (hknown ▸ hnames) (hfits value), .record hknown hnames hread⟩

theorem Serves.ofRepeatedFields {α : Type} {fields : List (String × Layout)}
    {write : α → List (String × Option Json)} {read : Fields → Option α}
    (hnames : (fields.map (·.1)).Nodup) (hfits : ∀ value, FitFields fields (write value))
    (hread : ∀ found others, SameKnown fields found others → read others = read found) :
    Serves (record fields) (fun value => Json.ofFields (write value))
      fun value => value.repeatedFields? >>= read :=
  ⟨fun value => fits_ofFields hnames (hfits value), .repeatedRecord hnames hread⟩

/-! ## Depth -/

mutual

/-- How many arrays and objects there can be inside each other. -/
def height : Layout → Nat
  | .scalar => 0
  | .map => 1
  | .list item => item.height + 1
  | .record fields => fieldsHeight fields + 1

def fieldsHeight : List (String × Layout) → Nat
  | [] => 0
  | (_, layout) :: rest => max layout.height (fieldsHeight rest)

end

theorem held_mono {depth deeper : Nat} {value : Json} (h : Held depth value)
    (hle : depth ≤ deeper) : Held deeper value := by
  induction h generalizing deeper with
  | null => exact .null
  | bool b => exact .bool b
  | int hn => exact .int hn
  | str s => exact .str s
  | arr _ ih =>
      obtain ⟨deeper, rfl⟩ := Nat.exists_eq_add_one_of_ne_zero (Nat.ne_zero_of_lt hle)
      exact .arr fun item hitem => ih item hitem (Nat.le_of_succ_le_succ hle)
  | obj hkeys _ ih =>
      obtain ⟨deeper, rfl⟩ := Nat.exists_eq_add_one_of_ne_zero (Nat.ne_zero_of_lt hle)
      exact .obj hkeys fun member hmember => ih member hmember (Nat.le_of_succ_le_succ hle)

theorem held_ofStringMap (m : SortedMap String String) : Held 1 (ofStringMap m) := by
  have hkeys : (m.toList.map (·.1)).Nodup := by
    refine List.pairwise_map.2 (m.ordered.imp fun {entry other} hlt heq => ?_)
    have hself : compare other.1 other.1 = .eq := Std.ReflCmp.compare_self
    rw [heq, hself] at hlt
    cases hlt
  refine .obj ?_ fun member hmember => ?_
  · rw [List.map_map]
    exact hkeys
  · obtain ⟨entry, -, rfl⟩ := List.mem_map.1 hmember
    exact .str _

mutual

theorem held_of_fits : ∀ {layout : Layout} {value : Json}, layout.Fits value →
    Held layout.height value
  | .scalar, value, h => by
      rw [Fits] at h
      cases h with
      | str s => exact .str s
      | bool b => exact .bool b
      | int hn => exact .int hn
  | .map, value, h => by
      rw [Fits] at h
      obtain ⟨m, rfl⟩ := h
      rw [height]
      exact held_ofStringMap m
  | .list item, value, h => by
      rw [Fits] at h
      obtain ⟨items, rfl, hitems⟩ := h
      rw [height]
      exact .arr fun value hvalue => held_of_fits (hitems value hvalue)
  | .record fields, value, h => by
      rw [Fits] at h
      obtain ⟨members, rfl, hnames, hmembers⟩ := h
      rw [height]
      exact .obj hnames fun member hmember => held_of_fieldFits (hmembers member hmember)

theorem held_of_fieldFits : ∀ {fields : List (String × Layout)} {key : String} {value : Json},
    FieldFits fields key value → Held (fieldsHeight fields) value
  | [], key, value, h => by
      rw [FieldFits] at h
      exact h.elim
  | (name, layout) :: rest, key, value, h => by
      rw [FieldFits] at h
      rw [fieldsHeight]
      split at h
      · exact held_mono (held_of_fits h) (Nat.le_max_left _ _)
      · exact held_mono (held_of_fieldFits h) (Nat.le_max_right _ _)

end

end Layout

/-! ## Round trips -/

section

variable {α : Type} {encode : α → Json} {decode : Json → Option α}

/-- The canonical form of a document: what it is read as, written again. -/
def canonicalForm? (encode : α → Json) (decode : Json → Option α) (document : Json) :
    Option Json :=
  (decode document).map encode

/-- A writer and a reader between which nothing is lost, neither as values nor as texts. -/
structure RoundTrips (encode : α → Json) (decode : Json → Option α) : Prop where
  decode_encode : ∀ value, decode (encode value) = some value
  decode_text : ∀ value, (parse? (encode value).text).bind decode = some value
  /-- A document that is read has a canonical form, which is its own canonical form. -/
  canonical_fixed : ∀ document canonical, canonicalForm? encode decode document = some canonical →
    canonicalForm? encode decode canonical = some canonical
  /-- Documents whose canonical forms have one text are read as the same. -/
  canonical_unique : ∀ document other value value', decode document = some value →
    decode other = some value' → (encode value).text = (encode value').text → value = value'

theorem Codec.roundTrips {layout : Layout} (h : Codec encode decode)
    (hfits : ∀ value, layout.Fits (encode value)) (hheight : layout.height ≤ maxDepth) :
    RoundTrips encode decode := by
  refine ⟨h.decode_encode, fun value => ?_, fun document canonical hcanonical => ?_,
    fun _ _ _ _ _ _ => h.text_injective⟩
  · have hheld := Layout.held_mono (Layout.held_of_fits (hfits value)) hheight
    rw [hheld.parse?_text, Option.bind_some, h.decode_encode]
  · obtain ⟨value, -, rfl⟩ := Option.map_eq_some_iff.1 hcanonical
    rw [canonicalForm?, h.decode_encode, Option.map_some]

end

end FleetOperator.Json
