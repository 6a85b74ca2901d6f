import FleetOperator.Disk.Path

/-!
# What a joined path names

Joining works on texts, walking on names. The two meet here: the names that
lead to a joined path are those that lead to its left side and then those
that lead to its right side, as long as the right side does not start over
at the root. The slash in between may be there already, or be missing
because the left side is empty; neither changes a name, because a segment
of no characters stands for nothing.

The same goes for components (`components_join`), but for a dot in front,
which counts at the start of a path and nowhere else.

A name that an entry can have is one segment and stands for itself, so
joining it adds that one name. A tenant need not be such a text (`t/` and
`t/.` are accepted too), but it adds exactly one name as well: a tenant is
accepted exactly if all it says is in its first segment
(`isPlainName_iff`).
-/

namespace FleetOperator.Path

/-- A text that can be the name of an entry of a directory. -/
structure IsEntryName (name : String) : Prop where
  no_slash : '/' ∉ name.toList
  not_empty : name ≠ ""
  not_dot : name ≠ "."
  not_dotDot : name ≠ ".."

instance (name : String) : Decidable (IsEntryName name) :=
  decidable_of_iff ('/' ∉ name.toList ∧ name ≠ "" ∧ name ≠ "." ∧ name ≠ "..")
    ⟨fun ⟨h₁, h₂, h₃, h₄⟩ => ⟨h₁, h₂, h₃, h₄⟩, fun ⟨h₁, h₂, h₃, h₄⟩ => ⟨h₁, h₂, h₃, h₄⟩⟩

/-- Whether a path starts over at the root. -/
def IsAbsolute (path : String) : Prop := ['/'] <+: path.toList

/-- What joining does to the texts: the slash in between is not needed, is there, or is put in. -/
theorem join_eq (left : String) {right : String} (h : ¬ IsAbsolute right) :
    left = "" ∧ join left right = right ∨
      (∃ front, left = front ++ "/" ∧ join left right = front ++ "/" ++ right) ∨
      left ≠ "" ∧ join left right = left ++ "/" ++ right := by
  have hright : ¬ right.startsWith "/" = true := by
    rw [String.startsWith_string_iff]
    exact h
  rw [join, if_neg hright]
  split
  · next hleft =>
      rcases hleft with hempty | hslash
      · rw [String.isEmpty_iff.1 hempty]
        exact .inl ⟨rfl, String.empty_append⟩
      · obtain ⟨front, hfront⟩ := String.Slice.endsWith_string_iff.1 hslash
        rw [String.copy_toSlice] at hfront
        have hleft : left = String.ofList front ++ "/" := by
          rw [← String.toList_inj, ← hfront]
          simp
        exact .inr (.inl ⟨String.ofList front, hleft, by rw [← hleft]⟩)
  · next hleft => exact .inr (.inr ⟨fun hempty => hleft (.inl (by simp [hempty])), rfl⟩)

/-! ## Segments -/

theorem segments_append_slash (left right : String) :
    segments (left ++ "/" ++ right) = segments left ++ segments right := by
  have hlist : (left ++ "/" ++ right).toList = left.toList ++ '/' :: right.toList := by
    simp
  rw [segments, segments, segments, hlist, List.splitOn_append_cons_self, List.map_append]

theorem segments_of_no_slash {name : String} (h : '/' ∉ name.toList) :
    segments name = [name] := by
  rw [segments, List.splitOn_eq_singleton h]
  simp

@[simp]
theorem segments_empty : segments "" = [""] := segments_of_no_slash (by decide)

theorem segments_ne_nil (path : String) : segments path ≠ [] := by
  simp [segments]

theorem segments_of_isAbsolute {path : String} (h : IsAbsolute path) :
    ∃ rest, rest ≠ [] ∧ segments path = "" :: rest := by
  obtain ⟨rest, hrest⟩ := h
  have hpath : path = "" ++ "/" ++ String.ofList rest := by
    rw [← String.toList_inj, ← hrest]
    simp
  refine ⟨segments (String.ofList rest), segments_ne_nil _, ?_⟩
  rw [hpath, segments_append_slash, segments_empty]
  rfl

/-! ## Names -/

/-- The name that a component adds to a walk. -/
def Component.name? : Component → Option String
  | .normal name => some name
  | _ => none

/-- Marks of the root and of the place where a walk starts are not walked. -/
theorem filter_walked (segments : List String) :
    (segments.filterMap ofSegment?).filter (fun c => c ≠ .root ∧ c ≠ .current) =
      segments.filterMap ofSegment? := by
  refine List.filter_eq_self.2 fun component hmem => ?_
  obtain ⟨segment, -, hsegment⟩ := List.mem_filterMap.1 hmem
  unfold ofSegment? at hsegment
  split at hsegment
  · cases hsegment
  · split at hsegment <;> cases hsegment <;> simp

theorem names?_eq (path : String) :
    names? path = ((segments path).filterMap ofSegment?).mapM Component.name? := by
  have hfilter : (components path).filter (fun c => c ≠ .root ∧ c ≠ .current) =
      (segments path).filterMap ofSegment? := by
    unfold components
    split
    · next rest hsegments =>
        rw [List.filter_cons_of_neg (by simp), filter_walked]
    · next rest hsegments =>
        rw [List.filter_cons_of_neg (by simp), filter_walked]
    · exact filter_walked _
  rw [names?, hfilter]
  rfl

@[simp]
theorem names?_empty : names? "" = some [] := by
  rw [names?_eq, segments_empty]
  rfl

theorem names?_append_slash (left right : String) :
    names? (left ++ "/" ++ right) =
      (names? left).bind fun above => (names? right).map (above ++ ·) := by
  rw [names?_eq, names?_eq left, names?_eq right, segments_append_slash,
    List.filterMap_append, List.mapM_append]
  cases List.mapM Component.name? ((segments left).filterMap ofSegment?) with
  | none => rfl
  | some above =>
      cases List.mapM Component.name? ((segments right).filterMap ofSegment?) <;> rfl

theorem names?_join {left right : String} (h : ¬ IsAbsolute right) :
    names? (join left right) =
      (names? left).bind fun above => (names? right).map (above ++ ·) := by
  rcases join_eq left h with ⟨rfl, hjoin⟩ | ⟨front, rfl, hjoin⟩ | ⟨-, hjoin⟩
  · rw [hjoin]
    simp
  · have hleft := names?_append_slash front ""
    rw [String.append_empty] at hleft
    rw [hjoin, hleft, names?_append_slash]
    simp
  · rw [hjoin, names?_append_slash]

theorem IsEntryName.not_isAbsolute {name : String} (h : IsEntryName name) :
    ¬ IsAbsolute name := fun habs => h.no_slash (habs.subset (by simp))

theorem ofSegment?_of_name {name : String} (hempty : name ≠ "") (hdot : name ≠ ".")
    (hdotDot : name ≠ "..") : ofSegment? name = some (.normal name) := by
  simp [ofSegment?, hempty, hdot, hdotDot]

theorem IsEntryName.names? {name : String} (h : IsEntryName name) :
    Path.names? name = some [name] := by
  rw [names?_eq, segments_of_no_slash h.no_slash]
  simp [ofSegment?_of_name h.not_empty h.not_dot h.not_dotDot, Component.name?]

theorem names?_join_entry {name : String} (left : String) (h : IsEntryName name) :
    names? (join left name) = (names? left).map (· ++ [name]) := by
  rw [names?_join h.not_isAbsolute, h.names?]
  cases names? left <;> rfl

/-! ## Components -/

theorem intercalate_segments (path : String) :
    ['/'].intercalate ((segments path).map String.toList) = path.toList := by
  rw [segments, List.map_map]
  simp [Function.comp_def]

theorem segments_eq_empty_iff {path : String} : segments path = [""] ↔ path = "" := by
  constructor
  · intro h
    have hpath := intercalate_segments path
    rw [h] at hpath
    exact String.toList_inj.1 hpath.symm
  · rintro rfl
    exact segments_empty

/-- A path that starts with an empty segment and goes on is absolute. -/
theorem isAbsolute_of_segments {path second : String} {rest : List String}
    (h : segments path = "" :: second :: rest) : IsAbsolute path := by
  have hpath := intercalate_segments path
  rw [h] at hpath
  exact ⟨_, hpath⟩

/-- What a path starts with, by its segments. -/
def lead : List String → List Component
  | "" :: _ :: _ => [.root]
  | "." :: _ => [.current]
  | _ => []

theorem components_eq (path : String) :
    components path = lead (segments path) ++ (segments path).filterMap ofSegment? := by
  unfold components
  generalize segments path = found
  dsimp only
  split
  · rfl
  · rfl
  · next hroot hcurrent => simp only [lead, List.nil_append]

theorem lead_of_ne {first : String} (hempty : first ≠ "") (hdot : first ≠ ".")
    (rest : List String) : lead (first :: rest) = [] := by
  simp [lead, hempty, hdot]

/-- What a path starts with is known from its first two segments. -/
theorem lead_append {front : List String} (hne : front ≠ []) (hempty : front ≠ [""])
    (more : List String) : lead (front ++ more) = lead front := by
  obtain ⟨first, rest, rfl⟩ := List.exists_cons_of_ne_nil hne
  by_cases hfirst : first = ""
  · obtain ⟨second, rest, rfl⟩ : ∃ second others, rest = second :: others :=
      List.exists_cons_of_ne_nil fun hrest => hempty (by rw [hfirst, hrest])
    rw [hfirst]
    rfl
  · by_cases hdot : first = "."
    · rw [hdot]
      rfl
    · rw [List.cons_append, lead_of_ne hfirst hdot, lead_of_ne hfirst hdot]

/-- A relative path does not start with anything but a name, unless it starts with a dot. -/
theorem lead_segments {path : String} (habsolute : ¬ IsAbsolute path)
    (hdot : (segments path).head? ≠ some ".") : lead (segments path) = [] := by
  obtain ⟨first, rest, hsegments⟩ := List.exists_cons_of_ne_nil (segments_ne_nil path)
  rw [hsegments] at hdot ⊢
  by_cases hfirst : first = ""
  · cases rest with
    | nil => rw [hfirst]; rfl
    | cons second rest =>
        rw [hfirst] at hsegments
        exact absurd (isAbsolute_of_segments hsegments) habsolute
  · exact lead_of_ne hfirst (fun h => hdot (by rw [h]; rfl)) rest

/-- The components of a joined path are those of its left side and then what the segments of its
right side stand for. -/
theorem components_join {left right : String} (habsolute : ¬ IsAbsolute right)
    (hdot : (segments right).head? ≠ some ".") :
    components (join left right) =
      components left ++ (segments right).filterMap ofSegment? := by
  rw [components_eq, components_eq left]
  rcases join_eq left habsolute with ⟨rfl, hjoin⟩ | ⟨front, rfl, hjoin⟩ | ⟨hne, hjoin⟩
  · rw [hjoin, lead_segments habsolute hdot, segments_empty]
    rfl
  · have hleft := segments_append_slash front ""
    rw [String.append_empty, segments_empty] at hleft
    have hlead : lead (segments front ++ segments right) = lead (segments front ++ [""]) := by
      by_cases hempty : segments front = [""]
      · obtain ⟨first, rest, hsegments⟩ := List.exists_cons_of_ne_nil (segments_ne_nil right)
        rw [hempty, hsegments]
        rfl
      · rw [lead_append (segments_ne_nil front) hempty, lead_append (segments_ne_nil front) hempty]
    rw [hjoin, hleft, segments_append_slash, hlead, List.filterMap_append, List.filterMap_append]
    simp [ofSegment?]
  · rw [hjoin, segments_append_slash, List.filterMap_append,
      lead_append (segments_ne_nil left) (mt segments_eq_empty_iff.1 hne), List.append_assoc]

/-! ## Tenants -/

/-- A path that says no more than one name: its first segment is the name, and the others say
nothing. -/
structure SaysOnly (path name : String) : Prop where
  segments : ∃ rest, segments path = name :: rest ∧ ∀ segment ∈ rest, segment = "" ∨ segment = "."
  not_empty : name ≠ ""
  not_dot : name ≠ "."
  not_dotDot : name ≠ ".."

theorem ofSegment?_eq_none_iff {segment : String} :
    ofSegment? segment = none ↔ segment = "" ∨ segment = "." := by
  unfold ofSegment?
  split
  · next h => simp [h]
  · next h => split <;> simp [h]

theorem SaysOnly.filterMap {path name : String} (h : SaysOnly path name) :
    (Path.segments path).filterMap ofSegment? = [.normal name] := by
  obtain ⟨rest, hsegments, hrest⟩ := h.segments
  have hnone : rest.filterMap ofSegment? = [] :=
    List.filterMap_eq_nil_iff.2 fun segment hmem => ofSegment?_eq_none_iff.2 (hrest segment hmem)
  have hname := ofSegment?_of_name h.not_empty h.not_dot h.not_dotDot
  rw [hsegments, List.filterMap_cons_some hname, hnone]

theorem SaysOnly.components {path name : String} (h : SaysOnly path name) :
    Path.components path = [.normal name] := by
  obtain ⟨rest, hsegments, -⟩ := h.segments
  rw [components_eq, h.filterMap, hsegments, lead_of_ne h.not_empty h.not_dot]
  rfl

/-- A path names one entry exactly if it says no more than one name. -/
theorem isPlainName_iff {path : String} :
    isPlainName path = true ↔ ∃ name, SaysOnly path name := by
  constructor
  · intro h
    obtain ⟨name, hname⟩ : ∃ name, components path = [.normal name] := by
      unfold isPlainName at h
      split at h
      · next name hname => exact ⟨name, hname⟩
      · cases h
    obtain ⟨first, rest, hsegments⟩ := List.exists_cons_of_ne_nil (segments_ne_nil path)
    rw [components_eq, hsegments] at hname
    by_cases hempty : first = ""
    · cases rest <;> simp [hempty, lead, ofSegment?] at hname
    · by_cases hdot : first = "."
      · simp [hdot, lead] at hname
      · by_cases hdotDot : first = ".."
        · simp [hdotDot, lead, ofSegment?] at hname
        · have hfirst := ofSegment?_of_name hempty hdot hdotDot
          rw [lead_of_ne hempty hdot, List.nil_append, List.filterMap_cons_some hfirst] at hname
          have hrest := List.filterMap_eq_nil_iff.1 (List.cons.inj hname).2
          exact ⟨first, ⟨rest, hsegments, fun segment hmem =>
            ofSegment?_eq_none_iff.1 (hrest segment hmem)⟩, hempty, hdot, hdotDot⟩
  · rintro ⟨name, h⟩
    rw [isPlainName, h.components]

theorem SaysOnly.not_isAbsolute {path name : String} (h : SaysOnly path name) :
    ¬ IsAbsolute path := by
  intro habsolute
  obtain ⟨rest, hsegments, -⟩ := h.segments
  obtain ⟨others, -, hroot⟩ := segments_of_isAbsolute habsolute
  exact h.not_empty (List.cons.inj (hsegments.symm.trans hroot)).1

/-- A path that says one name adds it to what it is joined to. -/
theorem components_join_saysOnly {path name : String} (left : String) (h : SaysOnly path name) :
    components (join left path) = components left ++ [.normal name] := by
  obtain ⟨rest, hsegments, -⟩ := h.segments
  have hdot : (Path.segments path).head? ≠ some "." := by
    rw [hsegments]
    exact fun hsame => h.not_dot (Option.some.inj hsame)
  rw [components_join h.not_isAbsolute hdot, h.filterMap]

theorem IsEntryName.saysOnly {name : String} (h : IsEntryName name) : SaysOnly name name where
  segments := ⟨[], segments_of_no_slash h.no_slash, by simp⟩
  not_empty := h.not_empty
  not_dot := h.not_dot
  not_dotDot := h.not_dotDot

theorem components_join_entry {name : String} (left : String) (h : IsEntryName name) :
    components (join left name) = components left ++ [.normal name] :=
  components_join_saysOnly left h.saysOnly

end FleetOperator.Path
