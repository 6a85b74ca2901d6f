import FleetOperator.Proofs.Disk.Memory

/-!
# A tree with an entry placed in it

An entry is placed in a directory that is there; where there is none,
nothing happens. What was placed is found under its name, what lies neither
above nor below it is found as before, and a directory has no name that it
did not have, except that the directory of the entry has its name too.

That is what removing leaves, turned around, and the inductions are the
same: along the names that are looked for, with the names of the directory
beside them.
-/

namespace FleetOperator.MemoryDisk

open FleetOperator.Tree

variable {Content : Type}

theorem lookup_placed (name other : String) (entry : Tree String Content)
    (entries : List (String × Tree String Content)) :
    (entries.filter (fun e => !(e.1 == name)) ++ [(name, entry)]).lookup other =
      if other = name then some entry else entries.lookup other := by
  rw [List.lookup_append, lookup_filter_ne]
  by_cases hother : other = name
  · subst hother
    simp
  · have hne : (other == name) = false := by simp [hother]
    rw [if_neg hother, if_neg hother, List.lookup_cons, hne]
    simp

theorem find_mapEntries_self (f : List (String × Tree String Content) →
    List (String × Tree String Content)) {dir : List String} {tree : Tree String Content}
    {entries : List (String × Tree String Content)} (h : find dir tree = .ok (.dir entries)) :
    find dir (tree.mapEntries f dir) = .ok (.dir (f entries)) := by
  induction dir generalizing tree with
  | nil =>
      obtain rfl := Except.ok.inj h
      rfl
  | cons name rest ih =>
      cases tree with
      | file content => cases h
      | link target => cases h
      | dir before =>
          cases hlookup : before.lookup name with
          | none => simp [find, hlookup] at h
          | some child =>
              simp only [find, hlookup] at h
              simp only [mapEntries, find, lookup_map_at, hlookup, if_true, Option.map_some]
              exact ih h

theorem find_place_self {dir : List String} {tree : Tree String Content}
    {entries : List (String × Tree String Content)} (name : String)
    (entry : Tree String Content) (h : find dir tree = .ok (.dir entries)) :
    find (dir ++ [name]) (tree.place dir name entry) = .ok entry := by
  rw [find_append, place, find_mapEntries_self _ h]
  simp [Except.bind, find, lookup_placed]

theorem find_place_of_apart {names dir : List String} {name : String}
    (entry : Tree String Content) {tree : Tree String Content}
    (hbelow : ¬ (dir ++ [name]) <+: names) (habove : ¬ names <+: dir ++ [name]) :
    find names (tree.place dir name entry) = find names tree := by
  rw [place]
  induction names generalizing dir tree with
  | nil => exact absurd List.nil_prefix habove
  | cons first rest ih =>
      cases tree with
      | file content => cases dir <;> rfl
      | link target => cases dir <;> rfl
      | dir entries =>
          cases dir with
          | nil =>
              have hne : ¬ first = name := by
                rintro rfl
                exact hbelow ⟨rest, rfl⟩
              simp only [mapEntries, find, lookup_placed, if_neg hne]
          | cons second others =>
              simp only [mapEntries, find, lookup_map_at]
              by_cases hfirst : first = second
              · subst hfirst
                rw [if_pos rfl]
                cases entries.lookup first with
                | none => rfl
                | some child =>
                    refine ih (fun h => hbelow ?_) (fun h => habove ?_)
                    · exact List.cons_prefix_cons.2 ⟨rfl, h⟩
                    · exact List.cons_prefix_cons.2 ⟨rfl, h⟩
              · rw [if_neg hfirst]

/-- A file that is placed brings its name into a directory, and no other name into any. -/
theorem find_place_dir {names dir : List String} {name : String} {content : Content}
    {tree : Tree String Content} {entries : List (String × Tree String Content)}
    (h : find names (tree.place dir name (.file content)) = .ok (.dir entries)) :
    ∃ before, find names tree = .ok (.dir before) ∧
      entries.map (·.1) ⊆ name :: before.map (·.1) := by
  rw [place] at h
  induction names generalizing dir tree with
  | nil =>
      cases tree with
      | file content => cases dir <;> cases h
      | link target => cases dir <;> cases h
      | dir before =>
          refine ⟨before, rfl, ?_⟩
          cases dir with
          | nil =>
              obtain rfl := Tree.dir.inj (Except.ok.inj h)
              intro other hother
              simp only [List.map_append, List.map_cons, List.map_nil, List.mem_append,
                List.mem_singleton] at hother
              rcases hother with hkept | rfl
              · exact List.mem_cons_of_mem _ (List.map_subset _ List.filter_sublist.subset hkept)
              · exact List.mem_cons_self
          | cons second others =>
              obtain rfl := Tree.dir.inj (Except.ok.inj h)
              rw [map_fst_map_at]
              exact List.subset_cons_self _ _
  | cons first rest ih =>
      cases tree with
      | file content => cases dir <;> cases h
      | link target => cases dir <;> cases h
      | dir before =>
          cases dir with
          | nil =>
              simp only [mapEntries, find, lookup_placed] at h
              by_cases hfirst : first = name
              · -- Below a file there is no directory.
                rw [if_pos hfirst] at h
                cases rest <;> cases h
              · rw [if_neg hfirst] at h
                exact ⟨entries, h, List.subset_cons_self _ _⟩
          | cons second others =>
              simp only [mapEntries, find, lookup_map_at] at h ⊢
              cases hlookup : before.lookup first with
              | none => simp [hlookup] at h
              | some child =>
                  rw [hlookup] at h
                  by_cases hfirst : first = second
                  · rw [if_pos hfirst] at h
                    exact ih h
                  · rw [if_neg hfirst] at h
                    exact ⟨entries, h, List.subset_cons_self _ _⟩

end FleetOperator.MemoryDisk
