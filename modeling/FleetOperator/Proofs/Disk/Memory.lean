import FleetOperator.Disk.Memory
import FleetOperator.Proofs.Disk.Path

/-!
# What removing a path leaves of a disk in memory

A disk is seen through `entryAt`: what is found under a path. Removing a
path is then two facts. Under the path itself there is nothing any more,
unless the removal is made to fail, when everything is as before. Under a
path that lies neither above nor below the removed one there is exactly what
was there before.

A path above the removed one is left out on purpose: its directory is still
there, with one entry less. The failures that are set, and the order of
listings, are never touched by a call, so what a later call is answered with
depends on the tree alone.
-/

namespace FleetOperator.MemoryDisk

variable {Content : Type}

/-! ## Trees -/

theorem lookup_filter_ne (name other : String) (entries : List (String × Tree String Content)) :
    (entries.filter fun e => !(e.1 == name)).lookup other =
      if other = name then none else entries.lookup other := by
  induction entries with
  | nil => simp
  | cons head rest ih =>
      obtain ⟨key, entry⟩ := head
      by_cases hkey : key = name
      · subst hkey
        rw [List.filter_cons_of_neg (by simp), ih]
        by_cases hother : other = key
        · rw [if_pos hother, if_pos hother]
        · have hne : (other == key) = false := by simp [hother]
          rw [if_neg hother, if_neg hother, List.lookup_cons, hne]
      · rw [List.filter_cons_of_pos (by simp [hkey]), List.lookup_cons, List.lookup_cons, ih]
        by_cases hother : other = key
        · have hname : ¬ other = name := by rw [hother]; exact hkey
          rw [if_neg hname, if_neg hname]
        · have hne : (other == key) = false := by simp [hother]
          rw [hne]

theorem lookup_map_at (f : Tree String Content → Tree String Content) (name other : String)
    (entries : List (String × Tree String Content)) :
    (entries.map fun e => if e.1 == name then (e.1, f e.2) else e).lookup other =
      if other = name then (entries.lookup other).map f else entries.lookup other := by
  induction entries with
  | nil => simp
  | cons head rest ih =>
      obtain ⟨key, entry⟩ := head
      have hkeep : (if key == name then (key, f entry) else (key, entry)) =
          (key, if key == name then f entry else entry) := by
        split <;> rfl
      rw [List.map_cons, hkeep, List.lookup_cons, List.lookup_cons, ih]
      by_cases hother : other = key
      · subst hother
        by_cases hkey : other = name <;> simp [hkey]
      · have hne : (other == key) = false := by simp [hother]
        rw [hne]

theorem find_prune_self {names : List String} {tree entry : Tree String Content}
    (hne : names ≠ []) (h : find names tree = .ok entry) :
    find names (tree.prune names) = .error .notFound := by
  induction names generalizing tree with
  | nil => exact absurd rfl hne
  | cons name rest ih =>
      cases tree with
      | file content => simp [find] at h
      | link target => simp [find] at h
      | dir entries =>
          cases hlookup : entries.lookup name with
          | none => simp [find, hlookup] at h
          | some child =>
              cases rest with
              | nil => simp [Tree.prune, find, lookup_filter_ne]
              | cons second others =>
                  simp only [find, hlookup] at h
                  simp only [Tree.prune, find, lookup_map_at, hlookup, if_true, Option.map_some]
                  exact ih (by simp) h

theorem find_prune_of_apart {names removed : List String} {tree : Tree String Content}
    (hbelow : ¬ removed <+: names) (habove : ¬ names <+: removed) :
    find names (tree.prune removed) = find names tree := by
  induction names generalizing removed tree with
  | nil => exact absurd List.nil_prefix habove
  | cons name rest ih =>
      cases removed with
      | nil => exact absurd List.nil_prefix hbelow
      | cons first others =>
          cases tree with
          | file content => cases others <;> rfl
          | link target => cases others <;> rfl
          | dir entries =>
              by_cases hname : name = first
              · subst hname
                cases others with
                | nil => exact absurd ⟨rest, rfl⟩ hbelow
                | cons second others =>
                    simp only [Tree.prune, find, lookup_map_at, if_true]
                    cases entries.lookup name with
                    | none => rfl
                    | some child =>
                        refine ih (fun h => hbelow ?_) (fun h => habove ?_)
                        · exact List.cons_prefix_cons.2 ⟨rfl, h⟩
                        · exact List.cons_prefix_cons.2 ⟨rfl, h⟩
              · cases others with
                | nil => simp only [Tree.prune, find, lookup_filter_ne, if_neg hname]
                | cons second others =>
                    simp only [Tree.prune, find, lookup_map_at, if_neg hname]

theorem find_append (above names : List String) (tree : Tree String Content) :
    find (above ++ names) tree = (find above tree).bind (find names) := by
  induction above generalizing tree with
  | nil => rfl
  | cons name rest ih =>
      cases tree with
      | file content => rfl
      | link target => rfl
      | dir entries =>
          simp only [List.cons_append, find]
          cases entries.lookup name with
          | none => rfl
          | some child => exact ih child

@[simp]
theorem prune_file (content : Content) (names : List String) :
    Tree.prune names (.file content : Tree String Content) = .file content := by
  rcases names with _ | ⟨first, _ | ⟨second, others⟩⟩ <;> rfl

@[simp]
theorem prune_link (target : Content) (names : List String) :
    Tree.prune names (.link target : Tree String Content) = .link target := by
  rcases names with _ | ⟨first, _ | ⟨second, others⟩⟩ <;> rfl

theorem map_fst_map_at (f : Tree String Content → Tree String Content) (name : String)
    (entries : List (String × Tree String Content)) :
    (entries.map fun e => if e.1 == name then (e.1, f e.2) else e).map (·.1) =
      entries.map (·.1) := by
  rw [List.map_map]
  refine List.map_congr_left fun entry _ => ?_
  simp only [Function.comp]
  split <;> rfl

/-- Taking something out of a tree adds no entry to any directory. -/
theorem find_prune_dir {names removed : List String} {tree : Tree String Content}
    {entries : List (String × Tree String Content)}
    (h : find names (tree.prune removed) = .ok (.dir entries)) :
    ∃ before, find names tree = .ok (.dir before) ∧
      entries.map (·.1) ⊆ before.map (·.1) := by
  induction names generalizing removed tree with
  | nil =>
      cases tree with
      | file content => simp [find] at h
      | link target => simp [find] at h
      | dir before =>
          refine ⟨before, rfl, ?_⟩
          rcases removed with _ | ⟨first, _ | ⟨second, others⟩⟩
          · obtain rfl := Tree.dir.inj (Except.ok.inj h)
            exact List.Subset.refl _
          · obtain rfl := Tree.dir.inj (Except.ok.inj h)
            exact List.map_subset _ List.filter_sublist.subset
          · obtain rfl := Tree.dir.inj (Except.ok.inj h)
            rw [map_fst_map_at]
            exact List.Subset.refl _
  | cons name rest ih =>
      cases tree with
      | file content => simp [find] at h
      | link target => simp [find] at h
      | dir before =>
          rcases removed with _ | ⟨first, _ | ⟨second, others⟩⟩
          · exact ⟨entries, h, List.Subset.refl _⟩
          · simp only [Tree.prune, find, lookup_filter_ne] at h ⊢
            split at h
            · next hlookup =>
                split at hlookup
                · cases hlookup
                · rw [hlookup]
                  exact ⟨entries, h, List.Subset.refl _⟩
            · cases h
          · simp only [Tree.prune, find, lookup_map_at] at h ⊢
            cases hlookup : before.lookup name with
            | none => simp [hlookup] at h
            | some child =>
                rw [hlookup] at h
                by_cases hname : name = first
                · rw [if_pos hname] at h
                  exact ih h
                · rw [if_neg hname] at h
                  exact ⟨entries, h, List.Subset.refl _⟩

/-! ## The view of a disk -/

/-- What is found under a path. -/
def entryAt (disk : MemoryDisk Content) (path : String) :
    Except DiskError (Tree String Content) :=
  match Path.names? path with
  | none => .error .notFound
  | some names => find names disk.tree

/-- Whether anything is found under a path. -/
def holds (disk : MemoryDisk Content) (path : String) : Bool := (disk.entryAt path).toBool

/-- What listing a directory is answered with. -/
def listing (disk : MemoryDisk Content) (path : String) : Except DiskError (List String) :=
  (disk.answer (.readDir path)).1

/-- Whether removing a path is made to fail. -/
def refuses (disk : MemoryDisk Content) (path : String) : Bool :=
  (disk.fault? (.removeAll path)).isSome

/-- The disk without the failures that are set on it. -/
def repaired (disk : MemoryDisk Content) : MemoryDisk Content := { disk with faults := [] }

/-- Neither of two paths lies under the other. -/
def Apart (path other : String) : Prop :=
  ∀ names others, Path.names? path = some names → Path.names? other = some others →
    ¬ names <+: others ∧ ¬ others <+: names

theorem Apart.symm {path other : String} (h : Apart path other) : Apart other path :=
  fun names others hnames hothers => (h others names hothers hnames).symm

/-- Paths below one place lie apart if what leads on from there does. -/
theorem apart_of_suffix {path other : String} {above : Option (List String)}
    {names others : List String} (hpath : Path.names? path = above.map (· ++ names))
    (hother : Path.names? other = above.map (· ++ others)) (hbelow : ¬ names <+: others)
    (habove : ¬ others <+: names) : Apart path other := by
  intro whole whole' hwhole hwhole'
  rw [hpath] at hwhole
  rw [hother] at hwhole'
  obtain ⟨front, hfront, rfl⟩ := Option.map_eq_some_iff.1 hwhole
  rw [hfront] at hwhole'
  obtain rfl := Option.some.inj hwhole'
  rw [List.prefix_append_right_inj, List.prefix_append_right_inj]
  exact ⟨hbelow, habove⟩

/-- What is found in place of an entry that was removed. -/
def vacated : Except DiskError (Tree String Content) → Except DiskError (Tree String Content)
  | .ok _ => .error .notFound
  | .error e => .error e

theorem toBool_vacated (found : Except DiskError (Tree String Content)) :
    (vacated found).toBool = false := by
  cases found <;> rfl

@[simp]
theorem vacated_vacated (found : Except DiskError (Tree String Content)) :
    vacated (vacated found) = vacated found := by
  cases found <;> rfl

theorem holds_of_tree {disk other : MemoryDisk Content} (h : other.tree = disk.tree)
    (path : String) : other.holds path = disk.holds path := by
  rw [holds, holds, entryAt, entryAt, h]

theorem exists_names_of_holds {disk : MemoryDisk Content} {path : String}
    (h : disk.holds path = true) : ∃ names, Path.names? path = some names := by
  rw [holds, entryAt] at h
  cases hnames : Path.names? path with
  | none =>
      rw [hnames] at h
      cases h
  | some names => exact ⟨names, rfl⟩

theorem refuses_repaired (disk : MemoryDisk Content) (path : String) :
    disk.repaired.refuses path = false := rfl

theorem entryAt_repaired (disk : MemoryDisk Content) (path : String) :
    disk.repaired.entryAt path = disk.entryAt path := rfl

/-! ## Listings -/

theorem list_eq (disk : MemoryDisk Content) (path : String) :
    disk.list path = (disk.entryAt path).bind fun entry =>
      match entry with
      | .dir entries =>
          let sorted := (entries.map (·.1)).mergeSort fun a b => a ≤ b
          .ok (if disk.descending then sorted.reverse else sorted)
      | _ => .error .notADirectory := by
  unfold list entryAt
  cases Path.names? path with
  | none => rfl
  | some names =>
      simp only
      cases find names disk.tree with
      | error e => rfl
      | ok entry => cases entry <;> rfl

theorem mem_of_list_eq_ok {disk : MemoryDisk Content} {path : String} {names : List String}
    (h : disk.list path = .ok names) :
    ∃ entries, disk.entryAt path = .ok (.dir entries) ∧
      ∀ name, name ∈ names ↔ name ∈ entries.map (·.1) := by
  rw [list_eq] at h
  cases hentry : disk.entryAt path with
  | error e =>
      rw [hentry] at h
      cases h
  | ok entry =>
      rw [hentry] at h
      cases entry with
      | file content => cases h
      | link target => cases h
      | dir entries =>
          refine ⟨entries, rfl, fun name => ?_⟩
          obtain rfl := Except.ok.inj h
          split
          · rw [List.mem_reverse, List.mem_mergeSort]
          · rw [List.mem_mergeSort]

theorem list_eq_nil_iff {disk : MemoryDisk Content} {path : String} :
    disk.list path = .ok [] ↔ disk.entryAt path = .ok (.dir []) := by
  constructor
  · intro h
    obtain ⟨entries, hentry, hmem⟩ := mem_of_list_eq_ok h
    have hnil : entries.map (·.1) = [] :=
      List.eq_nil_iff_forall_not_mem.2 fun name hname => by simpa using (hmem name).2 hname
    rw [hentry, List.map_eq_nil_iff.1 hnil]
  · intro h
    rw [list_eq, h]
    simp [Except.bind]

/-- A call is put on record, and fails or is served. -/
theorem answer_eq (disk : MemoryDisk Content) (call : DiskCall) :
    disk.answer call =
      match disk.fault? call with
      | some e => (.error e, { disk with calls := call :: disk.calls })
      | none => { disk with calls := call :: disk.calls }.serve call := rfl

theorem listing_eq (disk : MemoryDisk Content) (path : String) :
    disk.listing path =
      match disk.fault? (.readDir path) with
      | some e => .error e
      | none => disk.list path := by
  rw [listing, answer_eq]
  cases disk.fault? (.readDir path) <;> rfl

/-- What is there is listed in the directory above it. -/
theorem mem_list_of_holds {disk : MemoryDisk Content} {path name : String}
    (hname : Path.IsEntryName name) (h : disk.holds (Path.join path name) = true) :
    ∃ names, disk.list path = .ok names ∧ name ∈ names := by
  rw [holds, entryAt, Path.names?_join_entry path hname] at h
  rw [list_eq, entryAt]
  cases hnames : Path.names? path with
  | none =>
      rw [hnames] at h
      cases h
  | some above =>
      rw [hnames, Option.map_some] at h
      simp only [find_append] at h ⊢
      cases hfind : find above disk.tree with
      | error e =>
          rw [hfind] at h
          cases h
      | ok entry =>
          rw [hfind] at h
          cases entry with
          | file content => cases h
          | link target => cases h
          | dir entries =>
              refine ⟨_, rfl, ?_⟩
              have hmem : name ∈ entries.map (·.1) := by
                cases hlookup : entries.lookup name with
                | none =>
                    simp only [Except.bind, find, hlookup] at h
                    cases h
                | some child =>
                    obtain ⟨e, hentry, hkey⟩ :=
                      List.lookup_isSome_iff.1 (Option.isSome_of_eq_some hlookup)
                    rw [beq_iff_eq.1 hkey]
                    exact List.mem_map_of_mem hentry
              split
              · rw [List.mem_reverse, List.mem_mergeSort]
                exact hmem
              · rw [List.mem_mergeSort]
                exact hmem

theorem list_repaired (disk : MemoryDisk Content) (path : String) :
    disk.repaired.list path = disk.list path := rfl

theorem listing_repaired (disk : MemoryDisk Content) (path : String) :
    disk.repaired.listing path = disk.list path := rfl

/-! ## Removals -/

/-- A removal leaves the failures and the order of listings as they are. -/
structure SameSetting (disk other : MemoryDisk Content) : Prop where
  faults : other.faults = disk.faults
  descending : other.descending = disk.descending

theorem SameSetting.refuses {disk other : MemoryDisk Content} (h : SameSetting disk other)
    (path : String) : other.refuses path = disk.refuses path := by
  unfold MemoryDisk.refuses fault?
  rw [h.faults]

theorem SameSetting.fault? {disk other : MemoryDisk Content} (h : SameSetting disk other)
    (call : DiskCall) : other.fault? call = disk.fault? call := by
  unfold MemoryDisk.fault?
  rw [h.faults]

theorem SameSetting.trans {disk other third : MemoryDisk Content} (h : SameSetting disk other)
    (h' : SameSetting other third) : SameSetting disk third :=
  ⟨h'.faults.trans h.faults, h'.descending.trans h.descending⟩

/-- The tree after a removal: as before, or without what was found under the path. -/
theorem tree_after_removal (disk : MemoryDisk Content) (path : String) :
    (disk.answer (.removeAll path)).2.tree =
      if disk.refuses path then disk.tree
      else match Path.names? path with
        | none => disk.tree
        | some names =>
            if (find names disk.tree).toBool then disk.tree.prune names else disk.tree := by
  rw [answer_eq, refuses]
  cases disk.fault? (.removeAll path) with
  | some e => rfl
  | none =>
      simp only [serve, removed, Option.isSome_none, Bool.false_eq_true, if_false]
      cases Path.names? path with
      | none => rfl
      | some names =>
          cases hfind : find names disk.tree with
          | ok entry => simp [hfind, Except.toBool]
          | error e => cases e <;> simp [hfind, Except.toBool]

theorem sameSetting_answer (disk : MemoryDisk Content) (call : DiskCall) :
    SameSetting disk (disk.answer call).2 := by
  rw [answer_eq]
  cases disk.fault? call with
  | some e => exact ⟨rfl, rfl⟩
  | none =>
      cases call with
      | readDir path => exact ⟨rfl, rfl⟩
      | removeAll path =>
          simp only [serve]
          split <;> exact ⟨rfl, rfl⟩

theorem entryAt_answer_removeAll_self (disk : MemoryDisk Content) {path : String}
    (hpath : Path.names? path ≠ some []) :
    (disk.answer (.removeAll path)).2.entryAt path =
      if disk.refuses path then disk.entryAt path else vacated (disk.entryAt path) := by
  unfold entryAt
  rw [tree_after_removal]
  cases hnames : Path.names? path with
  | none => simp [vacated]
  | some names =>
      have hne : names ≠ [] := fun h => hpath (by rw [hnames, h])
      cases disk.refuses path with
      | true => rfl
      | false =>
          simp only [Bool.false_eq_true, if_false]
          cases hfind : find names disk.tree with
          | ok entry => exact find_prune_self hne hfind
          | error e => exact hfind

theorem entryAt_answer_removeAll_of_apart (disk : MemoryDisk Content) {path other : String}
    (h : Apart path other) :
    (disk.answer (.removeAll path)).2.entryAt other = disk.entryAt other := by
  unfold entryAt
  rw [tree_after_removal]
  cases hother : Path.names? other with
  | none => rfl
  | some others =>
      cases hnames : Path.names? path with
      | none => simp
      | some names =>
          obtain ⟨hbelow, habove⟩ := h names others hnames hother
          simp only
          split
          · rfl
          · split
            · exact find_prune_of_apart hbelow habove
            · rfl

theorem tree_answer_readDir (disk : MemoryDisk Content) (path : String) :
    (disk.answer (.readDir path)).2.tree = disk.tree := by
  rw [answer_eq]
  cases disk.fault? (.readDir path) <;> rfl

/-- A directory after a call was there before, with at least the same names. -/
theorem entryAt_answer_dir {disk : MemoryDisk Content} {call : DiskCall} {path : String}
    {entries : List (String × Tree String Content)}
    (h : (disk.answer call).2.entryAt path = .ok (.dir entries)) :
    ∃ before, disk.entryAt path = .ok (.dir before) ∧
      entries.map (·.1) ⊆ before.map (·.1) := by
  have hsame : disk.entryAt path = .ok (.dir entries) → ∃ before,
      disk.entryAt path = .ok (.dir before) ∧ entries.map (·.1) ⊆ before.map (·.1) :=
    fun hdir => ⟨entries, hdir, List.Subset.refl _⟩
  unfold entryAt at h hsame ⊢
  cases call with
  | readDir listed =>
      rw [tree_answer_readDir] at h
      exact hsame h
  | removeAll removed =>
      rw [tree_after_removal] at h
      cases hpath : Path.names? path with
      | none => simp [hpath] at h
      | some names =>
          simp only [hpath] at h hsame ⊢
          cases hremoved : Path.names? removed with
          | none => exact hsame (by simpa [hremoved] using h)
          | some others =>
              simp only [hremoved] at h
              split at h
              · exact hsame h
              · split at h
                · exact find_prune_dir h
                · exact hsame h

/-! ## Whole programs

Whatever a program does, it sets no failure and turns no listing around. It
does not bring a name into a directory either, so what was listed as the
names of entries goes on being listed so. -/

theorem run_readDir_bind {α : Type} (disk : MemoryDisk Content) (path : String)
    (next : Except DiskError (List String) → Dialogue diskInterface α) :
    disk.run (Disk.readDir path >>= next) =
      (disk.answer (.readDir path)).2.run (next (disk.listing path)) := rfl

theorem run_removeAll_bind {α : Type} (disk : MemoryDisk Content) (path : String)
    (next : Except DiskError Unit → Dialogue diskInterface α) :
    disk.run (Disk.removeAll path >>= next) =
      (disk.answer (.removeAll path)).2.run (next (disk.answer (.removeAll path)).1) := rfl

theorem run_bind {α β : Type} (disk : MemoryDisk Content) (program : Dialogue diskInterface α)
    (next : α → Dialogue diskInterface β) :
    disk.run (program >>= next) =
      (disk.run program).2.run (next (disk.run program).1) :=
  Dialogue.run_bind _ _ _ _

theorem sameSetting_run {α : Type} (program : Dialogue diskInterface α)
    (disk : MemoryDisk Content) : SameSetting disk (disk.run program).2 := by
  induction program generalizing disk with
  | done value => exact ⟨rfl, rfl⟩
  | ask call next ih => exact (sameSetting_answer disk call).trans (ih _ _)

/-- The entries of a directory have names that an entry can have. -/
def NamesEntries (disk : MemoryDisk Content) (path : String) : Prop :=
  ∀ entries, disk.entryAt path = .ok (.dir entries) →
    ∀ name ∈ entries.map (·.1), Path.IsEntryName name

theorem NamesEntries.of_mem_list {disk : MemoryDisk Content} {path name : String}
    {names : List String} (h : NamesEntries disk path) (hlist : disk.list path = .ok names)
    (hname : name ∈ names) : Path.IsEntryName name := by
  obtain ⟨entries, hentry, hmem⟩ := mem_of_list_eq_ok hlist
  exact h entries hentry name ((hmem name).1 hname)

theorem NamesEntries.repaired {disk : MemoryDisk Content} {path : String}
    (h : NamesEntries disk path) : NamesEntries disk.repaired path := h

theorem NamesEntries.answer {disk : MemoryDisk Content} {path : String}
    (h : NamesEntries disk path) (call : DiskCall) :
    NamesEntries (disk.answer call).2 path := by
  intro entries hentry name hname
  obtain ⟨before, hbefore, hsub⟩ := entryAt_answer_dir hentry
  exact h before hbefore name (hsub hname)

theorem NamesEntries.run {α : Type} {disk : MemoryDisk Content} {path : String}
    (h : NamesEntries disk path) (program : Dialogue diskInterface α) :
    NamesEntries (disk.run program).2 path := by
  induction program generalizing disk with
  | done value => exact h
  | ask call next ih => exact ih _ (h.answer call)

end FleetOperator.MemoryDisk
