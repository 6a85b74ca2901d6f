/-!
# Maps in key order

A map that is printed has to list its keys in one order, and two maps that hold the same keys
with the same values have to print alike. `SortedMap` keeps its entries sorted by key, with the
order in the type, so equality of maps is equality of their entries and decides by comparing
them. The view is `get?`; each operation below comes with one lemma about it.
-/

namespace FleetOperator

/-- A finite map whose entries are sorted by key and hold each key once. -/
@[ext]
structure SortedMap (α β : Type) [Ord α] where
  entries : List (α × β)
  ordered : entries.Pairwise fun a b => compare a.1 b.1 = .lt

namespace SortedMap

variable {α β : Type} [Ord α]

instance [DecidableEq α] [DecidableEq β] : DecidableEq (SortedMap α β) := fun a b =>
  if h : a.entries = b.entries then isTrue (SortedMap.ext h)
  else isFalse fun e => h (e ▸ rfl)

/-- The map without entries. -/
def empty : SortedMap α β := ⟨[], .nil⟩

instance : EmptyCollection (SortedMap α β) := ⟨empty⟩
instance : Inhabited (SortedMap α β) := ⟨empty⟩

def isEmpty (m : SortedMap α β) : Bool := m.entries.isEmpty

def toList (m : SortedMap α β) : List (α × β) := m.entries

def keys (m : SortedMap α β) : List α := m.entries.map (·.1)

def values (m : SortedMap α β) : List β := m.entries.map (·.2)

/-- The value of a key among sorted entries. -/
def find (k : α) : List (α × β) → Option β
  | [] => none
  | (a, b) :: rest => if compare k a = .eq then some b else find k rest

/-- The value of a key. -/
def get? (m : SortedMap α β) (k : α) : Option β := find k m.entries

def contains (m : SortedMap α β) (k : α) : Bool := (m.get? k).isSome

/-- Puts a key at its place among sorted entries, over an older value. -/
def insertEntry (k : α) (v : β) : List (α × β) → List (α × β)
  | [] => [(k, v)]
  | (a, b) :: rest =>
    match compare k a with
    | .lt => (k, v) :: (a, b) :: rest
    | .eq => (k, v) :: rest
    | .gt => (a, b) :: insertEntry k v rest

/-- Drops a key from sorted entries. -/
def eraseEntry (k : α) (entries : List (α × β)) : List (α × β) :=
  entries.filter fun e => compare k e.1 != .eq

theorem mem_insertEntry {k : α} {v : β} {e : α × β} {entries : List (α × β)}
    (h : e ∈ insertEntry k v entries) : e = (k, v) ∨ e ∈ entries := by
  induction entries with
  | nil => exact .inl (by simpa [insertEntry] using h)
  | cons head rest ih =>
    obtain ⟨a, b⟩ := head
    unfold insertEntry at h
    split at h
    · rcases List.mem_cons.1 h with h | h
      · exact .inl h
      · exact .inr h
    · rcases List.mem_cons.1 h with h | h
      · exact .inl h
      · exact .inr (List.mem_cons_of_mem _ h)
    · rcases List.mem_cons.1 h with h | h
      · exact .inr (h ▸ List.mem_cons_self)
      · exact (ih h).imp id (List.mem_cons_of_mem _)

theorem ordered_insertEntry [Std.TransOrd α] [Std.LawfulEqOrd α] (k : α) (v : β)
    {entries : List (α × β)} (h : entries.Pairwise fun a b => compare a.1 b.1 = .lt) :
    (insertEntry k v entries).Pairwise fun a b => compare a.1 b.1 = .lt := by
  induction entries with
  | nil => simp [insertEntry]
  | cons head rest ih =>
    obtain ⟨a, b⟩ := head
    obtain ⟨hhead, hrest⟩ := List.pairwise_cons.1 h
    unfold insertEntry
    split
    next hlt =>
      refine List.pairwise_cons.2 ⟨fun e he => ?_, h⟩
      rcases List.mem_cons.1 he with rfl | he
      · exact hlt
      · exact Std.TransCmp.lt_trans hlt (hhead e he)
    next heq =>
      obtain rfl := Std.LawfulEqCmp.eq_of_compare heq
      exact List.pairwise_cons.2 ⟨hhead, hrest⟩
    next hgt =>
      refine List.pairwise_cons.2 ⟨fun e he => ?_, ih hrest⟩
      rcases mem_insertEntry he with rfl | he
      · exact Std.OrientedCmp.lt_of_gt hgt
      · exact hhead e he

/-- The map with `k` bound to `v`, over an older value of `k`. -/
def insert [Std.TransOrd α] [Std.LawfulEqOrd α] (m : SortedMap α β) (k : α) (v : β) :
    SortedMap α β :=
  ⟨insertEntry k v m.entries, ordered_insertEntry k v m.ordered⟩

/-- The map without `k`. -/
def erase (m : SortedMap α β) (k : α) : SortedMap α β :=
  ⟨eraseEntry k m.entries, m.ordered.filter _⟩

/-- The map of a list of bindings; the last binding of a key counts. -/
def ofList [Std.TransOrd α] [Std.LawfulEqOrd α] (bindings : List (α × β)) : SortedMap α β :=
  bindings.foldl (fun m e => m.insert e.1 e.2) empty

theorem find_insertEntry [Std.TransOrd α] [Std.LawfulEqOrd α] (k j : α) (v : β)
    (entries : List (α × β)) :
    find j (insertEntry k v entries) = if compare j k = .eq then some v else find j entries := by
  induction entries with
  | nil => simp [insertEntry, find]
  | cons head rest ih =>
    obtain ⟨a, b⟩ := head
    unfold insertEntry
    split
    · simp [find]
    next heq =>
      obtain rfl := Std.LawfulEqCmp.eq_of_compare heq
      by_cases h : compare j k = .eq <;> simp [find, h]
    next hgt =>
      by_cases hj : compare j a = .eq
      · obtain rfl := Std.LawfulEqCmp.eq_of_compare hj
        have hne : compare j k ≠ .eq := by
          rw [Std.OrientedCmp.lt_of_gt hgt]; decide
        simp [find, hne]
      · simp [find, hj, ih]

/-- A write is seen at its own key and nowhere else. -/
@[simp]
theorem get?_insert [Std.TransOrd α] [Std.LawfulEqOrd α] (m : SortedMap α β) (k j : α) (v : β) :
    (m.insert k v).get? j = if compare j k = .eq then some v else m.get? j :=
  find_insertEntry k j v m.entries

theorem get?_insert_self [Std.TransOrd α] [Std.LawfulEqOrd α] (m : SortedMap α β) (k : α)
    (v : β) : (m.insert k v).get? k = some v := by
  simp [Std.ReflCmp.compare_self]

theorem find_eraseEntry [Std.TransOrd α] [Std.LawfulEqOrd α] (k j : α) (entries : List (α × β)) :
    find j (eraseEntry k entries) = if compare j k = .eq then none else find j entries := by
  induction entries with
  | nil => simp [eraseEntry, find]
  | cons head rest ih =>
    obtain ⟨a, b⟩ := head
    by_cases hk : compare k a = .eq
    · obtain rfl := Std.LawfulEqCmp.eq_of_compare hk
      have : eraseEntry k ((k, b) :: rest) = eraseEntry k rest := by simp [eraseEntry]
      rw [this, ih]
      by_cases hj : compare j k = .eq <;> simp [find, hj]
    · have : eraseEntry k ((a, b) :: rest) = (a, b) :: eraseEntry k rest := by
        simp [eraseEntry, hk]
      rw [this]
      by_cases hj : compare j a = .eq
      · obtain rfl := Std.LawfulEqCmp.eq_of_compare hj
        have hne : compare j k ≠ .eq := fun h => hk (Std.OrientedCmp.eq_symm h)
        simp [find, hne]
      · simp [find, hj, ih]

/-- A removal is seen at its own key and nowhere else. -/
@[simp]
theorem get?_erase [Std.TransOrd α] [Std.LawfulEqOrd α] (m : SortedMap α β) (k j : α) :
    (m.erase k).get? j = if compare j k = .eq then none else m.get? j :=
  find_eraseEntry k j m.entries

@[simp]
theorem get?_empty (k : α) : (empty : SortedMap α β).get? k = none := rfl

end SortedMap

end FleetOperator
