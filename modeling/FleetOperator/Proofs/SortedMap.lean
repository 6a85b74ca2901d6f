import FleetOperator.SortedMap

/-!
# Sorted maps as what they were made from

The entries of a map, put into an empty one in their order, are the map
again. What is put in under a key is gone when the key is taken out, and a
map without the key is then what it was.
-/

namespace FleetOperator

namespace SortedMap

variable {α β : Type} [Ord α]

theorem insertEntry_of_forall_lt [Std.TransOrd α] {k : α} {v : β} {entries : List (α × β)}
    (h : ∀ e ∈ entries, compare e.1 k = .lt) : insertEntry k v entries = entries ++ [(k, v)] := by
  induction entries with
  | nil => rfl
  | cons head rest ih =>
      obtain ⟨hhead, hrest⟩ := List.forall_mem_cons.1 h
      rw [insertEntry, Std.OrientedCmp.gt_of_lt hhead]
      simp only
      rw [ih hrest, List.cons_append]

theorem entries_foldl_insert [Std.TransOrd α] [Std.LawfulEqOrd α] {m : SortedMap α β}
    {rest : List (α × β)}
    (h : (m.entries ++ rest).Pairwise fun a b => compare a.1 b.1 = .lt) :
    (rest.foldl (fun m e => m.insert e.1 e.2) m).entries = m.entries ++ rest := by
  induction rest generalizing m with
  | nil => rw [List.foldl_nil, List.append_nil]
  | cons e rest ih =>
      obtain ⟨-, -, hcross⟩ := List.pairwise_append.1 h
      have hinsert : (m.insert e.1 e.2).entries = m.entries ++ [e] :=
        insertEntry_of_forall_lt fun a ha => hcross a ha e List.mem_cons_self
      have happend : (m.insert e.1 e.2).entries ++ rest = m.entries ++ e :: rest := by
        rw [hinsert, List.append_assoc, List.singleton_append]
      rw [List.foldl_cons, ih (by rw [happend]; exact h), happend]

@[simp]
theorem ofList_toList [Std.TransOrd α] [Std.LawfulEqOrd α] (m : SortedMap α β) :
    ofList m.toList = m := by
  have hentries : (m.entries.foldl (fun m e => m.insert e.1 e.2) empty).entries =
      [] ++ m.entries := entries_foldl_insert m.ordered
  exact SortedMap.ext hentries

theorem eraseEntry_of_find_eq_none {k : α} {entries : List (α × β)}
    (h : find k entries = none) : eraseEntry k entries = entries := by
  induction entries with
  | nil => rfl
  | cons head rest ih =>
      rw [find] at h
      split at h
      · cases h
      · next hne =>
          have hkeep : (compare k head.1 != .eq) = true := by simpa using hne
          rw [eraseEntry, List.filter_cons, if_pos hkeep]
          exact congrArg _ (ih h)

theorem eraseEntry_insertEntry [Std.LawfulEqOrd α] (k : α) (v : β) (entries : List (α × β)) :
    eraseEntry k (insertEntry k v entries) = eraseEntry k entries := by
  have hself (rest : List (α × β)) : eraseEntry k ((k, v) :: rest) = eraseEntry k rest := by
    simp [eraseEntry]
  induction entries with
  | nil => exact hself []
  | cons head rest ih =>
      obtain ⟨a, b⟩ := head
      rw [insertEntry]
      split
      · exact hself _
      · next heq =>
          obtain rfl := Std.LawfulEqCmp.eq_of_compare heq
          simp [eraseEntry]
      · rw [eraseEntry, eraseEntry, List.filter_cons, List.filter_cons]
        rw [eraseEntry, eraseEntry] at ih
        rw [ih]

/-- Where a key is taken out, what was put in under it does not matter. -/
theorem erase_insert_self [Std.TransOrd α] [Std.LawfulEqOrd α] (m : SortedMap α β) (k : α)
    (v : β) : (m.insert k v).erase k = m.erase k :=
  SortedMap.ext (eraseEntry_insertEntry k v m.entries)

/-- A map loses nothing with a key exactly when it does not hold the key. -/
theorem erase_eq_self_iff [Std.TransOrd α] [Std.LawfulEqOrd α] {m : SortedMap α β} {k : α} :
    m.erase k = m ↔ m.get? k = none := by
  constructor
  · intro h
    rw [← h, get?_erase, if_pos Std.ReflCmp.compare_self]
  · intro h
    exact SortedMap.ext (eraseEntry_of_find_eq_none h)

/-- A new key that is put in and taken out again leaves nothing behind. -/
theorem erase_insert [Std.TransOrd α] [Std.LawfulEqOrd α] {m : SortedMap α β} {k : α}
    (h : m.get? k = none) (v : β) : (m.insert k v).erase k = m := by
  rw [erase_insert_self, erase_eq_self_iff.2 h]

end SortedMap

end FleetOperator
